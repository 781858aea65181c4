import ComputeImport.Handle

/-!
# Errors that a function table reports

The result codes of native calls, their messages, and their shape under inspection.  The kind of an
object is a text here, because a backend may report kinds of its own.
-/

namespace ComputeImport

open Text

/-- Why a native call failed. -/
inductive NativeError where
  /-- The backend does not have this entry point. -/
  | unsupportedFeature (entryPoint : String)
  /-- The handle names no live wrapper of the kind. -/
  | invalidHandle (kind : String) (id : Nat)
  /-- The handle names no live native object of the kind. -/
  | invalidNativeHandle (kind : String) (handle : NativeHandle)
  /-- The backend refuses an argument. -/
  | invalidValue (reason : String)
  /-- Compiling or building a program failed. -/
  | buildFailure (log : String)
  /-- Linking programs failed. -/
  | linkFailure (log : String)
  /-- The backend does not know the memory object. -/
  | invalidMemObject (id : Nat)
  /-- A wrapper was released that has no reference left. -/
  | refCountUnderflow (kind : String) (id : Nat)
  | other (text : String)
  deriving DecidableEq, Repr

namespace NativeError

/-- Whether the error says that the entry point does not exist. -/
def isUnsupported : NativeError → Bool
  | unsupportedFeature _ => true
  | _ => false

/-- The error as a message. -/
def message : NativeError → String
  | unsupportedFeature entryPoint => "unsupported feature: " ++ entryPoint
  | invalidHandle kind id => "invalid " ++ kind ++ " handle: " ++ toString id
  | invalidNativeHandle kind handle => "invalid native " ++ kind ++ " handle: " ++ handle.text
  | invalidValue reason => "invalid value: " ++ reason
  | buildFailure log => "program build failure: " ++ log
  | linkFailure log => "program link failure: " ++ log
  | invalidMemObject id => "invalid memory object: " ++ toString id
  | refCountUnderflow kind id => "reference count underflow on " ++ kind ++ " " ++ toString id
  | other text => text

/-- The name of the error's kind, as inspection shows it. -/
def label : NativeError → String
  | unsupportedFeature _ => "UnsupportedFeature"
  | invalidHandle _ _ => "InvalidHandle"
  | invalidNativeHandle _ _ => "InvalidNativeHandle"
  | invalidValue _ => "InvalidValue"
  | buildFailure _ => "BuildFailure"
  | linkFailure _ => "LinkFailure"
  | invalidMemObject _ => "InvalidMemObject"
  | refCountUnderflow _ _ => "RefCountUnderflow"
  | other _ => "Other"

/-- The error under inspection. -/
def shape (error : NativeError) : Shape :=
  match error with
  | unsupportedFeature entryPoint => .tuple error.label [.text entryPoint]
  | invalidHandle kind id => .record error.label [("kind", .text kind), ("id", .number id)]
  | invalidNativeHandle kind handle =>
      .record error.label [("kind", .text kind), ("handle", handle.shape)]
  | invalidValue reason => .tuple error.label [.text reason]
  | buildFailure log => .record error.label [("log", .text log)]
  | linkFailure log => .record error.label [("log", .text log)]
  | invalidMemObject id => .tuple error.label [.number id]
  | refCountUnderflow kind id =>
      .record error.label [("kind", .text kind), ("id", .number id)]
  | other text => .tuple error.label [.text text]

end NativeError

end ComputeImport
