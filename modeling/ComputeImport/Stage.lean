/-!
# Stages of a program and states of a bundle

A native program stands at a stage of its own for each of its devices.  A bundle of kernels is
asked for in one of three states.  `Stage.plan` says what takes a program from the stage where it
stands to the state that is asked for.
-/

namespace ComputeImport

/-- How far a program has been built for one device. -/
inductive Stage where
  /-- Nothing has been built yet. -/
  | unbuilt
  /-- Compiled, and not linked. -/
  | object
  /-- Compiled, for use in other programs. -/
  | library
  | executable
  deriving DecidableEq, Repr

namespace Stage

/-- A stage as messages call it. -/
def text : Stage → String
  | unbuilt => "none"
  | object => "compiled-object"
  | library => "library"
  | executable => "executable"

/-- A stage as inspection shows it. -/
def label : Stage → String
  | unbuilt => "None"
  | object => "CompiledObject"
  | library => "Library"
  | executable => "Executable"

end Stage

/-- The state in which a bundle is asked for. -/
inductive BundleState where
  | input | object | executable
  deriving DecidableEq, Repr

namespace BundleState

/-- A state as messages call it. -/
def text : BundleState → String
  | input => "input"
  | object => "object"
  | executable => "executable"

/-- A state as inspection shows it. -/
def label : BundleState → String
  | input => "Input"
  | object => "Object"
  | executable => "Executable"

end BundleState

/-- An operation that takes a program further. -/
inductive BuildOperation where
  | compile | build | link
  deriving DecidableEq, Repr

namespace BuildOperation

/-- An operation as messages call it. -/
def text : BuildOperation → String
  | compile => "compile"
  | build => "build"
  | link => "link"

/-- An operation as inspection shows it. -/
def label : BuildOperation → String
  | compile => "Compile"
  | build => "Build"
  | link => "Link"

end BuildOperation

/-- What has to be done about a program for one device. -/
inductive BuildAction where
  /-- The program is where it should be. -/
  | keep
  /-- The program has to be taken further. -/
  | run (operation : BuildOperation)
  /-- The program is past the state that is asked for. -/
  | mismatch
  deriving DecidableEq, Repr

namespace BuildAction

/-- Whether the action changes the program. -/
def mutates : BuildAction → Bool
  | run _ => true
  | keep | mismatch => false

/-- An action as inspection shows it. -/
def label : BuildAction → String
  | keep => "Keep"
  | run operation => operation.label
  | mismatch => "Mismatch"

end BuildAction

/-- What takes a program from the stage where it stands to the state that is asked for. -/
def Stage.plan : Stage → BundleState → BuildAction
  | .unbuilt, .input => .keep
  | .unbuilt, .object => .run .compile
  | .unbuilt, .executable => .run .build
  | .object, .input | .library, .input => .mismatch
  | .object, .object | .library, .object => .keep
  | .object, .executable | .library, .executable => .run .link
  | .executable, .input | .executable, .object => .mismatch
  | .executable, .executable => .keep

end ComputeImport
