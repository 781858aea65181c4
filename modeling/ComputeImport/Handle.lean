import ComputeImport.Text.Shape

/-!
# Kinds of objects and the handles that name them

A compute backend keeps objects of its own, named by native handles that are never interpreted on
this side.  Its function table wraps them in objects of a second kind, named by wrapper handles,
which carry the kind of the object they name in their type.
-/

namespace ComputeImport

open Text

/-- The kinds of objects that a compute backend keeps. -/
inductive ObjectKind where
  | platform | device | context | queue | event | program | kernel | mem
  deriving DecidableEq, Repr

namespace ObjectKind

/-- The kind as messages call it. -/
def name : ObjectKind → String
  | platform => "platform"
  | device => "device"
  | context => "context"
  | queue => "queue"
  | event => "event"
  | program => "program"
  | kernel => "kernel"
  | mem => "mem"

/-- The name of the type of handles to wrappers of this kind. -/
def handleName : ObjectKind → String
  | platform => "PlatformHandle"
  | device => "DeviceHandle"
  | context => "ContextHandle"
  | queue => "QueueHandle"
  | event => "EventHandle"
  | program => "ProgramHandle"
  | kernel => "KernelHandle"
  | mem => "MemHandle"

end ObjectKind

/-- The name of an object inside the backend. -/
structure NativeHandle where
  raw : Nat
  deriving DecidableEq, Repr

namespace NativeHandle

/-- The null handle, which names nothing. -/
def isNull (handle : NativeHandle) : Bool :=
  handle.raw == 0

/-- A native handle as messages show it. -/
def text (handle : NativeHandle) : String :=
  "native:0x" ++ hexadecimal handle.raw

/-- A native handle as inspection shows it. -/
def shape (handle : NativeHandle) : Shape :=
  .tuple "NativeHandle" [.number handle.raw]

end NativeHandle

/-- The name of a function table's wrapper around a native object of some kind. -/
structure Handle (kind : ObjectKind) where
  id : Nat
  deriving DecidableEq, Repr

namespace Handle

variable {kind : ObjectKind}

/-- A wrapper handle as messages show it. -/
def text (handle : Handle kind) : String :=
  kind.name ++ toString handle.id

/-- A wrapper handle as inspection shows it. -/
def shape (handle : Handle kind) : Shape :=
  .tuple kind.handleName [.number handle.id]

end Handle

/-- The name of the wrapper of a platform. -/
abbrev PlatformHandle := Handle .platform
/-- The name of the wrapper of a device. -/
abbrev DeviceHandle := Handle .device
/-- The name of the wrapper of a context. -/
abbrev ContextHandle := Handle .context
/-- The name of the wrapper of a queue. -/
abbrev QueueHandle := Handle .queue
/-- The name of the wrapper of an event. -/
abbrev EventHandle := Handle .event
/-- The name of the wrapper of a program. -/
abbrev ProgramHandle := Handle .program
/-- The name of the wrapper of a kernel. -/
abbrev KernelHandle := Handle .kernel
/-- The name of the wrapper of a memory object. -/
abbrev MemHandle := Handle .mem

end ComputeImport
