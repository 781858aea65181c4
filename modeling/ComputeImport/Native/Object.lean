import ComputeImport.Backend
import ComputeImport.Handle
import ComputeImport.Ledger
import ComputeImport.Properties
import ComputeImport.Stage

/-!
# Native objects and their wrappers

What a backend knows of each object that it keeps, and what a function table knows of each wrapper
that it has put around one.
-/

namespace ComputeImport

/-- What a backend knows of a program. -/
structure ProgramBinary where
  /-- The devices of the program, in the backend's order; a device may be listed twice. -/
  devices : List NativeHandle
  /-- How far the program has been built for each device. -/
  stages : Ledger NativeHandle Stage
  /-- The names of the kernels that the program defines. -/
  kernels : List String
  deriving DecidableEq

namespace ProgramBinary

/-- A program that stands at one stage for all its devices. -/
def uniform (devices : List NativeHandle) (stage : Stage) (kernels : List String) :
    ProgramBinary :=
  { devices
    stages := devices.foldl (fun stages device => stages.set device stage) {}
    kernels }

/-- The stage for a device; a device without a recorded stage has not been built for. -/
def stageOf (binary : ProgramBinary) (device : NativeHandle) : Stage :=
  (binary.stages.get? device).getD .unbuilt

end ProgramBinary

/-- What a backend knows of an object, by its kind. -/
inductive NativeData where
  | platform (kind : NativeKind)
  | device (platform : NativeHandle)
  | context (devices : List NativeHandle)
  | queue (device : NativeHandle)
  | event
  | program (binary : ProgramBinary)
  | kernel (program : NativeHandle)
  | mem
  deriving DecidableEq

/-- The kind of an object, from what is known of it. -/
def NativeData.kind : NativeData → ObjectKind
  | platform _ => .platform
  | device _ => .device
  | context _ => .context
  | queue _ => .queue
  | event => .event
  | program _ => .program
  | kernel _ => .kernel
  | mem => .mem

namespace NativeData

/-- The kind that a platform reports. -/
def platform? : NativeData → Option NativeKind
  | .platform reported => some reported
  | _ => none

/-- The platform of a device. -/
def device? : NativeData → Option NativeHandle
  | .device owner => some owner
  | _ => none

/-- The device that a queue submits to. -/
def queue? : NativeData → Option NativeHandle
  | .queue target => some target
  | _ => none

/-- What is known of a program. -/
def program? : NativeData → Option ProgramBinary
  | .program binary => some binary
  | _ => none

/-- The program in which a kernel was created. -/
def kernel? : NativeData → Option NativeHandle
  | .kernel owner => some owner
  | _ => none

end NativeData

/-- An object that a backend keeps, with the number of references to it. -/
structure NativeObject where
  data : NativeData
  refs : Nat
  deriving DecidableEq

/-- What a function table knows of a queue that it has wrapped. -/
structure QueueRecord where
  device : DeviceHandle
  flags : QueueFlags
  descriptor : Int32
  deriving DecidableEq

/-- What a function table knows of a wrapper, by its kind. -/
inductive WrapperData where
  | platform | device | context
  | queue (queue : QueueRecord)
  | event | program | kernel | mem
  deriving DecidableEq

/-- The kind of a wrapper, from what is known of it. -/
def WrapperData.kind : WrapperData → ObjectKind
  | platform => .platform
  | device => .device
  | context => .context
  | queue _ => .queue
  | event => .event
  | program => .program
  | kernel => .kernel
  | mem => .mem

/-- What is known of a queue. -/
def WrapperData.queue? : WrapperData → Option QueueRecord
  | queue record => some record
  | _ => none

/-- A wrapper that a function table has put around a native object. -/
structure Wrapper where
  data : WrapperData
  native : NativeHandle
  refs : Nat
  /-- Whether the native object loses a reference when the wrapper is destroyed. -/
  ownsNative : Bool
  deriving DecidableEq

end ComputeImport
