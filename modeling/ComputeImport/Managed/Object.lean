import ComputeImport.Backend
import ComputeImport.Handle
import ComputeImport.Properties
import ComputeImport.Stage

/-!
# Managed objects

The objects that an import makes out of native ones.  Each is an immutable value that carries a
number of its own, its identity, together with the handle it keeps and the objects it depends on.
Two copies of one object are equal, and two objects are never equal, even with equal handles.
-/

namespace ComputeImport

open Text

/-- How a function table hides part of the backend behind it. -/
structure Delegation where
  /-- The number of devices reported for every program instead of the true one. -/
  reportedDevices : Option Nat := none
  deriving DecidableEq, Repr

/-- A function table: the backend that does the work, and what the table hides of it.  A table that
delegates does not have the entry points for chosen devices. -/
structure Table where
  simulator : Nat
  delegation : Option Delegation := none
  deriving DecidableEq, Repr

/-- A function table that has been registered for a backend, with what importing through it
demands. -/
structure Provider where
  identity : Nat
  backend : Backend
  demands : Demands
  table : Table
  deriving DecidableEq, Repr

/-- A managed platform. -/
structure Platform where
  identity : Nat
  handle : PlatformHandle
  provider : Provider
  deriving DecidableEq, Repr

/-- A managed device, which keeps its platform. -/
structure Device where
  identity : Nat
  handle : DeviceHandle
  platform : Platform
  deriving DecidableEq, Repr

/-- A managed context. -/
structure Context where
  identity : Nat
  handle : ContextHandle
  provider : Provider
  deriving DecidableEq, Repr

/-- A managed command queue, which keeps its context and its device. -/
structure Queue where
  identity : Nat
  handle : QueueHandle
  context : Context
  device : Device
  properties : QueueProperties
  provider : Provider
  deriving DecidableEq, Repr

/-- A managed event, which keeps its context. -/
structure Event where
  identity : Nat
  handle : EventHandle
  context : Context
  provider : Provider
  deriving DecidableEq, Repr

/-- A reference to a program's wrapper that is to be released. -/
structure ProgramRef where
  handle : ProgramHandle
  provider : Provider
  deriving DecidableEq, Repr

/-- A program at one state for a number of devices, with the programs that it replaced on the way
there, oldest first. -/
structure DeviceImage where
  identity : Nat
  program : ProgramRef
  superseded : List ProgramRef
  devices : List Device
  state : BundleState
  deriving DecidableEq, Repr

/-- Images in one context and in one state, with their devices. -/
structure KernelBundle where
  context : Context
  devices : List Device
  state : BundleState
  images : List DeviceImage
  deriving DecidableEq, Repr

/-- A managed kernel, which keeps its context and the bundle it was imported against. -/
structure Kernel where
  identity : Nat
  handle : KernelHandle
  context : Context
  provider : Provider
  bundle : KernelBundle
  deriving DecidableEq, Repr

/-- A managed object of any type. -/
inductive Managed where
  | platform (platform : Platform)
  | device (device : Device)
  | context (context : Context)
  | queue (queue : Queue)
  | event (event : Event)
  | image (image : DeviceImage)
  | bundle (bundle : KernelBundle)
  | kernel (kernel : Kernel)
  | provider (provider : Provider)
  deriving DecidableEq, Repr

namespace KernelBundle

/-- A bundle without images and devices. -/
def empty (context : Context) (state : BundleState) : KernelBundle :=
  ⟨context, [], state, []⟩

/-- The number of images. -/
def size (bundle : KernelBundle) : Nat :=
  bundle.images.length

end KernelBundle

/-! ## Managed objects under inspection -/

/-- A platform as inspection shows it. -/
def Platform.shape (platform : Platform) : Shape :=
  .record "Platform"
    [("handle", platform.handle.shape), ("backend", .atom platform.provider.backend.label)]

/-- A device as inspection shows it, with the handle of its platform. -/
def Device.shape (device : Device) : Shape :=
  .record "Device"
    [("handle", device.handle.shape), ("platform", device.platform.handle.shape)]

/-- A context as inspection shows it. -/
def Context.shape (context : Context) : Shape :=
  .record "Context"
    [("handle", context.handle.shape), ("backend", .atom context.provider.backend.label)]

/-- A queue as inspection shows it, with the handle of its device. -/
def Queue.shape (queue : Queue) : Shape :=
  .record "Queue"
    [("handle", queue.handle.shape), ("device", queue.device.handle.shape),
     ("properties", queue.properties.shape)]

/-- An event as inspection shows it. -/
def Event.shape (event : Event) : Shape :=
  .record "Event" [("handle", event.handle.shape)]

/-- An image as inspection shows it, with the number of its devices. -/
def DeviceImage.shape (image : DeviceImage) : Shape :=
  .record "DeviceImage"
    [("program", image.program.handle.shape),
     ("superseded", .sequence (image.superseded.map (·.handle.shape))),
     ("devices", .number image.devices.length),
     ("state", .atom image.state.label)]

/-- A bundle as inspection shows it. -/
def KernelBundle.shape (bundle : KernelBundle) : Shape :=
  .record "KernelBundle"
    [("context", bundle.context.handle.shape),
     ("devices", .sequence (bundle.devices.map Device.shape)),
     ("state", .atom bundle.state.label),
     ("images", .sequence (bundle.images.map DeviceImage.shape))]

/-- A kernel as inspection shows it, with the number of images of its bundle. -/
def Kernel.shape (kernel : Kernel) : Shape :=
  .record "Kernel"
    [("handle", kernel.handle.shape), ("images", .number kernel.bundle.size)]

/-- Demands as inspection shows them. -/
def Demands.shape (demands : Demands) : Shape :=
  .record "BackendTraits"
    [("needs_explicit_retain_on_import", .flag demands.needsRetain),
     ("kernel_import_requires_program", .flag demands.kernelNeedsProgram)]

/-- A registered table under inspection, with the name that it gives itself. -/
def Provider.shape (provider : Provider) (tableName : String) : Shape :=
  .record "Plugin"
    [("backend", .atom provider.backend.label), ("api", .text tableName),
     ("traits", provider.demands.shape)]

end ComputeImport
