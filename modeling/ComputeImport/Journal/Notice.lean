import ComputeImport.Journal.Level
import ComputeImport.Native.Simulator

/-!
# The journal of a run

Every step of an import leaves a notice.  A notice is a cause with its circumstances; its level,
its message and its fields are read off it.  The notices of a native call are not written by the
call: they follow from the states of the backend before and after it.
-/

namespace ComputeImport

open Text

/-- An import that is entered, with the arguments that identify it. -/
inductive Span where
  | makePlatform (native : NativeHandle) (backend : Backend)
  | makeDevice (native : NativeHandle) (backend : Backend)
  | makeContext (native : NativeHandle) (backend : Backend)
  | makeQueue (native : NativeHandle) (descriptor : Int32) (keeps : Bool)
      (properties : QueueProperties) (backend : Backend)
  | makeEvent (native : NativeHandle) (keeps : Bool) (backend : Backend)
  | importProgram (native : NativeHandle) (keeps : Bool) (target : BundleState)
      (backend : Backend)
  | importKernel (native : NativeHandle) (keeps : Bool) (backend : Backend) (images : Nat)
  deriving DecidableEq

namespace Span

/-- The name under which an import is entered. -/
def name : Span → String
  | makePlatform .. => "make_platform"
  | makeDevice .. => "make_device"
  | makeContext .. => "make_context"
  | makeQueue .. => "make_queue"
  | makeEvent .. => "make_event"
  | importProgram .. => "import_program"
  | importKernel .. => "import_kernel"

/-- A truth value as a field shows it. -/
def flagText (b : Bool) : String :=
  if b then "true" else "false"

/-- The arguments of an import, as its fields. -/
def fields : Span → List (String × String)
  | makePlatform native backend | makeDevice native backend | makeContext native backend =>
      [("native", native.shape.inline), ("backend", backend.label)]
  | makeQueue native descriptor keeps properties backend =>
      [("native", native.shape.inline), ("native_desc", toString descriptor.toInt),
       ("keep_ownership", flagText keeps), ("properties", properties.shape.inline),
       ("backend", backend.label)]
  | makeEvent native keeps backend =>
      [("native", native.shape.inline), ("keep_ownership", flagText keeps),
       ("backend", backend.label)]
  | importProgram native keeps target backend =>
      [("native", native.shape.inline), ("keep_ownership", flagText keeps),
       ("target", target.label), ("backend", backend.label)]
  | importKernel native keeps backend images =>
      [("native", native.shape.inline), ("keep_ownership", flagText keeps),
       ("backend", backend.label), ("images", toString images)]

end Span

/-- Something that happened, with its circumstances. -/
inductive Notice where
  | entered (span : Span)
  /-- A function table was registered for a backend that is never resolved. -/
  | registeredUnlinked (backend : Backend)
  | registryInitialised
  | resolved (backend : Backend) (table : String)
  | called (backend : String) (entryPoint : EntryPoint)
  | injected (backend : String) (entryPoint : EntryPoint) (error : NativeError)
  | wrapperDestroyed (id : Nat) (kind : ObjectKind) (ownsNative : Bool)
  | nativeDestroyed (handle : NativeHandle) (kind : ObjectKind)
  | linked (backend : String) (program : Nat) (native : NativeHandle)
  | platformMade (platform : PlatformHandle) (backend : Backend)
  | deviceMade (platform : PlatformHandle) (device : DeviceHandle)
  | programImported (program : ProgramHandle) (devices : Nat) (ownership : Ownership)
  | advancing (program : ProgramHandle) (device : DeviceHandle) (discovered : Stage)
      (target : BundleState) (action : BuildAction)
  | fellBack (operation : BuildOperation) (device : DeviceHandle)
  | replaced (old new : ProgramHandle) (device : DeviceHandle)
  | kernelImported (kernel : KernelHandle) (program : Option ProgramHandle)
      (ownership : Ownership)
  | timed (operation : String)
  | programReleased (program : ProgramHandle)
  /-- The release of an object's handle at the end of its life failed. -/
  | releaseFailed (kind : ObjectKind) (handle : Handle kind) (error : NativeError)
  /-- The release of a handle that could not be retained failed. -/
  | cleanupFailed (kind : ObjectKind) (handle : Handle kind) (error : NativeError)
  /-- The release of a queue whose device could not be found failed. -/
  | queueCleanupFailed (queue : QueueHandle) (error : NativeError)
  deriving DecidableEq

namespace Notice

/-- The level of a notice. -/
def level : Notice → Level
  | entered .. => .info
  | registeredUnlinked .. | releaseFailed .. | cleanupFailed .. | queueCleanupFailed .. => .warn
  | registryInitialised | injected .. | programImported .. | advancing .. | fellBack ..
  | replaced .. | kernelImported .. | timed .. => .debug
  | resolved .. | called .. | wrapperDestroyed .. | nativeDestroyed .. | linked ..
  | platformMade .. | deviceMade .. | programReleased .. => .trace

/-- The message of a notice; for an import that is entered, its name. -/
def message : Notice → String
  | entered span => span.name
  | registeredUnlinked .. => "registered table for a backend that cannot be resolved"
  | registryInitialised =>
      "initialising process-wide backend registry with reference backends"
  | resolved .. => "resolved backend"
  | called .. => "native call"
  | injected .. => "injected failure"
  | wrapperDestroyed .. => "plugin object destroyed"
  | nativeDestroyed .. => "native object destroyed"
  | linked .. => "linked program"
  | platformMade .. => "created managed platform"
  | deviceMade .. => "created managed device"
  | programImported .. => "imported program"
  | advancing .. => "reconcile device"
  | fellBack .. => "extended entry point unsupported, using legacy"
  | replaced .. => "link replaced program"
  | kernelImported .. => "imported kernel"
  | timed .. => "import_complete"
  | programReleased .. => "released program"
  | releaseFailed kind .. => "failed to release " ++ kind.name
  | cleanupFailed .. => "failed to release handle after failed retain"
  | queueCleanupFailed .. => "failed to release queue"

/-- The fields of a notice. -/
def fields : Notice → List (String × String)
  | entered span => span.fields
  | registeredUnlinked backend => [("backend", backend.name)]
  | registryInitialised => []
  | resolved backend table => [("backend", backend.name), ("api", table)]
  | called backend entryPoint => [("backend", backend), ("op", entryPoint.label)]
  | injected backend entryPoint error =>
      [("backend", backend), ("op", entryPoint.label), ("error", error.message)]
  | wrapperDestroyed id kind ownsNative =>
      [("id", toString id), ("kind", kind.name), ("owns_native", Span.flagText ownsNative)]
  | nativeDestroyed handle kind => [("handle", handle.text), ("kind", kind.name)]
  | linked backend program native =>
      [("backend", backend), ("program", toString program), ("native", native.text)]
  | platformMade platform backend => [("platform", platform.text), ("backend", backend.name)]
  | deviceMade platform device => [("platform", platform.text), ("device", device.text)]
  | programImported program devices ownership =>
      [("program", program.text), ("devices", toString devices), ("ownership", ownership.label)]
  | advancing program device discovered target action =>
      [("program", program.text), ("device", device.text), ("discovered", discovered.text),
       ("target", target.text), ("action", action.label)]
  | fellBack operation device => [("operation", operation.text), ("device", device.text)]
  | replaced old new device =>
      [("from", old.text), ("to", new.text), ("device", device.text)]
  | kernelImported kernel program ownership =>
      [("kernel", kernel.text), ("program", (Shape.optional (program.map Handle.shape)).inline),
       ("ownership", ownership.label)]
  | timed operation => [("operation", operation)]
  | programReleased program => [("program", program.text)]
  | releaseFailed kind handle error => [(kind.name, handle.text), ("error", error.message)]
  | cleanupFailed _ handle error =>
      [("handle", handle.text), ("release_error", error.message)]
  | queueCleanupFailed queue error =>
      [("queue", queue.text), ("release_error", error.message)]

end Notice

namespace Simulator

/-- The wrappers that a step has destroyed. -/
def destroyedWrappers (before after : Simulator) : List Notice :=
  before.store.wrappers.entries.filterMap fun (id, wrapper) =>
    if after.store.wrappers.contains id then none
    else some (.wrapperDestroyed id wrapper.data.kind wrapper.ownsNative)

/-- The native objects that a step has destroyed. -/
def destroyedNatives (before after : Simulator) : List Notice :=
  before.store.natives.entries.filterMap fun (handle, object) =>
    if after.store.natives.contains handle then none
    else some (.nativeDestroyed handle object.data.kind)

/-- The programs that a step has linked: new wrappers that own a new native object. -/
def linkedPrograms (before after : Simulator) : List Notice :=
  after.store.wrappers.entries.filterMap fun (id, wrapper) =>
    if wrapper.data.kind = .program ∧ ¬ before.store.wrappers.contains id ∧
        before.store.nextNative ≤ wrapper.native.raw then
      some (.linked after.config.name id wrapper.native)
    else none

/-- The calls that a step has recorded, each with the failure that was set for it. -/
def recordedCalls (before after : Simulator) : List Notice :=
  (after.calls.drop before.calls.length).flatMap fun call =>
    .called after.config.name call.entryPoint ::
      match before.failures.get? call.entryPoint with
      | some error => [.injected after.config.name call.entryPoint error]
      | none => []

/-- The notices of a step, read off the states around it: the call first, then what it did. -/
def notices (before after : Simulator) : List Notice :=
  recordedCalls before after ++ destroyedWrappers before after ++ destroyedNatives before after ++
    linkedPrograms before after

end Simulator

end ComputeImport
