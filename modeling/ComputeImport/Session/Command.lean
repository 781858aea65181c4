import ComputeImport.Import.Error
import ComputeImport.Journal.Output
import ComputeImport.Managed.Object
import ComputeImport.Native.Simulator
import ComputeImport.Registry

/-!
# Commands of a session

A session is a sequence of commands over backends, registries and managed objects.  Managed objects
are held under names, by which later commands refer to them.
-/

namespace ComputeImport

/-- What the caller does directly with a backend. -/
inductive CallerAction where
  | createPlatform
  | createDevice (platform : NativeHandle)
  | createContext (devices : List NativeHandle)
  | createQueue (device : NativeHandle)
  | createEvent
  | createProgram (devices : List NativeHandle) (stage : Stage) (kernels : List String)
  | createKernel (program : NativeHandle) (name : String)
  | createMem
  | setStage (program device : NativeHandle) (stage : Stage)
  | stage (program device : NativeHandle)
  | retain (handle : NativeHandle)
  | release (handle : NativeHandle)
  | nativeRefs (handle : NativeHandle)
  | isAlive (handle : NativeHandle)
  | wrapperRefs (id : Nat)
  | programNative (program : ProgramHandle)
  | liveWrappers
  | queueFlags (queue : QueueHandle)
  | callCount (entryPoint : EntryPoint)
  | clearCalls
  | inject (entryPoint : EntryPoint) (error : NativeError)
  | lastOptions
  | config

/-- What is asked of a function table: its name, or a call. -/
inductive TableRequest where
  | name
  | call (call : Call)

/-- The function table that is asked: that of a backend, or the one that a registry resolves. -/
inductive TableTarget where
  | simulator (number : Nat)
  | registered (registry : Option Nat) (backend : Backend)

/-- A part of a managed object. -/
inductive Part where
  | platform
  | provider
  /-- The device of a queue, or one of the devices of a bundle or an image. -/
  | device (index : Option Nat)
  | context
  | bundle

/-- The name of a part. -/
def Part.name : Part → String
  | platform => "platform"
  | provider => "plugin"
  | device _ => "device"
  | context => "context"
  | bundle => "bundle"

/-- What a command on a queue asks for. -/
inductive Question where
  | backend | device | context | queue
  /-- The memory object that meets a requirement. -/
  | memory (requirement : Nat)

/-- A command.  A registry is given by its number, or is the process-wide one. -/
inductive Command where
  | caller (simulator : Nat) (action : CallerAction)
  | ask (target : TableTarget) (request : TableRequest)
  | resolve (registry : Option Nat) (backend : Backend)
  | inspectRegistry (registry : Option Nat)
  | install (registry : Nat)
  | makePlatform (registry : Option Nat) (native : NativeHandle) (backend : Backend)
  | makeDevice (registry : Option Nat) (native : NativeHandle) (backend : Backend)
  | makeContext (registry : Option Nat) (native : NativeHandle) (backend : Backend)
  | makeQueue (registry : Option Nat) (native : NativeHandle) (descriptor : Int32)
      (context : String) (device : Option String) (keeps : Bool) (properties : QueueProperties)
      (backend : Backend)
  | makeEvent (registry : Option Nat) (native : NativeHandle) (context : String) (keeps : Bool)
      (backend : Backend)
  | importProgram (registry : Option Nat) (native : NativeHandle) (context : String)
      (keeps : Bool) (target : BundleState) (backend : Backend)
  | importKernel (registry : Option Nat) (native : NativeHandle) (context bundle : String)
      (keeps : Bool) (backend : Backend)
  | makeKernel (registry : Option Nat) (native : NativeHandle) (context : String)
      (backend : Backend)
  | emptyBundle (context : String) (state : BundleState)
  | join (bundles : List String)
  | image (bundle : String) (index : Nat)
  | kernelNames (value : String)
  | hasKernel (value kernel : String)
  | part (value : String) (part : Part)
  | deviceOfPlatform (platform : String) (device : DeviceHandle)
  | platformBackend (platform : String)
  | nativeHandle (value : String)
  | describe (value : String)
  /-- Describe the bundle of a kernel. -/
  | bundleOf (kernel : String)
  | inspect (value : String) (spread : Bool)
  | same (first second : String)
  | copy (value : String)
  | drop (value : String)
  | access (queue : String) (memory : List (Nat × MemHandle)) (questions : List Question)
  | setThreshold (limit : Option UInt64)
  | getThreshold
  | initialiseJournal (settings : JournalSettings)
  | initialiseTestJournal
  | emit (event : TraceEvent)

/-- A command, with the name under which its managed object is held. -/
structure Step where
  command : Command
  name : Option String := none

/-- What a command brings back. -/
inductive Reply where
  | nothing
  | number (n : Nat)
  | handle (handle : NativeHandle)
  | flag (b : Bool)
  | text (text : String)
  | texts (texts : List String)
  | flags (flags : QueueFlags)
  | config (config : SimulatorConfig)
  | answer (answer : Answer)
  | object (value : Managed)
  | registry (registry : Registry)
  | backends (backends : List Backend)
  | backend (backend : Backend)
  | queue (native : NativeHandle) (descriptor : Int32)
  | threshold (limit : Option UInt64)
  | printed (printed : Option Printed)
  | each (replies : List (Except ImportError Reply))

/-- A reply that may be absent. -/
def Reply.ofOption {α : Type} (reply : α → Reply) : Option α → Reply
  | some a => reply a
  | none => nothing

/-- Why a command failed. -/
inductive Failure where
  | table (cause : NativeError)
  | managed (cause : ImportError)
  | setup (cause : SetupError)
  /-- The command names something that does not exist. -/
  | missing (name : String)

end ComputeImport
