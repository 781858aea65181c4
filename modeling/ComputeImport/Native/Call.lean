import ComputeImport.Backend
import ComputeImport.Handle
import ComputeImport.Properties
import ComputeImport.Stage

/-!
# Native calls

The entry points of a function table, and calls of them with their arguments.  Compiling, building
and linking have two entry points each: one that acts for chosen devices, which a table may lack,
and an older one that acts for the whole program.
-/

namespace ComputeImport

/-- An entry point of a function table. -/
inductive EntryPoint where
  | platformCreate | platformBackend | platformNative
  | deviceCreate | devicePlatform | deviceNative
  | contextCreate | contextNative | contextRetain | contextRelease
  | queueCreate | queueDevice | queueNative | queueRetain | queueRelease
  | eventCreate | eventNative | eventRetain | eventRelease
  | programCreate | programRetain | programRelease
  | programNumDevices | programDevices | programBinaryType | programKernelNames
  | programCompileFor | programCompile
  | programBuildFor | programBuild
  | programLinkFor | programLink
  | kernelCreate | kernelNative | kernelRetain | kernelRelease
  | memNative
  deriving DecidableEq, Repr

namespace EntryPoint

/-- Every entry point. -/
def all : List EntryPoint :=
  [platformCreate, platformBackend, platformNative, deviceCreate, devicePlatform, deviceNative,
   contextCreate, contextNative, contextRetain, contextRelease, queueCreate, queueDevice,
   queueNative, queueRetain, queueRelease, eventCreate, eventNative, eventRetain, eventRelease,
   programCreate, programRetain, programRelease, programNumDevices, programDevices,
   programBinaryType, programKernelNames, programCompileFor, programCompile, programBuildFor,
   programBuild, programLinkFor, programLink, kernelCreate, kernelNative, kernelRetain,
   kernelRelease, memNative]

/-- An entry point as call logs show it. -/
def label : EntryPoint → String
  | platformCreate => "PlatformCreate"
  | platformBackend => "PlatformBackend"
  | platformNative => "PlatformNativeHandle"
  | deviceCreate => "DeviceCreate"
  | devicePlatform => "DevicePlatform"
  | deviceNative => "DeviceNativeHandle"
  | contextCreate => "ContextCreate"
  | contextNative => "ContextNativeHandle"
  | contextRetain => "ContextRetain"
  | contextRelease => "ContextRelease"
  | queueCreate => "QueueCreate"
  | queueDevice => "QueueDevice"
  | queueNative => "QueueNativeHandle"
  | queueRetain => "QueueRetain"
  | queueRelease => "QueueRelease"
  | eventCreate => "EventCreate"
  | eventNative => "EventNativeHandle"
  | eventRetain => "EventRetain"
  | eventRelease => "EventRelease"
  | programCreate => "ProgramCreate"
  | programRetain => "ProgramRetain"
  | programRelease => "ProgramRelease"
  | programNumDevices => "ProgramNumDevices"
  | programDevices => "ProgramDevices"
  | programBinaryType => "ProgramBinaryType"
  | programKernelNames => "ProgramKernelNames"
  | programCompileFor => "ProgramCompileExp"
  | programCompile => "ProgramCompile"
  | programBuildFor => "ProgramBuildExp"
  | programBuild => "ProgramBuild"
  | programLinkFor => "ProgramLinkExp"
  | programLink => "ProgramLink"
  | kernelCreate => "KernelCreate"
  | kernelNative => "KernelNativeHandle"
  | kernelRetain => "KernelRetain"
  | kernelRelease => "KernelRelease"
  | memNative => "MemNativeHandle"

/-- The entry point with a given label. -/
def ofLabel? (label : String) : Option EntryPoint :=
  all.find? fun entryPoint => entryPoint.label == label

/-- Every entry point is listed. -/
theorem mem_all (entryPoint : EntryPoint) : entryPoint ∈ all := by
  cases entryPoint <;> decide

/-- Labels tell entry points apart. -/
theorem ofLabel?_label (entryPoint : EntryPoint) :
    ofLabel? entryPoint.label = some entryPoint := by
  cases entryPoint <;> rfl

/-- Whether calls of the entry point change the stages of a program or make a new one. -/
def mutatesProgram : EntryPoint → Bool
  | programCompileFor | programCompile | programBuildFor | programBuild | programLinkFor
  | programLink => true
  | _ => false

end EntryPoint

/-- A call of an entry point, with its arguments. -/
inductive Call where
  | platformCreate (native : NativeHandle)
  | platformBackend (platform : PlatformHandle)
  | platformNative (platform : PlatformHandle)
  | deviceCreate (native : NativeHandle) (platform : Option PlatformHandle)
  | devicePlatform (device : DeviceHandle)
  | deviceNative (device : DeviceHandle)
  | contextCreate (native : NativeHandle) (devices : List DeviceHandle) (ownsNative : Bool)
  | contextNative (context : ContextHandle)
  | contextRetain (context : ContextHandle)
  | contextRelease (context : ContextHandle)
  | queueCreate (native : NativeHandle) (context : ContextHandle) (device : Option DeviceHandle)
      (settings : QueueSettings)
  | queueDevice (queue : QueueHandle)
  | queueNative (queue : QueueHandle)
  | queueRetain (queue : QueueHandle)
  | queueRelease (queue : QueueHandle)
  | eventCreate (native : NativeHandle) (context : ContextHandle) (ownsNative : Bool)
  | eventNative (event : EventHandle)
  | eventRetain (event : EventHandle)
  | eventRelease (event : EventHandle)
  | programCreate (native : NativeHandle) (context : ContextHandle) (ownsNative : Bool)
  | programRetain (program : ProgramHandle)
  | programRelease (program : ProgramHandle)
  | programNumDevices (program : ProgramHandle)
  | programDevices (program : ProgramHandle)
  | programBinaryType (program : ProgramHandle) (device : DeviceHandle)
  | programKernelNames (program : ProgramHandle)
  | programCompileFor (program : ProgramHandle) (devices : List DeviceHandle)
      (options : Option String)
  | programCompile (context : ContextHandle) (program : ProgramHandle) (options : Option String)
  | programBuildFor (program : ProgramHandle) (devices : List DeviceHandle)
      (options : Option String)
  | programBuild (context : ContextHandle) (program : ProgramHandle) (options : Option String)
  | programLinkFor (context : ContextHandle) (devices : List DeviceHandle)
      (programs : List ProgramHandle) (options : Option String)
  | programLink (context : ContextHandle) (programs : List ProgramHandle)
      (options : Option String)
  | kernelCreate (native : NativeHandle) (context : ContextHandle)
      (program : Option ProgramHandle) (ownsNative : Bool)
  | kernelNative (kernel : KernelHandle)
  | kernelRetain (kernel : KernelHandle)
  | kernelRelease (kernel : KernelHandle)
  | memNative (mem : MemHandle) (device : DeviceHandle)
  deriving DecidableEq

/-- The entry point that is called. -/
def Call.entryPoint : Call → EntryPoint
  | platformCreate .. => .platformCreate
  | platformBackend .. => .platformBackend
  | platformNative .. => .platformNative
  | deviceCreate .. => .deviceCreate
  | devicePlatform .. => .devicePlatform
  | deviceNative .. => .deviceNative
  | contextCreate .. => .contextCreate
  | contextNative .. => .contextNative
  | contextRetain .. => .contextRetain
  | contextRelease .. => .contextRelease
  | queueCreate .. => .queueCreate
  | queueDevice .. => .queueDevice
  | queueNative .. => .queueNative
  | queueRetain .. => .queueRetain
  | queueRelease .. => .queueRelease
  | eventCreate .. => .eventCreate
  | eventNative .. => .eventNative
  | eventRetain .. => .eventRetain
  | eventRelease .. => .eventRelease
  | programCreate .. => .programCreate
  | programRetain .. => .programRetain
  | programRelease .. => .programRelease
  | programNumDevices .. => .programNumDevices
  | programDevices .. => .programDevices
  | programBinaryType .. => .programBinaryType
  | programKernelNames .. => .programKernelNames
  | programCompileFor .. => .programCompileFor
  | programCompile .. => .programCompile
  | programBuildFor .. => .programBuildFor
  | programBuild .. => .programBuild
  | programLinkFor .. => .programLinkFor
  | programLink .. => .programLink
  | kernelCreate .. => .kernelCreate
  | kernelNative .. => .kernelNative
  | kernelRetain .. => .kernelRetain
  | kernelRelease .. => .kernelRelease
  | memNative .. => .memNative

/-- What a successful call brings back. -/
inductive Answer where
  | done
  | handle (id : Nat)
  | handles (ids : List Nat)
  | native (handle : NativeHandle)
  | kind (kind : NativeKind)
  | queue (native : NativeHandle) (descriptor : Int32)
  | count (number : Nat)
  | stage (stage : Stage)
  | names (names : List String)
  deriving DecidableEq

end ComputeImport
