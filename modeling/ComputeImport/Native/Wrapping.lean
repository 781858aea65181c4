import ComputeImport.Native.Simulator

/-!
# Wrapping native objects

The entry points that put wrappers around native objects, tell what is behind a wrapper, and take
and drop references to wrappers.  Every call is recorded before its arguments are looked at.
-/

namespace ComputeImport.Simulator

/-! ## Platforms and devices -/

/-- Wrap a native platform; the wrapper of a platform is made once and stays. -/
def platformCreate (native : NativeHandle) : Native PlatformHandle :=
  perform (.platformCreate native) (onStore (Store.wrapPlatform native))

/-- The kind that the platform behind a wrapper reports, while that platform is live. -/
def platformBackend (platform : PlatformHandle) : Native NativeKind :=
  perform (.platformBackend platform) (onStore do
    Store.nativePlatform (← Store.behind platform))

/-- The native platform behind a wrapper. -/
def platformNative (platform : PlatformHandle) : Native NativeHandle :=
  perform (.platformNative platform) (onStore (Store.behind platform))

/-- Wrap a native device; the wrapper of a device is made once and stays.  A platform that is named
has to be wrapped, but need not be the one that the device belongs to. -/
def deviceCreate (native : NativeHandle) (platform : Option PlatformHandle) :
    Native DeviceHandle :=
  perform (.deviceCreate native platform) (onStore do
    if let some platform := platform then
      let _ ← Store.wrapper platform
    Store.wrapDevice native)

/-- The wrapper of the platform that the device behind a wrapper belongs to. -/
def devicePlatform (device : DeviceHandle) : Native PlatformHandle :=
  perform (.devicePlatform device) (onStore do
    let native ← Store.behind device
    let platform ← Store.nativeDevice native
    Store.wrapPlatform platform)

/-- The native device behind a wrapper. -/
def deviceNative (device : DeviceHandle) : Native NativeHandle :=
  perform (.deviceNative device) (onStore (Store.behind device))

/-! ## Contexts, queues and events -/

/-- Wrap a native context. -/
def contextCreate (native : NativeHandle) (devices : List DeviceHandle) (ownsNative : Bool) :
    Native ContextHandle :=
  perform (.contextCreate native devices ownsNative) do
    let _ ← onStore (Store.native .context native)
    let _ ← onStore (Store.behindAll devices)
    wrapImported .context native ownsNative

/-- The native context behind a wrapper. -/
def contextNative (context : ContextHandle) : Native NativeHandle :=
  perform (.contextNative context) (onStore (Store.behind context))

/-- Take a reference to the wrapper of a context. -/
def contextRetain (context : ContextHandle) : Native Unit :=
  perform (.contextRetain context) (onStore (Store.retain context))

/-- Drop a reference to the wrapper of a context. -/
def contextRelease (context : ContextHandle) : Native Unit :=
  perform (.contextRelease context) (onStore (Store.release context))

/-- Wrap a native queue, for a device or else for the one that the native queue submits to. -/
def queueCreate (native : NativeHandle) (context : ContextHandle) (device : Option DeviceHandle)
    (settings : QueueSettings) : Native QueueHandle :=
  perform (.queueCreate native context device settings) do
    let _ ← onStore (Store.wrapper context)
    let target ← onStore (Store.nativeQueue native)
    let device ← onStore do
      match device with
      | some device => do
          let _ ← Store.wrapper device
          pure device
      | none => Store.wrapDevice target
    wrapImported (.queue ⟨device, settings.flags, settings.descriptor⟩) native settings.ownsNative

/-- The wrapper of the device that a queue was wrapped for. -/
def queueDevice (queue : QueueHandle) : Native DeviceHandle :=
  perform (.queueDevice queue) (onStore do
    return (← Store.queueRecord queue).device)

/-- The native queue behind a wrapper, and the descriptor that the queue was wrapped with. -/
def queueNative (queue : QueueHandle) : Native (NativeHandle × Int32) :=
  perform (.queueNative queue) (onStore do
    let native ← Store.behind queue
    return (native, (← Store.queueRecord queue).descriptor))

/-- Take a reference to the wrapper of a queue. -/
def queueRetain (queue : QueueHandle) : Native Unit :=
  perform (.queueRetain queue) (onStore (Store.retain queue))

/-- Drop a reference to the wrapper of a queue. -/
def queueRelease (queue : QueueHandle) : Native Unit :=
  perform (.queueRelease queue) (onStore (Store.release queue))

/-- Wrap a native event. -/
def eventCreate (native : NativeHandle) (context : ContextHandle) (ownsNative : Bool) :
    Native EventHandle :=
  perform (.eventCreate native context ownsNative) do
    let _ ← onStore (Store.wrapper context)
    let _ ← onStore (Store.native .event native)
    wrapImported .event native ownsNative

/-- The native event behind a wrapper. -/
def eventNative (event : EventHandle) : Native NativeHandle :=
  perform (.eventNative event) (onStore (Store.behind event))

/-- Take a reference to the wrapper of an event. -/
def eventRetain (event : EventHandle) : Native Unit :=
  perform (.eventRetain event) (onStore (Store.retain event))

/-- Drop a reference to the wrapper of an event. -/
def eventRelease (event : EventHandle) : Native Unit :=
  perform (.eventRelease event) (onStore (Store.release event))

/-! ## Kernels and memory -/

/-- Check that a kernel may be wrapped together with a program, or without one. -/
def checkKernelProgram (native owner : NativeHandle) (program : Option ProgramHandle) :
    Native Unit := do
  match program with
  | some program =>
      if (← onStore (Store.behind program)) ≠ owner then
        throw (.invalidValue s!"{native.text} does not belong to {program.text}")
  | none =>
      if (← get).config.kernelNeedsProgram then
        throw (.invalidValue "kernel import requires the owning program")

/-- Wrap a native kernel. -/
def kernelCreate (native : NativeHandle) (context : ContextHandle)
    (program : Option ProgramHandle) (ownsNative : Bool) : Native KernelHandle :=
  perform (.kernelCreate native context program ownsNative) do
    let _ ← onStore (Store.wrapper context)
    let owner ← onStore (Store.nativeKernel native)
    checkKernelProgram native owner program
    wrapImported .kernel native ownsNative

/-- The native kernel behind a wrapper. -/
def kernelNative (kernel : KernelHandle) : Native NativeHandle :=
  perform (.kernelNative kernel) (onStore (Store.behind kernel))

/-- Take a reference to the wrapper of a kernel. -/
def kernelRetain (kernel : KernelHandle) : Native Unit :=
  perform (.kernelRetain kernel) (onStore (Store.retain kernel))

/-- Drop a reference to the wrapper of a kernel. -/
def kernelRelease (kernel : KernelHandle) : Native Unit :=
  perform (.kernelRelease kernel) (onStore (Store.release kernel))

/-- The native memory object behind a wrapper, for use on a device that is wrapped. -/
def memNative (mem : MemHandle) (device : DeviceHandle) : Native NativeHandle :=
  perform (.memNative mem device) (onStore do
    let _ ← Store.wrapper device
    tryCatch (Store.behind mem) fun _ => throw (.invalidMemObject mem.id))

end ComputeImport.Simulator
