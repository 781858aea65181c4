import ComputeImport.Native.Simulator

/-!
# The caller's side of a reference backend

What a program does that uses the backend directly: it creates native objects, takes and drops
references to them, sets the stages of its programs, and looks at the state of the backend.  None
of this goes through the function table, so none of it is recorded as a call.
-/

namespace ComputeImport.Simulator

/-- Create a platform of the backend's kind. -/
def createPlatform : Native NativeHandle := do
  let kind := (← get).config.platformKind
  onStore (Store.create (.platform kind))

/-- Create a device on a live platform. -/
def createDevice (platform : NativeHandle) : Native NativeHandle :=
  onStore do
    let _ ← Store.native .platform platform
    Store.create (.device platform)

/-- Check that native devices are live. -/
def checkDevices : List NativeHandle → StoreM Unit
  | [] => pure ()
  | device :: devices => do
      let _ ← Store.native .device device
      checkDevices devices

/-- Create a context over live devices. -/
def createContext (devices : List NativeHandle) : Native NativeHandle :=
  onStore do
    checkDevices devices
    Store.create (.context devices)

/-- Create a queue for a live device. -/
def createQueue (device : NativeHandle) : Native NativeHandle :=
  onStore do
    let _ ← Store.native .device device
    Store.create (.queue device)

/-- Create an event. -/
def createEvent : Native NativeHandle :=
  onStore (Store.create .event)

/-- Create a program for live devices that stands at one stage for all of them. -/
def createProgram (devices : List NativeHandle) (stage : Stage) (kernels : List String) :
    Native NativeHandle :=
  onStore do
    checkDevices devices
    Store.create (.program (.uniform devices stage kernels))

/-- Create a kernel that a live program defines. -/
def createKernel (program : NativeHandle) (name : String) : Native NativeHandle :=
  onStore do
    if name ∈ (← Store.nativeProgram program).kernels then
      Store.create (.kernel program)
    else
      throw (.invalidValue s!"{program.text} defines no kernel {name}")

/-- Create a memory object, already wrapped. -/
def createMem : Native MemHandle :=
  onStore do
    let native ← Store.create .mem
    Store.wrap .mem native true 1

/-- Set the stage of a live program for one of its devices. -/
def setProgramStage (program device : NativeHandle) (stage : Stage) : Native Unit :=
  onStore do
    let binary ← Store.nativeProgram program
    if binary.stages.contains device then
      Store.setProgram program { binary with stages := binary.stages.set device stage }
    else
      throw (.invalidNativeHandle ObjectKind.device.name device)

/-- Take a reference to a native object for the caller. -/
def retainNative (handle : NativeHandle) : Native Unit :=
  onStore (Store.retainNative handle)

/-- Drop a reference of the caller's to a native object. -/
def releaseNative (handle : NativeHandle) : Native Unit :=
  onStore (Store.releaseNative handle)

/-- Let the next call of an entry point fail. -/
def injectFailure (entryPoint : EntryPoint) (error : NativeError) : Native Unit :=
  modify fun backend => { backend with failures := backend.failures.set entryPoint error }

/-- Forget the calls so far. -/
def clearCalls : Native Unit :=
  modify fun backend => { backend with calls := [] }

/-! ## Looking at the state -/

/-- The references to a native object, if it is live. -/
def nativeRefs? (backend : Simulator) (handle : NativeHandle) : Option Nat :=
  (backend.store.natives.get? handle).map NativeObject.refs

/-- Whether a native object is live. -/
def isAlive (backend : Simulator) (handle : NativeHandle) : Bool :=
  backend.store.natives.contains handle

/-- The references to a wrapper, if it is live. -/
def wrapperRefs? (backend : Simulator) (id : Nat) : Option Nat :=
  (backend.store.wrappers.get? id).map Wrapper.refs

/-- What is known of a live native program. -/
def program? (backend : Simulator) (handle : NativeHandle) : Option ProgramBinary :=
  (backend.store.natives.get? handle).bind fun object => object.data.program?

/-- The stage of a live program for one of its devices. -/
def programStage? (backend : Simulator) (program device : NativeHandle) : Option Stage :=
  (backend.program? program).bind fun binary => binary.stages.get? device

/-- The live wrapper that a handle names. -/
def wrapper? {kind : ObjectKind} (backend : Simulator) (handle : Handle kind) : Option Wrapper :=
  (backend.store.wrappers.get? handle.id).filter fun wrapper => wrapper.data.kind = kind

/-- The native program behind a live wrapper. -/
def programBehind? (backend : Simulator) (program : ProgramHandle) : Option NativeHandle :=
  (backend.wrapper? program).map Wrapper.native

/-- The number of live wrappers, those of platforms and devices among them. -/
def liveWrappers (backend : Simulator) : Nat :=
  backend.store.wrappers.size

/-- The flags that a live queue was wrapped with. -/
def queueFlags? (backend : Simulator) (queue : QueueHandle) : Option QueueFlags :=
  ((backend.wrapper? queue).bind fun wrapper => wrapper.data.queue?).map QueueRecord.flags

/-- The references to every live native object. -/
def nativeCounts (backend : Simulator) : Ledger NativeHandle Nat :=
  ⟨backend.store.natives.entries.map fun (handle, object) => (handle, object.refs)⟩

/-- The references to every live wrapper. -/
def wrapperCounts (backend : Simulator) : Ledger Nat Nat :=
  ⟨backend.store.wrappers.entries.map fun (id, wrapper) => (id, wrapper.refs)⟩

/-- How often an entry point has been called. -/
def callCount (backend : Simulator) (entryPoint : EntryPoint) : Nat :=
  backend.calls.countP fun call => call.entryPoint == entryPoint

end ComputeImport.Simulator
