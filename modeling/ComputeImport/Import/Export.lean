import ComputeImport.Import.Host

/-!
# Handing native objects out again

The native object behind a managed one, asked from the function table that it came through.  A
command that runs on a queue can also ask for the memory objects that it was given, each by the
number of the requirement that it meets.
-/

namespace ComputeImport

/-- The native platform behind a managed one. -/
def Platform.nativeHandle (platform : Platform) : ImportM NativeHandle :=
  native (platform.provider.table.call (Simulator.platformNative platform.handle))

/-- The backend of the kind that the native platform reports. -/
def Platform.reportedBackend (platform : Platform) : ImportM Backend := do
  return .ofNative
    (← native (platform.provider.table.call (Simulator.platformBackend platform.handle)))

/-- The native device behind a managed one. -/
def Device.nativeHandle (device : Device) : ImportM NativeHandle :=
  native (device.platform.provider.table.call (Simulator.deviceNative device.handle))

/-- The native context behind a managed one. -/
def Context.nativeHandle (context : Context) : ImportM NativeHandle :=
  native (context.provider.table.call (Simulator.contextNative context.handle))

/-- The native queue behind a managed one, and the descriptor that it was imported with. -/
def Queue.nativeHandle (queue : Queue) : ImportM (NativeHandle × Int32) :=
  native (queue.provider.table.call (Simulator.queueNative queue.handle))

/-- The native event behind a managed one. -/
def Event.nativeHandle (event : Event) : ImportM NativeHandle :=
  native (event.provider.table.call (Simulator.eventNative event.handle))

/-- The native kernel behind a managed one. -/
def Kernel.nativeHandle (kernel : Kernel) : ImportM NativeHandle :=
  native (kernel.provider.table.call (Simulator.kernelNative kernel.handle))

/-- The native memory object that meets a requirement of a command on a queue; of several that
meet it the first one. -/
def Queue.nativeMem (queue : Queue) (memory : List (Nat × MemHandle)) (requirement : Nat) :
    ImportM NativeHandle :=
  match memory.find? fun entry => entry.1 == requirement with
  | some (_, mem) =>
      native (queue.provider.table.call (Simulator.memNative mem queue.device.handle))
  | none => throw (.invalidObject "invalid memory object used inside interop")

end ComputeImport
