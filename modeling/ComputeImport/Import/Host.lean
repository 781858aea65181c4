import ComputeImport.Import.Error
import ComputeImport.Journal.Notice
import ComputeImport.Journal.Standard
import ComputeImport.Managed.Caches
import ComputeImport.Managed.Lifetime
import ComputeImport.Native.Dispatch

/-!
# The host

The host is the state that imports act on: the backends behind the function tables, the managed
objects that are held, each under a name, the caches that platforms and devices are looked up in, and
the journal.  A native call goes through a function
table to the backend behind it, and leaves its notices in the journal.
-/

namespace ComputeImport

/-- What imports act on. -/
structure Host where
  /-- The backends, by number; a backend that has not been set up is a new one. -/
  simulators : Ledger Nat Simulator := {}
  /-- The managed objects that are held, by name. -/
  held : Ledger String Managed := {}
  /-- The platforms and devices that have been made, as far as they are remembered. -/
  caches : Caches := {}
  /-- The identity of the next managed object. -/
  nextIdentity : Nat := 0
  /-- The kernels of the images that have been asked for theirs, by the identity of the image. -/
  kernelLists : Ledger Nat (List String) := {}
  /-- The process-wide part of the journal's output. -/
  output : JournalOutput Filter := {}
  /-- What has happened, oldest first. -/
  journal : List Notice := []
  deriving DecidableEq

/-- A native call through a function table.  A failing call keeps what it has changed. -/
abbrev TableM := EStateM NativeError Host

/-- An import, or the use of an imported object.  A failing one keeps what it has changed. -/
abbrev ImportM := EStateM ImportError Host

namespace Host

/-- The backend with a given number. -/
def simulator (host : Host) (number : Nat) : Simulator :=
  (host.simulators.get? number).getD {}

/-- The state after a backend has taken a step. -/
def advance (host : Host) (number : Nat) (after : Simulator) : Host :=
  { host with
      simulators := host.simulators.set number after
      journal := host.journal ++ Simulator.notices (host.simulator number) after }

/-- Add a notice to the journal. -/
def notify (notice : Notice) (host : Host) : Host :=
  { host with journal := host.journal ++ [notice] }

/-- The devices that the held objects lead to. -/
def devices (host : Host) : List Device :=
  host.held.values.flatMap Managed.devices

/-- The platforms that the held objects lead to. -/
def platforms (host : Host) : List Platform :=
  host.held.values.flatMap Managed.platforms

/-- Enter a new platform in the cache of its provider. -/
def enterPlatform (living : List Platform) (platform : Platform) (host : Host) : Host :=
  { host with
      caches := { host.caches with platforms := host.caches.platforms.insert living platform } }

/-- Enter a new device in the cache of its platform. -/
def enterDevice (living : List Device) (device : Device) (host : Host) : Host :=
  { host with
      caches := { host.caches with devices := host.caches.devices.insert living device } }

end Host

/-- Add a notice to the journal. -/
def notify {ε : Type} (notice : Notice) : EStateM ε Host Unit :=
  modify (Host.notify notice)

/-- The identity for a new object. -/
def freshIdentity {ε : Type} : EStateM ε Host Nat :=
  modifyGet fun host =>
    (host.nextIdentity, { host with nextIdentity := host.nextIdentity + 1 })

/-- Let a backend take a step. -/
def onSimulator {α : Type} (number : Nat) (step : Native α) : TableM α := fun host =>
  match step (host.simulator number) with
  | .ok a after => .ok a (host.advance number after)
  | .error e after => .error e (host.advance number after)

namespace Table

/-- Make a native call through the table to the backend behind it. -/
def call {α : Type} (table : Table) (step : Native α) : TableM α :=
  onSimulator table.simulator step

/-- The name that the table gives itself. -/
def name (table : Table) (host : Host) : String :=
  (host.simulator table.simulator).config.name

/-- Make a call of an entry point for chosen devices, which a delegating table does not have. -/
def callFor {α : Type} (table : Table) (entryPoint : String) (step : Native α) : TableM α :=
  match table.delegation with
  | some _ => throw (.unsupportedFeature entryPoint)
  | none => table.call step

/-- Compile a program for chosen devices. -/
def programCompileFor (table : Table) (program : ProgramHandle) (devices : List DeviceHandle)
    (options : Option String) : TableM Unit :=
  table.callFor "program_compile_exp" (Simulator.programCompileFor program devices options)

/-- Build a program for chosen devices. -/
def programBuildFor (table : Table) (program : ProgramHandle) (devices : List DeviceHandle)
    (options : Option String) : TableM Unit :=
  table.callFor "program_build_exp" (Simulator.programBuildFor program devices options)

/-- Link programs for chosen devices into a new program. -/
def programLinkFor (table : Table) (context : ContextHandle) (devices : List DeviceHandle)
    (programs : List ProgramHandle) (options : Option String) : TableM ProgramHandle :=
  table.callFor "program_link_exp" (Simulator.programLinkFor context devices programs options)

/-- The number of devices of a program, unless the table reports another one. -/
def programNumDevices (table : Table) (program : ProgramHandle) : TableM Nat := do
  let number ← table.call (Simulator.programNumDevices program)
  return ((table.delegation.bind Delegation.reportedDevices).getD number)

/-- Make a call through the table, whichever it is. -/
def answer (table : Table) : Call → TableM Answer
  | .programCompileFor program devices options => do
      table.programCompileFor program devices options
      return .done
  | .programBuildFor program devices options => do
      table.programBuildFor program devices options
      return .done
  | .programLinkFor context devices programs options =>
      return .handle (← table.programLinkFor context devices programs options).id
  | .programNumDevices program => return .count (← table.programNumDevices program)
  | call => table.call (Simulator.answer call)

end Table

/-- Make a native call on behalf of an import. -/
def native {α : Type} (call : TableM α) : ImportM α := fun host =>
  match call host with
  | .ok a host => .ok a host
  | .error e host => .error (.native e) host

/-- Make a native call and look at its outcome. -/
def attempt {α : Type} (call : TableM α) : ImportM (Except NativeError α) := fun host =>
  match call host with
  | .ok a host => .ok (.ok a) host
  | .error e host => .ok (.error e) host

/-- Do an import under a timer.  The clock of this library stands still, so that a duration is
reported when the threshold is absent or zero. -/
def timed {α : Type} (operation : String) (body : ImportM α) : ImportM α := fun host =>
  let timer := Stopwatch.start host.output.threshold operation
  let finish (host : Host) : Host :=
    if timer.reports 0 then host.notify (.timed operation) else host
  match body host with
  | .ok a host => .ok a (finish host)
  | .error e host => .error e (finish host)

/-! ## The end of an object -/

/-- Make the release call of an object at its end, where nobody is left to hear of a failure. -/
def Host.releaseWith {kind : ObjectKind} (provider : Provider) (handle : Handle kind)
    (release : Handle kind → Native Unit) (host : Host) : Host :=
  match provider.table.call (release handle) host with
  | .ok _ host => host
  | .error e host => host.notify (.releaseFailed kind handle e)

/-- Release a reference to a program. -/
def ProgramRef.release (program : ProgramRef) (host : Host) : Host :=
  match program.provider.table.call (Simulator.programRelease program.handle) host with
  | .ok _ host => host.notify (.programReleased program.handle)
  | .error e host => host.notify (.releaseFailed .program program.handle e)

/-- Release references to programs, in order. -/
def releasePrograms (programs : List ProgramRef) (host : Host) : Host :=
  programs.foldl (fun host program => program.release host) host

/-- Release what an object keeps, at its end; the image of a program that was replaced by others
releases the latest one first. -/
def Owner.release : Owner → Host → Host
  | .context ended => Host.releaseWith ended.provider ended.handle Simulator.contextRelease
  | .queue ended => Host.releaseWith ended.provider ended.handle Simulator.queueRelease
  | .event ended => Host.releaseWith ended.provider ended.handle Simulator.eventRelease
  | .kernel ended => Host.releaseWith ended.provider ended.handle Simulator.kernelRelease
  | .image ended => releasePrograms (ended.program :: ended.superseded)

/-- Let a value go: the objects that end with it are released. -/
def Host.letGo (value : Managed) (host : Host) : Host :=
  (value.ending host.held.values).foldl (fun host owner => owner.release host) host

/-- Run `body`, and release references to programs should it fail. -/
def orRelease {α : Type} (programs : List ProgramRef) (body : ImportM α) : ImportM α :=
  fun host =>
    match body host with
    | .ok a host => .ok a host
    | .error e host => .error e (releasePrograms programs host)

end ComputeImport
