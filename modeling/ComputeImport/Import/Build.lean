import ComputeImport.Import.Objects

/-!
# Taking an imported program to the state that is asked for

The devices of the program are gone through in order.  For each, the stage of the program is asked
for and the operation that leads from there to the state is run, by the entry point for chosen
devices, or, where a table does not have it, by the one for whole programs.  A link makes a new
program, which takes the place of the old one for the devices to come.  Nothing is undone when a
device fails, except that the references to all programs are released.
-/

namespace ComputeImport

/-- Where and with which options a program is taken further. -/
structure Builder where
  provider : Provider
  context : Context
  options : BuildOptions

/-- The program in the state that was asked for, with the programs that it replaced on the way,
oldest first. -/
structure Built where
  current : ProgramRef
  superseded : List ProgramRef
  deriving DecidableEq

/-- Run the entry point for chosen devices, and in its absence the one for whole programs. -/
def withFallback {α : Type} (operation : BuildOperation) (device : DeviceHandle)
    (perDevice whole : TableM α) : ImportM α := do
  match ← attempt perDevice with
  | .ok a => pure a
  | .error e =>
      if e.isUnsupported then
        notify (.fellBack operation device)
        match ← attempt whole with
        | .ok a => pure a
        | .error e => throw (.buildFailed operation device e)
      else
        throw (.buildFailed operation device e)

namespace Builder

/-- Compile a program for a device. -/
def compile (builder : Builder) (program : ProgramHandle) (device : DeviceHandle) :
    ImportM Unit :=
  let options := builder.options.compile
  withFallback .compile device
    (builder.provider.table.programCompileFor program [device] options)
    (builder.provider.table.call
      (Simulator.programCompile builder.context.handle program options))

/-- Build a program for a device. -/
def build (builder : Builder) (program : ProgramHandle) (device : DeviceHandle) :
    ImportM Unit :=
  let options := builder.options.compile
  withFallback .build device
    (builder.provider.table.programBuildFor program [device] options)
    (builder.provider.table.call
      (Simulator.programBuild builder.context.handle program options))

/-- Link a program for a device into a new one. -/
def link (builder : Builder) (program : ProgramHandle) (device : DeviceHandle) :
    ImportM ProgramHandle :=
  let options := builder.options.link
  withFallback .link device
    (builder.provider.table.programLinkFor builder.context.handle [device] [program] options)
    (builder.provider.table.call
      (Simulator.programLink builder.context.handle [program] options))

/-- Take a program to the state for one device.  The outcome is the program that has taken its
place, if one has. -/
def advanceDevice (builder : Builder) (target : BundleState) (current : ProgramRef)
    (device : DeviceHandle) : ImportM (Option ProgramRef) := do
  let discovered ← native
    (builder.provider.table.call (Simulator.programBinaryType current.handle device))
  let action := discovered.plan target
  notify (.advancing current.handle device discovered target action)
  match action with
  | .keep => pure none
  | .mismatch => throw (.stateMismatch discovered target)
  | .run .compile => do
      builder.compile current.handle device
      pure none
  | .run .build => do
      builder.build current.handle device
      pure none
  | .run .link => do
      let linked ← builder.link current.handle device
      notify (.replaced current.handle linked device)
      pure (some ⟨linked, builder.provider⟩)

/-- Take a program to the state for all devices, in order. -/
def advance (builder : Builder) (target : BundleState) (current : ProgramRef)
    (superseded : List ProgramRef) : List DeviceHandle → ImportM Built
  | [] => pure ⟨current, superseded⟩
  | device :: devices => do
      let replacement ← orRelease (superseded ++ [current])
        (builder.advanceDevice target current device)
      match replacement with
      | none => builder.advance target current superseded devices
      | some linked =>
          builder.advance target linked (superseded ++ [current]) devices

end Builder

end ComputeImport
