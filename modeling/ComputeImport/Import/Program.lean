import ComputeImport.Import.Build

/-!
# Importing programs

A native program is wrapped, taken to the state that is asked for on each of its devices, and
handed out as a bundle of one image.  When any step fails, the references taken on the way are
released.
-/

namespace ComputeImport

/-- The devices of a newly wrapped program; the table must list as many as it reports. -/
def listDevices (table : Table) (program : ProgramHandle) : ImportM (List DeviceHandle) := do
  let number ← native (table.programNumDevices program)
  let devices ← native (table.call (Simulator.programDevices program))
  if devices.length = number then
    pure devices
  else
    throw (.native (.invalidValue
      s!"{program.text} reports {number} devices but lists {devices.length}"))

/-- Import a native program as a bundle of one image in the state that is asked for. -/
def importProgram (registry : Registry) (handle : NativeHandle) (context : Context)
    (keeps : Bool) (target : BundleState) (backend : Backend) : ImportM KernelBundle := do
  notify (.entered (.importProgram handle keeps target backend))
  timed "import_program" do
    let provider ← registry.resolve backend
    let ownership := Ownership.ofKeep keeps
    let wrapper ← native (provider.table.call
      (Simulator.programCreate handle context.handle ownership.ownsNative))
    takeReferenceIfNeeded provider wrapper Simulator.programRetain Simulator.programRelease
    let program : ProgramRef := ⟨wrapper, provider⟩
    let handles ← orRelease [program] (listDevices provider.table wrapper)
    notify (.programImported wrapper handles.length ownership)
    let built ←
      Builder.advance ⟨provider, context, registry.options⟩ target program [] handles
    let devices ← orRelease (built.current :: built.superseded)
      (manageDevices provider [] handles)
    let image : DeviceImage :=
      { identity := ← freshIdentity
        program := built.current
        superseded := built.superseded
        devices
        state := target }
    return ⟨context, devices, target, [image]⟩

end ComputeImport
