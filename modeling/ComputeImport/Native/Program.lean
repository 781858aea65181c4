import ComputeImport.Native.Simulator

/-!
# Programs of a backend

The entry points that wrap programs and take them from stage to stage.  An operation for chosen
devices insists that none of them has been built for, and one for the whole program passes over
those that have.  A link leaves its inputs as they are and makes a new program.
-/

namespace ComputeImport.Simulator

/-! ## Wrapping and inspecting -/

/-- Wrap a native program. -/
def programCreate (native : NativeHandle) (context : ContextHandle) (ownsNative : Bool) :
    Native ProgramHandle :=
  perform (.programCreate native context ownsNative) do
    let _ ← onStore (Store.wrapper context)
    let _ ← onStore (Store.native .program native)
    wrapImported .program native ownsNative

/-- Take a reference to the wrapper of a program. -/
def programRetain (program : ProgramHandle) : Native Unit :=
  perform (.programRetain program) (onStore (Store.retain program))

/-- Drop a reference to the wrapper of a program. -/
def programRelease (program : ProgramHandle) : Native Unit :=
  perform (.programRelease program) (onStore (Store.release program))

/-- What the backend knows of the program behind a wrapper. -/
def binaryBehind (program : ProgramHandle) : StoreM ProgramBinary := do
  Store.nativeProgram (← Store.behind program)

/-- The number of devices of a program, those that are listed twice counted twice.  It is reported
in 32 bits. -/
def programNumDevices (program : ProgramHandle) : Native Nat :=
  perform (.programNumDevices program) (onStore do
    let number := (← binaryBehind program).devices.length
    if number < UInt32.size then
      pure number
    else
      throw (.invalidValue "too many devices"))

/-- The wrappers of the devices of a program, in order. -/
def programDevices (program : ProgramHandle) : Native (List DeviceHandle) :=
  perform (.programDevices program) (onStore do
    Store.wrapDevices (← binaryBehind program).devices)

/-- How far a program has been built for a device. -/
def programBinaryType (program : ProgramHandle) (device : DeviceHandle) : Native Stage :=
  perform (.programBinaryType program device) (onStore do
    let native ← Store.behind program
    let nativeDevice ← Store.behind device
    match (← Store.nativeProgram native).stages.get? nativeDevice with
    | some stage => pure stage
    | none => throw (.invalidValue s!"{device.text} not associated with {program.text}"))

/-- The kernels that a program defines, in the order of their definition. -/
def programKernelNames (program : ProgramHandle) : Native (List String) :=
  perform (.programKernelNames program) (onStore do
    return (← binaryBehind program).kernels)

/-! ## Compiling, building and linking -/

/-- Remember the options of a compile, build or link. -/
def noteOptions (options : Option String) : Native Unit :=
  modify fun backend => { backend with lastOptions := options }

/-- Check that each selected device belongs to a program and has not been built for. -/
def checkUnbuilt (binary : ProgramBinary) : List NativeHandle → StoreM Unit
  | [] => pure ()
  | device :: devices => do
      if device ∉ binary.devices then
        throw (.invalidValue s!"device 0x{Text.hexadecimal device.raw} not in program")
      let stage := binary.stageOf device
      if stage ≠ .unbuilt then
        throw (.invalidValue (s!"program is {stage.text} for device " ++
          s!"0x{Text.hexadecimal device.raw}, expected one of [{Stage.unbuilt.label}]"))
      checkUnbuilt binary devices

/-- Take a program to a stage for the selected devices, all of which must be unbuilt. -/
def advanceFor (program : ProgramHandle) (devices : List DeviceHandle) (stage : Stage)
    (options : Option String) : Native Unit := do
  let native ← onStore (Store.behind program)
  let selected ← onStore (Store.behindAll devices)
  noteOptions options
  onStore do
    let binary ← Store.nativeProgram native
    checkUnbuilt binary selected
    let stages := selected.foldl (fun stages device => stages.set device stage) binary.stages
    Store.setProgram native { binary with stages }

/-- Take a program to a stage for every device that it has not been built for. -/
def advance (program : ProgramHandle) (stage : Stage) (options : Option String) :
    Native Unit := do
  let native ← onStore (Store.behind program)
  noteOptions options
  onStore do
    let binary ← Store.nativeProgram native
    let stages := binary.stages.mapValues fun old => if old = .unbuilt then stage else old
    Store.setProgram native { binary with stages }

/-- Compile a program for chosen devices. -/
def programCompileFor (program : ProgramHandle) (devices : List DeviceHandle)
    (options : Option String) : Native Unit :=
  performFor (.programCompileFor program devices options) "program_compile_exp"
    (advanceFor program devices .object options)

/-- Compile a program for all devices that it has not been built for. -/
def programCompile (context : ContextHandle) (program : ProgramHandle)
    (options : Option String) : Native Unit :=
  perform (.programCompile context program options) do
    let _ ← onStore (Store.wrapper context)
    advance program .object options

/-- Build a program for chosen devices. -/
def programBuildFor (program : ProgramHandle) (devices : List DeviceHandle)
    (options : Option String) : Native Unit :=
  performFor (.programBuildFor program devices options) "program_build_exp"
    (advanceFor program devices .executable options)

/-- Build a program for all devices that it has not been built for. -/
def programBuild (context : ContextHandle) (program : ProgramHandle)
    (options : Option String) : Native Unit :=
  perform (.programBuild context program options) do
    let _ ← onStore (Store.wrapper context)
    advance program .executable options

/-- The stage that a device has after a link: a device to link for must stand at a linkable stage
and becomes executable, another one stays where it is. -/
def linkedStage (wanted : NativeHandle → Bool) (device : NativeHandle) (stage : Stage) :
    Except NativeError Stage :=
  if wanted device then
    match stage with
    | .object | .library => .ok .executable
    | .unbuilt | .executable =>
        .error (.linkFailure
          s!"cannot link {stage.text} binary for device 0x{Text.hexadecimal device.raw}")
  else
    .ok stage

/-- Add the devices of one input to the outcome of a link.  A device that an earlier input has
already brought keeps its place and takes its stage from the later input. -/
def linkDevices (wanted : NativeHandle → Bool) (input : ProgramBinary) :
    List NativeHandle → ProgramBinary → Except NativeError ProgramBinary
  | [], linked => .ok linked
  | device :: devices, linked =>
      match linkedStage wanted device (input.stageOf device) with
      | .error e => .error e
      | .ok stage =>
          linkDevices wanted input devices
            { linked with
                devices := if device ∈ linked.devices then linked.devices
                  else linked.devices ++ [device]
                stages := linked.stages.set device stage }

/-- Add kernels to the outcome of a link, each name once. -/
def linkKernels (names : List String) (linked : ProgramBinary) : ProgramBinary :=
  { linked with
      kernels := names.foldl
        (fun kernels name => if name ∈ kernels then kernels else kernels ++ [name])
        linked.kernels }

/-- Link the programs behind wrappers, in order, on top of what has been linked already. -/
def linkPrograms (wanted : NativeHandle → Bool) :
    List ProgramHandle → ProgramBinary → StoreM ProgramBinary
  | [], linked => pure linked
  | program :: programs, linked => do
      let input ← binaryBehind program
      match linkDevices wanted input input.devices linked with
      | .error e => throw e
      | .ok linked => linkPrograms wanted programs (linkKernels input.kernels linked)

/-- Link programs into a new one, which is owned by a new wrapper. -/
def linkInto (wanted : NativeHandle → Bool) (programs : List ProgramHandle) :
    StoreM ProgramHandle := do
  let linked ← linkPrograms wanted programs ⟨[], {}, []⟩
  let native ← Store.create (.program linked)
  Store.wrap .program native true 1

/-- Link programs for chosen devices into a new program; other devices keep their stages. -/
def programLinkFor (context : ContextHandle) (devices : List DeviceHandle)
    (programs : List ProgramHandle) (options : Option String) : Native ProgramHandle :=
  performFor (.programLinkFor context devices programs options) "program_link_exp" do
    let _ ← onStore (Store.wrapper context)
    if programs.isEmpty then throw (.invalidValue "no input programs")
    let selected ← onStore (Store.behindAll devices)
    noteOptions options
    onStore (linkInto (fun device => selected.contains device) programs)

/-- Link programs for all their devices into a new program. -/
def programLink (context : ContextHandle) (programs : List ProgramHandle)
    (options : Option String) : Native ProgramHandle :=
  perform (.programLink context programs options) do
    let _ ← onStore (Store.wrapper context)
    if programs.isEmpty then throw (.invalidValue "no input programs")
    noteOptions options
    onStore (linkInto (fun _ => true) programs)

end ComputeImport.Simulator
