import ComputeImport.Proofs.Simulator.Answers

/-!
# Where wrapping ends

What the entry points do to the store that wrap native objects, and those that tell about programs
and platforms.  A call that wraps adds one wrapper, numbered next; one that fails has at most
wrapped platforms and devices.
-/

namespace ComputeImport.Simulator

variable {sim : Simulator}

/-! ## Looking -/

/-- The wrapper of the platform that a device belongs to is found or made where the device and its
platform are live. -/
theorem answers_devicePlatform {device : DeviceHandle} :
    Answers (.devicePlatform device) (devicePlatform device) sim
      (fun handle store => sim.store.Quiet store ∧ ∃ native platform refs,
        sim.store.Behind device native ∧
        sim.store.natives.get? native = some ⟨.device platform, refs⟩ ∧
        sim.store.HasNative .platform platform ∧
        store.platformWrappers.get? platform = some handle)
      (fun _ store => store = sim.store ∧ ∀ native platform refs,
        sim.store.Behind device native →
        sim.store.natives.get? native = some ⟨.device platform, refs⟩ →
        ¬ sim.store.HasNative .platform platform) := by
  refine (Works.onStore ?_).answers
  refine (Store.ends_behind.imp (fun _ _ found => found) ?_).bind ?_
  · rintro e store ⟨equal, -, dead⟩
    exact ⟨equal, fun _ _ _ behind => absurd behind.hasWrapper dead⟩
  rintro native store ⟨equal, behind⟩
  rw [equal]
  refine (Store.ends_nativeDevice.imp (fun _ _ found => found) ?_).bind ?_
  · rintro e store ⟨equal, -, dead⟩
    refine ⟨equal, ?_⟩
    rintro native' platform refs behind' found
    obtain rfl := behind.unique behind'
    exact absurd ⟨_, found, rfl⟩ dead
  rintro platform store' ⟨equal', refs, found⟩
  rw [equal']
  refine Store.ends_wrapPlatform.imp ?_ ?_
  · rintro handle after ⟨quiet, known, live⟩
    exact ⟨quiet, native, platform, refs, behind, found, live, known⟩
  · rintro e after ⟨same, -, dead⟩
    refine ⟨same, ?_⟩
    rintro native' platform' refs' behind' found'
    obtain rfl := behind.unique behind'
    rw [found] at found'
    cases found'
    exact dead

/-- The devices of a live program are counted where their number has 32 bits. -/
theorem answers_programNumDevices {program : ProgramHandle} :
    Answers (.programNumDevices program) (programNumDevices program) sim
      (fun number store => store = sim.store ∧ ∃ native binary,
        sim.store.Leads program native binary ∧ number = binary.devices.length ∧ number < UInt32.size)
      (fun _ store => store = sim.store ∧ ∀ native binary,
        sim.store.Leads program native binary → UInt32.size ≤ binary.devices.length) := by
  refine (Works.onStore ?_).answers
  refine (Store.ends_binaryBehind.imp (fun _ _ found => found) ?_).bind ?_
  · rintro e store ⟨equal, dead⟩
    exact ⟨equal, fun native binary leads => absurd leads (dead native binary)⟩
  rintro binary store ⟨equal, native, leads⟩
  dsimp only
  split
  · rename_i few
    exact ⟨equal, native, binary, leads, rfl, few⟩
  · rename_i many
    refine ⟨equal, ?_⟩
    intro native' binary' leads'
    obtain ⟨-, rfl⟩ := leads.unique leads'
    exact Nat.le_of_not_lt many

/-- The kernels of a program are listed where the program is live. -/
theorem answers_programKernelNames {program : ProgramHandle} :
    Answers (.programKernelNames program) (programKernelNames program) sim
      (fun names store => store = sim.store ∧ ∃ native binary,
        sim.store.Leads program native binary ∧ names = binary.kernels)
      (fun _ store => store = sim.store) := by
  refine (Works.onStore ?_).answers
  refine (Store.ends_binaryBehind.imp (fun _ _ found => found) fun _ _ failed => failed.1).bind ?_
  rintro binary store ⟨equal, native, leads⟩
  exact ⟨equal, native, binary, leads, rfl⟩

/-- The devices of a program are listed where the program and all of them are live. -/
theorem answers_programDevices {program : ProgramHandle} :
    Answers (.programDevices program) (programDevices program) sim
      (fun handles store => sim.store.Quiet store ∧ ∃ native binary,
        sim.store.Leads program native binary ∧
        store.Lists binary.devices handles ∧
        ∀ device ∈ binary.devices, sim.store.HasNative .device device)
      (fun _ store => sim.store.Quiet store ∧ ∀ native binary,
        sim.store.Leads program native binary →
        ∃ device ∈ binary.devices, ¬ sim.store.HasNative .device device) := by
  refine (Works.onStore ?_).answers
  refine (Store.ends_binaryBehind.imp (fun _ _ found => found) ?_).bind ?_
  · rintro e store ⟨rfl, dead⟩
    exact ⟨.refl _, fun native binary leads => absurd leads (dead native binary)⟩
  rintro binary store ⟨equal, native, leads⟩
  rw [equal]
  refine Store.ends_wrapDevices.imp ?_ ?_
  · rintro handles after ⟨quiet, known, live⟩
    exact ⟨quiet, native, binary, leads, known, live⟩
  · rintro e after ⟨quiet, dead⟩
    refine ⟨quiet, ?_⟩
    intro native' binary' leads'
    obtain ⟨-, rfl⟩ := leads.unique leads'
    exact dead

/-- The stage of a program for a device is told where both are live and belong together. -/
theorem answers_programBinaryType {program : ProgramHandle} {device : DeviceHandle} :
    Answers (.programBinaryType program device) (programBinaryType program device) sim
      (fun stage store => store = sim.store ∧ ∃ native binary nativeDevice,
        sim.store.Leads program native binary ∧ sim.store.Behind device nativeDevice ∧
        binary.stages.get? nativeDevice = some stage)
      (fun _ store => store = sim.store ∧ ∀ native binary nativeDevice,
        sim.store.Leads program native binary → sim.store.Behind device nativeDevice →
        binary.stages.get? nativeDevice = none) := by
  refine (Works.onStore ?_).answers
  refine (Store.ends_behind.imp (fun _ _ found => found) ?_).bind ?_
  · rintro e store ⟨equal, -, dead⟩
    exact ⟨equal, fun _ _ _ leads => absurd leads.1.hasWrapper dead⟩
  rintro native store ⟨equal, behind⟩
  rw [equal]
  refine (Store.ends_behind.imp (fun _ _ found => found) ?_).bind ?_
  · rintro e store ⟨equal, -, dead⟩
    exact ⟨equal, fun _ _ _ _ behind => absurd behind.hasWrapper dead⟩
  rintro nativeDevice store' ⟨equal', behindDevice⟩
  rw [equal']
  refine ((Store.ends_nativeProgram_of_behind behind).imp (fun _ _ found => found) ?_).bind ?_
  · rintro e store ⟨equal, dead⟩
    exact ⟨equal, fun native binary _ leads => absurd leads (dead native binary)⟩
  rintro binary store'' ⟨rfl, leads⟩
  cases staged : binary.stages.get? nativeDevice with
  | some stage => exact ⟨rfl, native, binary, nativeDevice, leads, behindDevice, staged⟩
  | none =>
      refine ⟨rfl, ?_⟩
      intro native' binary' nativeDevice' leads' behindDevice'
      obtain ⟨-, rfl⟩ := leads.unique leads'
      obtain rfl := behindDevice.unique behindDevice'
      exact staged

/-! ## Wrapping on behalf of an import -/

/-- A live native object has been wrapped anew. -/
structure Wraps (store : Store) (data : WrapperData) (native : NativeHandle) (ownsNative : Bool)
    (refs : Nat) (handle : Handle data.kind) (after : Store) : Prop where
  live : store.HasNative data.kind native
  handle_eq : handle = ⟨store.nextWrapper⟩
  after_eq : after = store.wrapped data native ownsNative refs

/-- An import wraps a native object with the references that its backend starts with. -/
theorem works_wrapImported {data : WrapperData} {native : NativeHandle} {ownsNative : Bool}
    {failed : NativeError → Store → Prop} (live : sim.store.HasNative data.kind native) :
    Works (wrapImported data native ownsNative) sim
      (Wraps sim.store data native ownsNative (initialRefs sim.config)) failed := by
  intro before store config
  rw [← store] at live
  rw [← store, ← config]
  exact ⟨⟨rfl, rfl, rfl⟩, live, rfl, rfl⟩

theorem answers_contextCreate {native : NativeHandle} {devices : List DeviceHandle}
    {ownsNative : Bool} :
    Answers (.contextCreate native devices ownsNative) (contextCreate native devices ownsNative)
      sim (Wraps sim.store .context native ownsNative (initialRefs sim.config))
      (fun _ store => store = sim.store) := by
  refine Works.answers ?_
  refine (Works.onStore
    (Store.ends_native.imp (fun _ _ found => found) fun _ _ failed => failed.1)).bind ?_
  rintro _ _ ⟨rfl, live⟩
  refine (Works.onStore
    (Store.ends_behindAll.imp (fun _ _ found => found) fun _ _ failed => failed.1)).bind ?_
  rintro _ _ ⟨rfl, -⟩
  exact works_wrapImported live

theorem answers_eventCreate {native : NativeHandle} {context : ContextHandle}
    {ownsNative : Bool} :
    Answers (.eventCreate native context ownsNative) (eventCreate native context ownsNative) sim
      (Wraps sim.store .event native ownsNative (initialRefs sim.config))
      (fun _ store => store = sim.store) := by
  refine Works.answers ?_
  refine (Works.onStore
    (Store.ends_wrapper.imp (fun _ _ found => found) fun _ _ failed => failed.1)).bind ?_
  rintro _ _ ⟨rfl, -⟩
  refine (Works.onStore
    (Store.ends_native.imp (fun _ _ found => found) fun _ _ failed => failed.1)).bind ?_
  rintro _ _ ⟨rfl, live⟩
  exact works_wrapImported live

/-- A program is wrapped where it and the context are live. -/
theorem answers_programCreate {native : NativeHandle} {context : ContextHandle}
    {ownsNative : Bool} :
    Answers (.programCreate native context ownsNative) (programCreate native context ownsNative)
      sim (Wraps sim.store .program native ownsNative (initialRefs sim.config))
      (fun _ store => store = sim.store ∧
        (sim.store.HasWrapper context → ¬ sim.store.HasNative .program native)) := by
  refine Works.answers ?_
  refine (Works.onStore (Store.ends_wrapper.imp (fun _ _ found => found)
    fun _ _ failed => ⟨failed.1, fun live => absurd live failed.2.2⟩)).bind ?_
  rintro _ _ ⟨rfl, -⟩
  refine (Works.onStore (Store.ends_native.imp (fun _ _ found => found)
    fun _ _ failed => ⟨failed.1, fun _ => failed.2.2⟩)).bind ?_
  rintro _ _ ⟨rfl, live⟩
  exact works_wrapImported live

/-- A kernel of a program may be wrapped together with a wrapper of that program, and without one on
backends that need none. -/
def Allows (sim : Simulator) (owner : NativeHandle) : Option ProgramHandle → Prop
  | some program => sim.store.Behind program owner
  | none => sim.config.kernelNeedsProgram = false

/-- A native kernel is live, and may be wrapped together with a program, or without one. -/
def Fits (sim : Simulator) (native : NativeHandle) (program : Option ProgramHandle) : Prop :=
  ∃ owner refs, sim.store.natives.get? native = some ⟨.kernel owner, refs⟩ ∧
    sim.Allows owner program

/-- Checking a kernel against its program changes nothing. -/
theorem works_checkKernelProgram {native owner : NativeHandle} {program : Option ProgramHandle} :
    Works (checkKernelProgram native owner program) sim
      (fun _ store => store = sim.store ∧ sim.Allows owner program)
      (fun _ store => store = sim.store ∧ ¬ sim.Allows owner program) := by
  intro before store config
  unfold checkKernelProgram
  cases program with
  | some program =>
      rw [ends_bind, ends_onStore, store]
      refine Store.ends_behind.imp ?_ ?_
      · rintro found _ ⟨rfl, behind⟩
        split
        · rename_i other
          exact ⟨⟨rfl, rfl, rfl⟩, rfl, fun allowed => other (behind.unique allowed)⟩
        · rename_i same
          exact ⟨⟨rfl, rfl, rfl⟩, rfl, not_not.mp same ▸ behind⟩
      · rintro e _ ⟨rfl, -, dead⟩
        exact ⟨⟨rfl, rfl, rfl⟩, rfl, fun allowed => dead allowed.hasWrapper⟩
  | none =>
      rw [ends_bind, ends_get, config]
      split
      · rename_i needs
        exact ⟨.refl before, store, fun allowed => Bool.false_ne_true (allowed.symm.trans needs)⟩
      · rename_i needs
        exact ⟨.refl before, store, (Bool.not_eq_true _).mp needs⟩

/-- A kernel is wrapped where the context is live and the kernel fits. -/
theorem answers_kernelCreate {native : NativeHandle} {context : ContextHandle}
    {program : Option ProgramHandle} {ownsNative : Bool} :
    Answers (.kernelCreate native context program ownsNative)
      (kernelCreate native context program ownsNative) sim
      (fun handle store => sim.Fits native program ∧
        Wraps sim.store .kernel native ownsNative (initialRefs sim.config) handle store)
      (fun _ store => store = sim.store ∧
        (sim.store.HasWrapper context → ¬ sim.Fits native program)) := by
  refine Works.answers ?_
  refine (Works.onStore (Store.ends_wrapper.imp (fun _ _ found => found)
    fun _ _ failed => ⟨failed.1, fun live => absurd live failed.2.2⟩)).bind ?_
  rintro _ _ ⟨rfl, -⟩
  refine (Works.onStore (Store.ends_nativeKernel.imp (fun _ _ found => found) ?_)).bind ?_
  · rintro e _ ⟨rfl, -, dead⟩
    exact ⟨rfl, fun _ ⟨owner, refs, found, _⟩ => dead ⟨_, found, rfl⟩⟩
  rintro owner _ ⟨rfl, refs, found⟩
  refine (works_checkKernelProgram.imp (fun _ _ checked => checked) ?_).bind ?_
  · rintro e _ ⟨rfl, refused⟩
    refine ⟨rfl, fun _ ⟨owner', refs', found', allowed⟩ => refused ?_⟩
    rw [found] at found'
    cases found'
    exact allowed
  rintro _ _ ⟨rfl, allowed⟩
  refine (works_wrapImported ⟨_, found, rfl⟩).imp (fun _ _ wraps => ⟨?_, wraps⟩) fun _ _ failed => failed
  exact ⟨owner, refs, found, allowed⟩

/-- The device that a queue is wrapped for is given, or else it is that of the native queue. -/
theorem ends_targetDevice {store : Store} {device : Option DeviceHandle} {target : NativeHandle} :
    Ends (match device with
      | some device => do
          let _ ← Store.wrapper device
          pure device
      | none => Store.wrapDevice target) store
      (fun wrapper after => store.Quiet after ∧ (store.WellFormed → after.HasWrapper wrapper) ∧
        (device = none → store.HasNative .device target ∧
          after.deviceWrappers.get? target = some wrapper))
      (fun _ after => after = store) := by
  cases device with
  | some device =>
      refine (Store.ends_wrapper.imp (fun _ _ found => found) fun _ _ failed => failed.1).bind ?_
      rintro wrapper _ ⟨rfl, live, isDevice⟩
      exact ⟨.refl _, fun _ => ⟨wrapper, live, isDevice⟩, nofun⟩
  | none =>
      refine Store.ends_wrapDevice.imp ?_ fun _ _ failed => failed.1
      rintro handle after ⟨quiet, known, live⟩
      refine ⟨quiet, fun formed => ?_, fun _ => ⟨live, known⟩⟩
      exact ⟨_, (quiet.grows.wellFormed formed).devices.wrapped target handle known, rfl⟩

/-- A queue is wrapped for a device that is wrapped, perhaps just now, and without a device given for
that of the native queue. -/
theorem answers_queueCreate {native : NativeHandle} {context : ContextHandle}
    {device : Option DeviceHandle} {settings : QueueSettings} :
    Answers (.queueCreate native context device settings)
      (queueCreate native context device settings) sim
      (fun handle store => ∃ quiet target, sim.store.Quiet quiet ∧
        (sim.store.WellFormed → quiet.HasWrapper target) ∧
        (device = none → ∃ owner refs, sim.store.natives.get? native = some ⟨.queue owner, refs⟩ ∧
          sim.store.HasNative .device owner ∧ quiet.deviceWrappers.get? owner = some target) ∧
        Wraps quiet (.queue ⟨target, settings.flags, settings.descriptor⟩) native
          settings.ownsNative (initialRefs sim.config) handle store)
      (fun _ store => store = sim.store) := by
  refine Works.answers ?_
  refine (Works.onStore
    (Store.ends_wrapper.imp (fun _ _ found => found) fun _ _ failed => failed.1)).bind ?_
  rintro _ _ ⟨rfl, -⟩
  refine (Works.onStore
    (Store.ends_nativeQueue.imp (fun _ _ found => found) fun _ _ failed => failed.1)).bind ?_
  rintro target _ ⟨rfl, refs, found⟩
  refine (Works.onStore ends_targetDevice).bind ?_
  rintro wrapper quiet ⟨grown, wrapped, targeted⟩
  have live : quiet.HasNative .queue native := by
    rw [Store.HasNative, grown.natives]
    exact ⟨_, found, rfl⟩
  refine Works.imp (works_wrapImported live) ?_ fun _ _ failed => failed
  refine fun _ _ wraps => ⟨quiet, wrapper, grown, wrapped, ?_, wraps⟩
  exact fun unset => ⟨target, refs, found, targeted unset⟩

end ComputeImport.Simulator
