import ComputeImport.Proofs.Import.Program
import ComputeImport.Proofs.Session.History

/-!
# What an import promises

In every session, a bundle that an import brings back is in the state that was asked for on every
device of its program, whichever mix of entry points has brought it there.  An import that fails
after it has changed a stage warns the caller, unless what fails is the search for the platforms of
the devices at the end.
-/

namespace ComputeImport

open Simulator

/-! ## A session over one backend -/

/-- A session in which a context with two devices has been imported and a program for some of them
has been created. -/
def Session.sample (config : SimulatorConfig) (devices : List NativeHandle) (stage : Stage)
    (further : List Step) : Session :=
  let registration : Registration := { backend := .cuda, table := { simulator := 0 } }
  ((opening [config] [.listed [registration] {}] {}).run
    ([⟨.caller 0 .createPlatform, none⟩,
      ⟨.caller 0 (.createDevice ⟨4096⟩), none⟩,
      ⟨.caller 0 (.createDevice ⟨4096⟩), none⟩,
      ⟨.caller 0 (.createContext [⟨4097⟩, ⟨4098⟩]), none⟩,
      ⟨.makeContext (some 0) ⟨4099⟩ .cuda, some "context"⟩,
      ⟨.caller 0 (.createProgram devices stage ["axpy"]), none⟩] ++ further)).2

/-- The provider that the sample session registers. -/
def Provider.sample : Provider :=
  ⟨0, .cuda, Backend.cuda.demands, { simulator := 0 }⟩

/-- The registry of the sample session. -/
def Registry.sample : Registry :=
  Registry.register {} .sample

/-- The context of the sample session. -/
def Context.sample : Context :=
  ⟨1, ⟨1⟩, .sample⟩

theorem Session.sample_reachable {config : SimulatorConfig} {devices : List NativeHandle}
    {stage : Stage} {further : List Step} : (sample config devices stage further).Reachable :=
  ⟨_, _, _, _, rfl⟩

/-- Import the program of the sample session. -/
def Session.importSample (session : Session) (keeps : Bool) (target : BundleState) :
    EStateM.Result ImportError Host KernelBundle :=
  importProgram .sample ⟨4100⟩ .sample keeps target .cuda session.host

/-! ## Imports that succeed -/

section Promises

variable {session : Session} {registry : Registry} {handle : NativeHandle} {context : Context}
  {keeps : Bool} {target : BundleState} {backend : Backend} {provider : Provider} {after : Host}

theorem Simulator.programBehind?_eq_some {sim : Simulator} {program : ProgramHandle}
    {native : NativeHandle} (behind : sim.store.Behind program native) :
    sim.programBehind? program = some native := by
  rcases behind with ⟨wrapper, found, isProgram, rfl⟩
  simp [programBehind?, wrapper?, found, isProgram]

/-- The one image of a bundle that has been imported leads to a live program for the same devices and
with the same kernels as the imported one, and nothing has to be done about any of its devices to
have it in the state that was asked for.  The devices of the bundle are the wrappers of the devices
of the program, one for one. -/
theorem importProgram_settles (reachable : session.Reachable) {bundle : KernelBundle}
    (outcome : importProgram registry handle context keeps target backend session.host =
      .ok bundle after) :
    ∃ provider image binary native new,
      registry.provider? backend = some provider ∧
      bundle = ⟨context, image.devices, target, [image]⟩ ∧
      image.state = target ∧ image.program.provider = provider ∧
      (session.host.simulator provider.table.simulator).program? handle = some binary ∧
      (after.simulator provider.table.simulator).programBehind? image.program.handle =
        some native ∧
      (after.simulator provider.table.simulator).program? native = some new ∧
      (∀ device, device ∈ new.devices ↔ device ∈ binary.devices) ∧
      (∀ name, name ∈ new.kernels ↔ name ∈ binary.kernels) ∧
      (∀ device ∈ new.devices, ∃ stage,
        (after.simulator provider.table.simulator).programStage? native device = some stage ∧
        stage.plan target = .keep) ∧
      (after.simulator provider.table.simulator).store.Lists binary.devices
        (image.devices.map Device.handle) := by
  rcases exists_provider outcome with ⟨provider, resolved⟩
  rcases (ends_importProgram resolved (reachable.wellFormed _)).of_ok outcome with
    ⟨binary, image, known, bundle_eq, state, own, ⟨native, new, leads, follows, settled⟩, lists,
      formed⟩
  refine ⟨provider, image, binary, native, new, resolved, bundle_eq, state, own, known,
    programBehind?_eq_some leads.1, program?_eq_some.mpr leads.2, follows.devices, follows.kernels,
    ?_, lists⟩
  intro device member
  refine ⟨new.stageOf device, ?_, settled device ((follows.devices device).mp member)⟩
  rw [programStage?, program?_eq_some.mpr leads.2]
  exact (leads.isTidy formed).stage_known member

/-- A program is built for two devices, one of which is listed twice. -/
theorem importProgram_settles_sample :
    ∃ bundle after,
      (Session.sample .cuda [⟨4097⟩, ⟨4098⟩, ⟨4097⟩] .unbuilt []).importSample true .executable =
        .ok bundle after ∧
      bundle.state = .executable := by
  have success : bringsBack (fun _ _ => true)
      ((Session.sample .cuda [⟨4097⟩, ⟨4098⟩, ⟨4097⟩] .unbuilt []).importSample true
        .executable) = true := by decide +kernel
  rcases exists_of_bringsBack success with ⟨bundle, after, outcome, -⟩
  rcases importProgram_settles Session.sample_reachable outcome with
    ⟨_, _, _, _, _, -, bundle_eq, -⟩
  exact ⟨bundle, after, outcome, by rw [bundle_eq]⟩

/-! ## Imports that fail -/

/-- The stage of a native program for a device is another one than before. -/
def Simulator.StageChanged (before after : Simulator) (handle : NativeHandle) : Prop :=
  ∃ device old new, before.programStage? handle device = some old ∧
    after.programStage? handle device = some new ∧ new ≠ old

theorem Store.Spares.not_stageChanged {before after : Simulator}
    (spares : before.store.Spares after.store) : ¬ before.StageChanged after handle := by
  rintro ⟨device, old, new, isOld, isNew, different⟩
  rcases Option.bind_eq_some_iff.mp isNew with ⟨binary, known, staged⟩
  rcases program?_eq_some.mp known with ⟨refs, found⟩
  have known' := program?_eq_some.mpr (spares handle binary refs found)
  rw [programStage?, known', Option.bind_some, staged] at isOld
  exact different (Option.some.inj isOld)

/-- An import that fails after it has changed a stage warns the caller exactly when it has not gone
on to ask for the platform of a device.  Without a warning, one of the devices has no live platform,
or asking for it has been told to fail. -/
theorem mayHaveMutated_iff_unasked (reachable : session.Reachable)
    (resolved : registry.provider? backend = some provider) {e : ImportError}
    (outcome : importProgram registry handle context keeps target backend session.host =
      .error e after)
    (changed : (session.host.simulator provider.table.simulator).StageChanged
      (after.simulator provider.table.simulator) handle) :
    (e.mayHaveMutated = true ↔
      (after.simulator provider.table.simulator).callCount .devicePlatform =
        (session.host.simulator provider.table.simulator).callCount .devicePlatform) ∧
    (e.mayHaveMutated = false →
      (session.host.simulator provider.table.simulator).failures.get? .devicePlatform ≠ none ∨
      ∃ binary, (session.host.simulator provider.table.simulator).program? handle = some binary ∧
        ∃ device ∈ binary.devices, ∃ platform refs,
          (session.host.simulator provider.table.simulator).store.natives.get? device =
            some ⟨.device platform, refs⟩ ∧
          ¬ (session.host.simulator provider.table.simulator).store.HasNative .platform
            platform) := by
  cases (ends_importProgram resolved (reachable.wellFormed _)).of_error outcome with
  | spared spares unasked => exact absurd changed spares.not_stageChanged
  | warned warns unasked =>
      refine ⟨⟨fun _ => unasked, fun _ => warns⟩, fun unwarned => ?_⟩
      rw [warns] at unwarned
      contradiction
  | late binary known unwarned asked cause =>
      refine ⟨⟨fun warns => ?_, fun unasked => ?_⟩, fun _ => ?_⟩
      · rw [warns] at unwarned
        contradiction
      · exact absurd asked (Nat.not_lt_of_le (Nat.le_of_eq unasked))
      · exact cause.imp_right fun dead => ⟨binary, known, dead⟩

/-- A session in which asking for the platform of a device has been told to fail. -/
def Session.stuck : Session :=
  sample .cuda [⟨4097⟩] .unbuilt [⟨.caller 0 (.inject .devicePlatform (.other "gone")), none⟩]

theorem Session.stuck_fails :
    ∃ e after, stuck.importSample true .executable = .error e after ∧
      (stuck.host.simulator 0).StageChanged (after.simulator 0) ⟨4100⟩ ∧
      e.mayHaveMutated = false := by
  have failure : failsWith (fun e after =>
      decide ((stuck.host.simulator 0).programStage? ⟨4100⟩ ⟨4097⟩ = some .unbuilt ∧
        (after.simulator 0).programStage? ⟨4100⟩ ⟨4097⟩ = some .executable ∧
        e.mayHaveMutated = false))
      (stuck.importSample true .executable) = true := by decide +kernel
  rcases exists_of_failsWith failure with ⟨e, after, outcome, ended⟩
  rcases of_decide_eq_true ended with ⟨old, new, unwarned⟩
  exact ⟨e, after, outcome, ⟨⟨4097⟩, .unbuilt, .executable, old, new, by decide⟩, unwarned⟩

/-- A program may have been built by an import that fails without a warning. -/
theorem exists_unwarned :
    ∃ (session : Session) (e : ImportError) (after : Host), session.Reachable ∧
      session.importSample true .executable = .error e after ∧
      (session.host.simulator 0).StageChanged (after.simulator 0) ⟨4100⟩ ∧
      e.mayHaveMutated = false := by
  rcases Session.stuck_fails with ⟨e, after, outcome, changed, unwarned⟩
  exact ⟨Session.stuck, e, after, Session.sample_reachable, outcome, changed, unwarned⟩

/-- There the platform of a device has been asked for. -/
theorem mayHaveMutated_iff_unasked_stuck :
    ∃ e after, Session.stuck.importSample true .executable = .error e after ∧
      (after.simulator 0).callCount .devicePlatform ≠
        (Session.stuck.host.simulator 0).callCount .devicePlatform := by
  rcases Session.stuck_fails with ⟨e, after, outcome, changed, unwarned⟩
  have resolved : Registry.sample.provider? .cuda = some .sample := by decide
  rcases mayHaveMutated_iff_unasked Session.sample_reachable resolved outcome changed with
    ⟨exactly, -⟩
  refine ⟨e, after, outcome, fun unasked => ?_⟩
  exact Bool.false_ne_true (unwarned.symm.trans (exactly.mpr unasked))

end Promises

end ComputeImport
