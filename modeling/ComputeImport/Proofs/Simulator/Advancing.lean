import ComputeImport.Proofs.Simulator.Representation
import ComputeImport.Proofs.Simulator.Stages

/-!
# Compiling and building, for the whole program and for chosen devices

There are two ways to take a program further.  The one for chosen devices checks all of them before
it writes a stage, so that it does all or nothing.  The one for the whole program passes over the
devices that have been built for, and ends where the other one ends for those that have not.
-/

namespace ComputeImport.Simulator

variable {sim : Simulator} {α β : Type}

/-! ## The options that are remembered -/

/-- A step that works leaves some options as the latest ones. -/
def Notes (options : Option String) (program : Native α) : Prop :=
  ∀ sim, Ends program sim (fun _ after => after.lastOptions = options) fun _ _ => True

variable {options : Option String}

theorem Notes.after {first : Native α} {next : α → Native β}
    (rest : ∀ a, Notes options (next a)) : Notes options (first >>= next) :=
  fun _ => Ends.trivial.bind fun a after _ => rest a after

theorem notes_noteOptions (step : StoreM α) :
    Notes options (do noteOptions options; onStore step) := by
  intro sim
  have noted : Ends (noteOptions options) sim (fun _ after => after.lastOptions = options)
      fun _ _ => True := rfl
  refine noted.bind fun _ after kept => ends_onStore.mpr ?_
  exact Ends.trivial.imp (fun _ _ _ => kept) fun _ _ _ => True.intro

theorem notes_advance (program : ProgramHandle) (stage : Stage) :
    Notes options (advance program stage options) :=
  .after fun _ => notes_noteOptions _

theorem notes_advanceFor (program : ProgramHandle) (devices : List DeviceHandle) (stage : Stage) :
    Notes options (advanceFor program devices stage options) :=
  .after fun _ => .after fun _ => notes_noteOptions _

theorem Notes.perform {call : Call} {body : Native α} (notes : Notes options body) :
    Notes options (Simulator.perform call body) := by
  intro sim
  unfold Simulator.perform Ends
  dsimp only
  cases sim.failures.get? call.entryPoint with
  | some e => exact True.intro
  | none => exact notes { sim with calls := sim.calls ++ [call] }

theorem Notes.performFor {call : Call} {entryPoint : String} {body : Native α}
    (notes : Notes options body) : Notes options (Simulator.performFor call entryPoint body) := by
  refine Notes.perform (.after fun backend => ?_)
  split
  · exact notes
  · exact fun _ => True.intro

/-! ## The two ways to take a program further -/

/-- The operations that take a program itself further, and make no other one. -/
inductive Advancement where
  | compile | build

namespace Advancement

/-- The stage that an operation takes unbuilt devices to. -/
def goal : Advancement → Stage
  | compile => .object
  | build => .executable

/-- The call for the whole program. -/
def whole : Advancement → ContextHandle → ProgramHandle → Option String → Native Unit
  | compile => programCompile
  | build => programBuild

/-- The call for chosen devices. -/
def chosen : Advancement → ProgramHandle → List DeviceHandle → Option String → Native Unit
  | compile => programCompileFor
  | build => programBuildFor

/-- The entry points of both calls. -/
def entryPoints : Advancement → List EntryPoint
  | compile => [.programCompile, .programCompileFor]
  | build => [.programBuild, .programBuildFor]

variable {advancement : Advancement} {context : ContextHandle} {program : ProgramHandle}
  {devices : List DeviceHandle} {native : NativeHandle} {binary : ProgramBinary}

/-- A call that is not told to fail does its work or is refused. -/
theorem ends_of_answers {call : Call} {program : Native α} {ok : α → Store → Prop}
    {failed : NativeError → Store → Prop} (answers : Answers call program sim ok failed)
    (notes : Notes options program) (unset : sim.failures.get? call.entryPoint = none) :
    Ends program sim (fun a after => ok a after.store ∧ after.lastOptions = options)
      (fun e after => failed e after.store) := by
  refine (Ends.and answers (notes sim)).imp ?_ ?_
  · exact fun _ _ ended => ⟨ended.1.2.2, ended.2⟩
  · rintro e after ⟨⟨-, ⟨injected, -⟩ | ⟨-, refused⟩⟩, -⟩
    · rw [unset] at injected
      contradiction
    · exact refused

/-- The call for the whole program takes every unbuilt device further. -/
theorem ends_whole (unset : ∀ entryPoint ∈ advancement.entryPoints,
      sim.failures.get? entryPoint = none) (live : sim.store.HasWrapper context)
    (leads : sim.store.Leads program native binary) :
    Ends (advancement.whole context program options) sim
      (fun _ after =>
        after.store = sim.store.reprogrammed native (binary.advanced advancement.goal) ∧
        after.lastOptions = options)
      (fun _ _ => False) := by
  have ends : Ends (advancement.whole context program options) sim
      (fun _ after => Advances sim.store program advancement.goal after.store ∧
        after.lastOptions = options)
      (fun _ after => after.store = sim.store ∧ (sim.store.HasWrapper context →
        ∀ native binary, ¬ sim.store.Leads program native binary)) := by
    cases advancement with
    | compile =>
        exact ends_of_answers answers_programCompile (.perform (.after fun _ => notes_advance _ _))
          (unset .programCompile (by decide))
    | build =>
        exact ends_of_answers answers_programBuild (.perform (.after fun _ => notes_advance _ _))
          (unset .programBuild (by decide))
  refine ends.imp ?_ ?_
  · rintro _ after ⟨⟨native', binary', leads', equal⟩, noted⟩
    obtain ⟨rfl, rfl⟩ := leads.unique leads'
    exact ⟨equal, noted⟩
  · exact fun _ _ refused => refused.2 live native binary leads

/-- The call for chosen devices takes all of them further, or none. -/
theorem ends_chosen (perDevice : sim.config.perDevice = true)
    (unset : ∀ entryPoint ∈ advancement.entryPoints, sim.failures.get? entryPoint = none) :
    Ends (advancement.chosen program devices options) sim
      (fun _ after => AdvancesFor sim.store program devices advancement.goal after.store ∧
        after.lastOptions = options)
      (fun _ after => after.store = sim.store ∧ Refuses sim.store program devices) := by
  cases advancement with
  | compile =>
      refine (ends_of_answers answers_programCompileFor (.performFor (notes_advanceFor _ _ _))
        (unset .programCompileFor (by decide))).imp (fun _ _ done => done) ?_
      exact fun _ _ refused => ⟨refused.1, refused.2 perDevice⟩
  | build =>
      refine (ends_of_answers answers_programBuildFor (.performFor (notes_advanceFor _ _ _))
        (unset .programBuildFor (by decide))).imp (fun _ _ done => done) ?_
      exact fun _ _ refused => ⟨refused.1, refused.2 perDevice⟩

/-! ## What may be chosen -/

/-- A live wrapper stands for a device of a program that has not been built for. -/
def Ready (store : Store) (binary : ProgramBinary) (device : DeviceHandle) : Prop :=
  ∃ native, store.Behind device native ∧ native ∈ binary.devices ∧
    binary.stages.get? native = some .unbuilt

variable {store : Store}

theorem unbuilt_iff (tidy : binary.IsTidy) {device : NativeHandle} :
    (device ∈ binary.devices ∧ binary.stageOf device = .unbuilt) ↔
      device ∈ binary.devices ∧ binary.stages.get? device = some .unbuilt := by
  refine and_congr_right fun member => ?_
  rw [tidy.stage_known member, Option.some.injEq]

/-- Devices that are all ready have native devices behind them that are all unbuilt. -/
theorem exists_unbuilt_iff (tidy : binary.IsTidy) :
    (∃ selected, List.Forall₂ store.Behind devices selected ∧ binary.Unbuilt selected) ↔
      ∀ device ∈ devices, Ready store binary device := by
  constructor
  · rintro ⟨selected, behind, unbuilt⟩
    induction behind with
    | nil => exact fun device member => absurd member List.not_mem_nil
    | cons first rest ih =>
        intro device member
        rcases List.mem_cons.mp member with rfl | member
        · exact ⟨_, first, (unbuilt_iff tidy).mp (unbuilt _ List.mem_cons_self)⟩
        · exact ih (fun other found => unbuilt other (List.mem_cons_of_mem _ found)) device member
  · intro ready
    induction devices with
    | nil => exact ⟨[], .nil, fun device member => absurd member List.not_mem_nil⟩
    | cons device devices ih =>
        obtain ⟨native, behind, isReady⟩ := ready device List.mem_cons_self
        obtain ⟨selected, rest, unbuilt⟩ :=
          ih fun other member => ready other (List.mem_cons_of_mem device member)
        refine ⟨native :: selected, .cons behind rest, ?_⟩
        intro other member
        rcases List.mem_cons.mp member with rfl | member
        · exact (unbuilt_iff tidy).mpr isReady
        · exact unbuilt other member

/-- After an operation for chosen devices, exactly these stand at another stage. -/
theorem programStage?_advancedFor {after : Simulator} {stage : Stage} {selected : List NativeHandle}
    (leads : sim.store.Leads program native binary)
    (equal : after.store = sim.store.reprogrammed native (binary.advancedFor selected stage))
    (other device : NativeHandle) :
    after.programStage? other device =
      if other = native ∧ device ∈ selected then some stage
      else sim.programStage? other device := by
  obtain ⟨-, refs, found⟩ := leads
  rw [programStage?, program?, equal, Store.get?_reprogrammed found]
  by_cases same : native = other
  · subst same
    rw [if_pos rfl, programStage?, program?, found]
    simp only [Option.bind_some, NativeData.program?, true_and]
    exact ProgramBinary.get?_advancedFor binary selected stage device
  · rw [if_neg same, if_neg fun both => same both.1.symm]
    rfl

end Advancement

/-! ## The agreement -/

/-- What holds of compiling or of building, for the whole program and for chosen devices. -/
structure Advancement.Agrees (advancement : Advancement) (sim : Simulator) : Prop where
  /-- The call for the whole program works. -/
  whole_ok : ∀ context program native binary options,
    sim.store.HasWrapper context → sim.store.Leads program native binary →
    ∃ after, advancement.whole context program options sim = .ok () after
  /-- It leaves what the call for the unbuilt devices of the program leaves, in whatever order and
  however often these are listed. -/
  whole_eq_chosen : ∀ context program native binary devices options,
    sim.store.HasWrapper context → sim.store.Leads program native binary →
    (∀ device ∈ devices, Advancement.Ready sim.store binary device) →
    (∀ native ∈ binary.devices, binary.stages.get? native = some .unbuilt →
      ∃ device ∈ devices, sim.store.Behind device native) →
    ∃ whole chosen, advancement.whole context program options sim = .ok () whole ∧
      advancement.chosen program devices options sim = .ok () chosen ∧
      whole.store = chosen.store ∧ whole.lastOptions = chosen.lastOptions
  /-- The call for chosen devices works just where all of them are ready. -/
  chosen_ok_iff : ∀ program native binary devices options,
    sim.store.Leads program native binary →
    ((∃ after, advancement.chosen program devices options sim = .ok () after) ↔
      ∀ device ∈ devices, Advancement.Ready sim.store binary device)
  /-- Where it works, the program moves to the goal for these devices. -/
  chosen_moves : ∀ program native binary devices options after,
    sim.store.Leads program native binary →
    advancement.chosen program devices options sim = .ok () after →
    ∀ wrapper ∈ devices, ∀ device, sim.store.Behind wrapper device →
      after.programStage? native device = some advancement.goal
  /-- Where it works, no other stage of any program changes. -/
  chosen_spares : ∀ program native binary devices options after,
    sim.store.Leads program native binary →
    advancement.chosen program devices options sim = .ok () after →
    ∀ other device, ¬ (other = native ∧ ∃ wrapper ∈ devices, sim.store.Behind wrapper device) →
      after.programStage? other device = sim.programStage? other device
  /-- Where it fails, no stage of any program changes. -/
  chosen_refused : ∀ program devices options e after,
    advancement.chosen program devices options sim = .error e after →
    ∀ other device, after.programStage? other device = sim.programStage? other device

namespace Advancement

variable {advancement : Advancement} {program : ProgramHandle} {devices : List DeviceHandle}
  {native : NativeHandle} {binary : ProgramBinary}

/-- Where the call for chosen devices works, it has taken those behind the wrappers further. -/
theorem advanced_of_chosen (perDevice : sim.config.perDevice = true)
    (unset : ∀ entryPoint ∈ advancement.entryPoints, sim.failures.get? entryPoint = none)
    (leads : sim.store.Leads program native binary) {after : Simulator}
    (done : advancement.chosen program devices options sim = .ok () after) :
    ∃ selected, List.Forall₂ sim.store.Behind devices selected ∧ binary.Unbuilt selected ∧
      after.store = sim.store.reprogrammed native
        (binary.advancedFor selected advancement.goal) ∧ after.lastOptions = options := by
  obtain ⟨⟨native', binary', selected, leads', behind, unbuilt, equal⟩, noted⟩ :=
    (ends_chosen perDevice unset).of_ok done
  obtain ⟨rfl, rfl⟩ := leads.unique leads'
  exact ⟨selected, behind, unbuilt, equal, noted⟩

/-- Where all chosen devices are ready, the call for them works. -/
theorem chosen_of_ready (perDevice : sim.config.perDevice = true)
    (unset : ∀ entryPoint ∈ advancement.entryPoints, sim.failures.get? entryPoint = none)
    (tidy : binary.IsTidy) (leads : sim.store.Leads program native binary)
    (ready : ∀ device ∈ devices, Ready sim.store binary device) :
    ∃ after, advancement.chosen program devices options sim = .ok () after := by
  obtain ⟨selected, behind, unbuilt⟩ := (exists_unbuilt_iff tidy).mpr ready
  cases outcome : advancement.chosen program devices options sim with
  | ok _ after => exact ⟨after, rfl⟩
  | error e after =>
      obtain ⟨-, refuses⟩ := (ends_chosen perDevice unset).of_error outcome
      exact absurd unbuilt (refuses native binary selected leads behind)

theorem agrees_of_wellFormed (formed : sim.store.WellFormed) (clear : sim.store.Unambiguous)
    (perDevice : sim.config.perDevice = true)
    (unset : ∀ entryPoint ∈ advancement.entryPoints, sim.failures.get? entryPoint = none) :
    advancement.Agrees sim := by
  have tidies : ∀ {program native binary}, sim.store.Leads program native binary →
      binary.IsTidy := by
    rintro program native binary ⟨-, refs, found⟩
    exact formed.tidy native _ found binary rfl
  constructor
  case whole_ok =>
    intro context program native binary options live leads
    obtain ⟨_, after, done, -⟩ := (ends_whole unset live leads).exists_ok
    exact ⟨after, done⟩
  case whole_eq_chosen =>
    intro context program native binary devices options live leads ready all
    obtain ⟨_, whole, done, equal, noted⟩ := (ends_whole unset live leads).exists_ok
    obtain ⟨chosen, done'⟩ := chosen_of_ready perDevice unset (tidies leads) leads ready
    obtain ⟨selected, behind, unbuilt, equal', noted'⟩ :=
      advanced_of_chosen perDevice unset leads done'
    obtain ⟨refs, found⟩ := leads.2
    have exactly : ∀ device, device ∈ selected ↔
        device ∈ binary.devices ∧ binary.stages.get? device = some .unbuilt := by
      intro device
      constructor
      · exact fun member => (unbuilt_iff (tidies leads)).mp (unbuilt device member)
      · exact fun known => (mem_of_forall₂_behind behind device).mpr (all device known.1 known.2)
    refine ⟨whole, chosen, done, done', ?_, noted.trans noted'.symm⟩
    rw [equal, equal', ProgramBinary.advancedFor_eq_advanced (tidies leads)
      (clear native binary refs found) exactly]
  case chosen_ok_iff =>
    intro program native binary devices options leads
    constructor
    · rintro ⟨after, done⟩
      obtain ⟨selected, behind, unbuilt, -⟩ := advanced_of_chosen perDevice unset leads done
      exact (exists_unbuilt_iff (tidies leads)).mp ⟨selected, behind, unbuilt⟩
    · exact chosen_of_ready perDevice unset (tidies leads) leads
  case chosen_moves =>
    intro program native binary devices options after leads done wrapper member device isBehind
    obtain ⟨selected, behind, -, equal, -⟩ := advanced_of_chosen perDevice unset leads done
    rw [programStage?_advancedFor leads equal, if_pos]
    exact ⟨rfl, (mem_of_forall₂_behind behind device).mpr ⟨wrapper, member, isBehind⟩⟩
  case chosen_spares =>
    intro program native binary devices options after leads done other device unchosen
    obtain ⟨selected, behind, -, equal, -⟩ := advanced_of_chosen perDevice unset leads done
    rw [programStage?_advancedFor leads equal, if_neg]
    rwa [mem_of_forall₂_behind behind]
  case chosen_refused =>
    intro program devices options e after refused other device
    rw [programStage?, program?, ((ends_chosen perDevice unset).of_error refused).1]
    rfl

end Advancement

/-- In every reachable state of a backend that has the calls for chosen devices, and no failure set,
the calls for the whole program and for chosen devices agree. -/
theorem agrees_replay (config : SimulatorConfig) (perDevice : config.perDevice = true)
    (history : List Operation)
    (unset : ∀ entryPoint,
      (({ config } : Simulator).replay history).failures.get? entryPoint = none)
    (advancement : Advancement) :
    advancement.Agrees (({ config } : Simulator).replay history) := by
  apply Advancement.agrees_of_wellFormed
  · exact wellFormed_replay Store.wellFormed_empty history
  · exact unambiguous_replay Store.wellFormed_empty Store.unambiguous_empty history
  · rw [config_replay]
    exact perDevice
  · exact fun entryPoint _ => unset entryPoint

/-- The history of a wrapped program that lists one of its two devices twice, and has been built as
a library for the other one. -/
def halfBuilt : List Operation :=
  [.caller .createPlatform, .caller (.createDevice ⟨4096⟩), .caller (.createDevice ⟨4096⟩),
    .caller (.createContext [⟨4097⟩, ⟨4098⟩]),
    .caller (.createProgram [⟨4097⟩, ⟨4098⟩, ⟨4097⟩] .unbuilt ["saxpy"]),
    .caller (.setStage ⟨4100⟩ ⟨4098⟩ .library), .call (.contextCreate ⟨4099⟩ [] false),
    .call (.programCreate ⟨4100⟩ ⟨1⟩ false), .call (.programDevices ⟨2⟩)]

/-- Building the half-built program is building it for its first device, however often that one is
chosen; and it is not built for both. -/
theorem agrees_replay_halfBuilt :
    (∃ whole chosen, programBuild ⟨1⟩ ⟨2⟩ (some "-O3") (replay {} halfBuilt) = .ok () whole ∧
      programBuildFor ⟨2⟩ [⟨3⟩, ⟨3⟩] (some "-O3") (replay {} halfBuilt) = .ok () chosen ∧
      whole.store = chosen.store ∧ whole.lastOptions = chosen.lastOptions) ∧
    ¬ ∃ after, programBuildFor ⟨2⟩ [⟨3⟩, ⟨4⟩] none (replay {} halfBuilt) = .ok () after := by
  have unset : ∀ entryPoint, (replay {} halfBuilt).failures.get? entryPoint = none := by
    have none : (replay {} halfBuilt).failures = {} := by decide +kernel
    exact fun entryPoint => by rw [none]; rfl
  have agrees := agrees_replay .cuda rfl halfBuilt unset .build
  have live : (replay {} halfBuilt).store.HasWrapper (⟨1⟩ : ContextHandle) :=
    ⟨⟨.context, ⟨4099⟩, 1, false⟩, by decide +kernel, rfl⟩
  let binary : ProgramBinary :=
    { devices := [⟨4097⟩, ⟨4098⟩, ⟨4097⟩]
      stages := ⟨[(⟨4097⟩, .unbuilt), (⟨4098⟩, .library)]⟩
      kernels := ["saxpy"] }
  have leads : (replay {} halfBuilt).store.Leads ⟨2⟩ ⟨4100⟩ binary :=
    ⟨⟨⟨.program, ⟨4100⟩, 1, false⟩, by decide +kernel, rfl, rfl⟩, 1, by decide +kernel⟩
  have first : (replay {} halfBuilt).store.Behind (⟨3⟩ : DeviceHandle) ⟨4097⟩ :=
    ⟨⟨.device, ⟨4097⟩, 1, false⟩, by decide +kernel, rfl, rfl⟩
  have second : (replay {} halfBuilt).store.Behind (⟨4⟩ : DeviceHandle) ⟨4098⟩ :=
    ⟨⟨.device, ⟨4098⟩, 1, false⟩, by decide +kernel, rfl, rfl⟩
  have ready : Advancement.Ready (replay {} halfBuilt).store binary ⟨3⟩ :=
    ⟨⟨4097⟩, first, by decide, by decide⟩
  constructor
  · refine agrees.whole_eq_chosen ⟨1⟩ ⟨2⟩ ⟨4100⟩ binary [⟨3⟩, ⟨3⟩] (some "-O3") live leads ?_ ?_
    · intro device member
      obtain rfl : device = ⟨3⟩ := by simpa using member
      exact ready
    · intro native member unbuilt
      obtain rfl | rfl : native = ⟨4097⟩ ∨ native = ⟨4098⟩ := by
        simpa [binary, or_comm, or_left_comm] using member
      · exact ⟨⟨3⟩, List.mem_cons_self, first⟩
      · exact absurd unbuilt (by decide)
  · intro done
    have all := (agrees.chosen_ok_iff ⟨2⟩ ⟨4100⟩ binary [⟨3⟩, ⟨4⟩] none leads).mp done
    obtain ⟨native, behind, -, unbuilt⟩ := all ⟨4⟩ (by simp)
    obtain rfl := second.unique behind
    exact absurd unbuilt (by decide)

end ComputeImport.Simulator
