import ComputeImport.Proofs.Import.Exact

/-!
# Imports where only whole programs are built

A backend may lack the entry points for chosen devices.  The call for the whole program then takes
the place of the one that is refused, and does at once what is planned for devices that have not
been gone through yet.  A link is refused because of any device that cannot be linked.  So an import
does one operation at most, and what has been compiled for some of its devices but not for all
cannot be taken to the last state.
-/

namespace ComputeImport

open Simulator

/-! ## What can be taken to a state as a whole -/

/-- Whether what stands at a stage has been compiled, but not linked. -/
def Stage.isCompiled : Stage → Bool
  | object | library => true
  | unbuilt | executable => false

/-- Whether a program can be taken to a state by operations for the whole of it. -/
def ProgramBinary.IsBuildable (binary : ProgramBinary) : BundleState → Prop
  | .input => ∀ device ∈ binary.devices, binary.stageOf device = .unbuilt
  | .object => ∀ device ∈ binary.devices, binary.stageOf device ≠ .executable
  | .executable =>
      (∀ device ∈ binary.devices, (binary.stageOf device).isCompiled = true) ∨
        ∀ device ∈ binary.devices, (binary.stageOf device).isCompiled = false

instance (binary : ProgramBinary) (target : BundleState) : Decidable (binary.IsBuildable target) :=
  match target with
  | .input => inferInstanceAs (Decidable (∀ device ∈ binary.devices, _))
  | .object => inferInstanceAs (Decidable (∀ device ∈ binary.devices, _))
  | .executable =>
      inferInstanceAs (Decidable ((∀ device ∈ binary.devices, _) ∨ ∀ device ∈ binary.devices, _))

/-- Nothing has to be done at a stage, or everything. -/
def Stage.IsFree (stage : Stage) (target : BundleState) : Prop :=
  stage = .unbuilt ∨ stage.plan target = .keep

theorem Stage.isFree_iff {stage : Stage} {target : BundleState} :
    stage.IsFree target ↔
      stage.plan target ≠ .mismatch ∧ (target = .executable → stage.isCompiled = false) := by
  cases stage <;> cases target <;> simp [IsFree, plan, isCompiled]

theorem Stage.plan_eq_link_iff_isCompiled {stage : Stage} :
    stage.plan .executable = .run .link ↔ stage.isCompiled = true := by
  cases stage <;> decide

/-- A program can be taken to a state as a whole if no device is past the state and, on the way to
the last state, not only some of the devices have been compiled. -/
theorem ProgramBinary.isBuildable_iff {binary : ProgramBinary} {target : BundleState} :
    binary.IsBuildable target ↔
      (∀ device ∈ binary.devices, (binary.stageOf device).plan target ≠ .mismatch) ∧
      (target = .executable →
        (∀ device ∈ binary.devices, (binary.stageOf device).isCompiled = true) ∨
        ∀ device ∈ binary.devices, (binary.stageOf device).isCompiled = false) := by
  cases target with
  | input =>
      have same : ∀ stage : Stage, stage = .unbuilt ↔ stage.plan .input ≠ .mismatch := by
        intro stage
        cases stage <;> decide
      simp [IsBuildable, same]
  | object =>
      have same : ∀ stage : Stage, stage ≠ .executable ↔ stage.plan .object ≠ .mismatch := by
        intro stage
        cases stage <;> decide
      simp [IsBuildable, same]
  | executable =>
      have fine : ∀ stage : Stage, stage.plan .executable ≠ .mismatch := by
        intro stage
        cases stage <;> decide
      simp [IsBuildable, fine]

/-- The call for the whole program that does an operation. -/
def Builder.callAll (builder : Builder) (operation : BuildOperation) (program : ProgramHandle) :
    Call :=
  match operation with
  | .compile => .programCompile builder.context.handle program builder.options.compile
  | .build => .programBuild builder.context.handle program builder.options.compile
  | .link => .programLink builder.context.handle [program] builder.options.link

/-! ## One operation -/

section Operation

variable {builder : Builder} {operation : BuildOperation} {target : BundleState}
  {program : ProgramRef} {native nativeDevice : NativeHandle} {binary : ProgramBinary}
  {device : DeviceHandle} {host : Host} {sim : Simulator} {α : Type}

/-- A backend without the entry points for chosen devices refuses them as that. -/
theorem ends_performFor_lacking {call : Call} {entryPoint : String} {body : Native α}
    (lacking : sim.config.perDevice = false)
    (unset : sim.failures.get? call.entryPoint = none) :
    Ends (performFor call entryPoint body) sim (fun _ _ => False)
      (fun e after => e = .unsupportedFeature entryPoint ∧ Recorded call sim after ∧
        after.store = sim.store) := by
  have works : Works
      (do if (← get).config.perDevice then body else throw (.unsupportedFeature entryPoint)) sim
      (fun _ _ => False) (fun e store => e = .unsupportedFeature entryPoint ∧ store = sim.store) := by
    intro before store config
    rw [ends_bind, ends_get, config, lacking]
    exact ⟨.refl before, rfl, store⟩
  apply Ends.imp works.answers
  · exact fun _ _ ended => ended.2.2
  · rintro e after ⟨recorded, ⟨injected, -⟩ | ⟨-, refused, unchanged⟩⟩
    · exact absurd (injected.symm.trans unset) (Option.some_ne_none e)
    · exact ⟨refused, recorded, unchanged⟩

/-- An operation has been tried for one device, and then for the whole program. -/
structure Tried (builder : Builder) (operation : BuildOperation) (program : ProgramHandle)
    (device : DeviceHandle) (before after : Simulator) : Prop where
  did : Did EntryPoint.IsStep before after
  mutations : after.mutations = before.mutations ++
    [builder.callFor operation program device, builder.callAll operation program]

theorem Tried.of_recorded {program : ProgramHandle} {before middle after : Simulator}
    (first : Recorded (builder.callFor operation program device) before middle)
    (second : Recorded (builder.callAll operation program) middle after) :
    Tried builder operation program device before after := by
  have mutates : (builder.callFor operation program device).entryPoint.mutatesProgram = true := by
    cases operation <;> rfl
  have mutates' : (builder.callAll operation program).entryPoint.mutatesProgram = true := by
    cases operation <;> rfl
  constructor
  case did => exact Did.trans (first.did (Or.inr mutates)) (second.did (Or.inr mutates'))
  case mutations =>
    rw [second.mutations mutates', first.mutations mutates, List.append_assoc]
    rfl

/-- Where the entry points for chosen devices are lacking, an operation ends as the call for the
whole program does. -/
theorem Ends.wholePrograms (operation : BuildOperation) (program : ProgramHandle)
    {entryPoint : String} {body whole : Native α}
    (direct : builder.provider.table.delegation = none)
    (lacking : (builder.simulator host).config.perDevice = false)
    (unset : ∀ entryPoint, (builder.simulator host).failures.get? entryPoint = none)
    {ok : α → Store → Prop} {failed : NativeError → Store → Prop}
    (answers : ∀ sim : Simulator, sim.store = (builder.simulator host).store →
      Answers (builder.callAll operation program) whole sim ok failed) :
    Ends (ComputeImport.withFallback operation device
        (builder.provider.table.callFor entryPoint
          (performFor (builder.callFor operation program device) entryPoint body))
        (builder.provider.table.call whole)) host
      (fun a after => ok a (builder.simulator after).store ∧
        Tried builder operation program device (builder.simulator host) (builder.simulator after))
      (fun e after => (∃ cause, e = .buildFailed operation device cause ∧
          failed cause (builder.simulator after).store) ∧
        Tried builder operation program device (builder.simulator host)
          (builder.simulator after)) := by
  have first : Ends (builder.provider.table.callFor entryPoint
        (performFor (builder.callFor operation program device) entryPoint body)) host
      (fun _ _ => False)
      (fun e after => e = .unsupportedFeature entryPoint ∧
        Recorded (builder.callFor operation program device) (builder.simulator host)
          (builder.simulator after) ∧
        (builder.simulator after).store = (builder.simulator host).store) :=
    Ends.callFor (ends_performFor_lacking lacking (unset _)) fun delegates =>
      absurd direct delegates
  unfold ComputeImport.withFallback
  rw [ends_bind, ends_attempt]
  apply first.imp
  · exact fun _ _ => False.elim
  rintro _ middle ⟨rfl, recorded, unchanged⟩
  have second : Ends (builder.provider.table.call whole)
      (middle.notify (.fellBack operation device))
      (fun a after => ok a (builder.simulator after).store ∧
        Recorded (builder.callAll operation program) (builder.simulator middle)
          (builder.simulator after))
      (fun cause after => failed cause (builder.simulator after).store ∧
        Recorded (builder.callAll operation program) (builder.simulator middle)
          (builder.simulator after)) := by
    have unset' : (builder.simulator middle).failures.get?
        (builder.callAll operation program).entryPoint = none := by
      rw [recorded.failures, Ledger.get?_erase, unset, ite_self]
    have ended : Ends whole (builder.simulator (middle.notify (.fellBack operation device)))
        (fun a after => ok a after.store ∧
          Recorded (builder.callAll operation program) (builder.simulator middle) after)
        (fun cause after => failed cause after.store ∧
          Recorded (builder.callAll operation program) (builder.simulator middle) after) := by
      apply Ends.imp (answers _ unchanged)
      · exact fun _ _ ended => ⟨ended.2.2, ended.1⟩
      · rintro cause after ⟨recorded', ⟨injected, -⟩ | ⟨-, fails⟩⟩
        · exact absurd (injected.symm.trans unset') (Option.some_ne_none cause)
        · exact ⟨fails, recorded'⟩
    exact ended.call
  have unsupported : (NativeError.unsupportedFeature entryPoint).isUnsupported = true := rfl
  dsimp only
  rw [if_pos unsupported, ends_bind, ends_notify, ends_bind, ends_attempt]
  apply second.imp
  · exact fun _ _ ended => ⟨ended.1, .of_recorded recorded ended.2⟩
  · exact fun cause _ ended => ⟨⟨cause, rfl, ended.1⟩, .of_recorded recorded ended.2⟩

/-- Asking for a stage first makes no difference. -/
theorem Tried.of_asked {program : ProgramHandle} {before middle after : Simulator}
    (asked : Recorded (.programBinaryType program device) before middle)
    (tried : Tried builder operation program device middle after) :
    Tried builder operation program device before after := by
  have did : Did (fun entryPoint => entryPoint = .programBinaryType) before middle := asked.did rfl
  constructor
  case did => exact (asked.did (Or.inl rfl)).trans tried.did
  case mutations =>
    rw [tried.mutations, did.mutations]
    rintro _ rfl
    rfl

end Operation

/-! ## One device -/

section Device

variable {builder : Builder} {target : BundleState} {program : ProgramRef}
  {native nativeDevice : NativeHandle} {binary : ProgramBinary} {device : DeviceHandle}
  {host : Host} {sim : Simulator} {context : ContextHandle}

theorem Simulator.Advances.eq_of_leads {store after : Store} {program : ProgramHandle}
    {stage : Stage} (leads : store.Leads program native binary)
    (advances : Advances store program stage after) :
    after = store.reprogrammed native (binary.advanced stage) := by
  obtain ⟨native', binary', leads', rfl⟩ := advances
  obtain ⟨rfl, rfl⟩ := leads.unique leads'
  rfl

theorem answers_programCompile_live {program : ProgramHandle} {options : Option String}
    {store : Store} (same : sim.store = store) (live : store.HasWrapper context)
    (leads : store.Leads program native binary) :
    Answers (.programCompile context program options) (programCompile context program options) sim
      (fun _ after => after =
        store.reprogrammed native (binary.advanced BuildOperation.compile.goal))
      (fun _ _ => False) := by
  subst same
  apply answers_programCompile.imp
  · exact fun _ _ advances => advances.eq_of_leads leads
  · exact fun _ _ failed => failed.2 live native binary leads

theorem answers_programBuild_live {program : ProgramHandle} {options : Option String}
    {store : Store} (same : sim.store = store) (live : store.HasWrapper context)
    (leads : store.Leads program native binary) :
    Answers (.programBuild context program options) (programBuild context program options) sim
      (fun _ after => after =
        store.reprogrammed native (binary.advanced BuildOperation.build.goal))
      (fun _ _ => False) := by
  subst same
  apply answers_programBuild.imp
  · exact fun _ _ advances => advances.eq_of_leads leads
  · exact fun _ _ failed => failed.2 live native binary leads

/-- A link for the whole program succeeds exactly where every device can be linked. -/
theorem answers_programLink_live {program : ProgramHandle} {options : Option String}
    {store : Store} (same : sim.store = store) (live : store.HasWrapper context)
    (leads : store.Leads program native binary) :
    Answers (.programLink context [program] options) (programLink context [program] options) sim
      (fun linked after => (binary.Linkable fun _ => true) ∧ linked = ⟨store.nextWrapper⟩ ∧
        ∃ output, binary.Linked (fun _ => true) output ∧ after = store.joined output)
      (fun e after => (¬ binary.Linkable fun _ => true) ∧ after = store ∧
        ∃ log, e = .linkFailure log) := by
  subst same
  by_cases linkable : binary.Linkable fun _ => true
  · apply answers_programLink_singleton.imp
    · rintro linked store ⟨output, ⟨native', input, leads', isLinked⟩, isNext, joined⟩
      obtain ⟨-, rfl⟩ := leads.unique leads'
      exact ⟨linkable, isNext, output, isLinked, joined⟩
    · intro _ _ failed
      exact absurd linkable (failed.2 live (List.cons_ne_nil program []) native binary leads)
  · apply (answers_programLink_refused live leads linkable).imp
    · exact fun _ _ => False.elim
    · exact fun _ _ failed => ⟨linkable, failed⟩

/-- A program on a backend that lacks the entry points for chosen devices, where nothing else stands
in the way. -/
structure Wholly (builder : Builder) (program : ProgramRef) (native : NativeHandle)
    (binary : ProgramBinary) (sim : Simulator) : Prop where
  lacking : sim.config.perDevice = false
  unhindered : sim.Unhindered builder.context.handle
  leads : sim.store.Leads program.handle native binary

/-- What dealing with one device comes to: the program that takes the place of the old one, if
there is one, and the backend. -/
inductive Dealt (builder : Builder) (target : BundleState) (program : ProgramRef)
    (native : NativeHandle) (binary : ProgramBinary) (device : DeviceHandle)
    (nativeDevice : NativeHandle) (before : Simulator) : Option ProgramRef → Simulator → Prop
  | kept {after : Simulator} (planned : (binary.stageOf nativeDevice).plan target = .keep)
      (asked : Recorded (.programBinaryType program.handle device) before after)
      (store : after.store = before.store) :
      Dealt builder target program native binary device nativeDevice before none after
  | advanced {after : Simulator} {operation : BuildOperation} (other : operation ≠ .link)
      (planned : (binary.stageOf nativeDevice).plan target = .run operation)
      (tried : Tried builder operation program.handle device before after)
      (store : after.store =
        before.store.reprogrammed native (binary.advanced operation.goal)) :
      Dealt builder target program native binary device nativeDevice before none after
  | joined {after : Simulator} {output : ProgramBinary}
      (planned : (binary.stageOf nativeDevice).plan target = .run .link)
      (linkable : binary.Linkable fun _ => true)
      (linked : binary.Linked (fun _ => true) output)
      (tried : Tried builder .link program.handle device before after)
      (store : after.store = before.store.joined output) :
      Dealt builder target program native binary device nativeDevice before
        (some ⟨⟨before.store.nextWrapper⟩, builder.provider⟩) after

/-- Why a device is not dealt with: the program is past the state for it, or is to be linked for it
and cannot be for all devices. -/
inductive Refused (target : BundleState) (binary : ProgramBinary) (device : DeviceHandle)
    (nativeDevice : NativeHandle) : ImportError → Prop
  | past (planned : (binary.stageOf nativeDevice).plan target = .mismatch) :
      Refused target binary device nativeDevice
        (.stateMismatch (binary.stageOf nativeDevice) target)
  | unlinkable {log : String} (planned : (binary.stageOf nativeDevice).plan target = .run .link)
      (stuck : ¬ binary.Linkable fun _ => true) :
      Refused target binary device nativeDevice (.buildFailed .link device (.linkFailure log))

theorem ends_advanceDeviceWholly (direct : builder.provider.table.delegation = none)
    (wholly : Wholly builder program native binary (builder.simulator host))
    (known : (builder.simulator host).store.deviceWrappers.get? nativeDevice = some device)
    (member : nativeDevice ∈ binary.devices) :
    Ends (builder.advanceDevice target program device) host
      (fun next after => Dealt builder target program native binary device nativeDevice
        (builder.simulator host) next (builder.simulator after))
      (fun e after => Refused target binary device nativeDevice e ∧
        (builder.simulator after).store = (builder.simulator host).store) := by
  have standing : Standing (builder.simulator host).store program.handle native binary device
      nativeDevice :=
    ⟨wholly.unhindered.formed, wholly.leads, known, member⟩
  refine ((ends_discover standing).imp (fun _ _ found => found) ?_).bind ?_
  · rintro e after ⟨-, injected, -⟩
    exact absurd (wholly.unhindered.unset _) injected
  rintro stage middle ⟨rfl, unchanged, asked⟩
  rw [ends_bind, ends_notify]
  generalize noted : middle.notify _ = ready
  have same : builder.simulator ready = builder.simulator middle := by
    rw [← noted]
    rfl
  rw [← same] at unchanged asked
  have lacking : (builder.simulator ready).config.perDevice = false := by
    rw [asked.config]
    exact wholly.lacking
  have unset : ∀ entryPoint, (builder.simulator ready).failures.get? entryPoint = none := by
    intro entryPoint
    rw [asked.failures, Ledger.get?_erase, wholly.unhindered.unset, ite_self]
  have live : (builder.simulator ready).store.HasWrapper builder.context.handle := by
    rw [unchanged]
    exact wholly.unhindered.context
  have leads : (builder.simulator ready).store.Leads program.handle native binary := by
    rw [unchanged]
    exact wholly.leads
  cases planned : (binary.stageOf nativeDevice).plan target with
  | keep => exact .kept planned asked unchanged
  | mismatch => exact ⟨.past planned, unchanged⟩
  | run operation =>
      cases operation with
      | compile =>
          have compiles : Ends (builder.compile program.handle device) ready _ _ :=
            Ends.wholePrograms .compile program.handle direct lacking unset
              fun _ equal => answers_programCompile_live equal live leads
          refine (compiles.imp (fun _ _ ended => ended) ?_).bind ?_
          · exact fun _ _ ⟨⟨_, _, never⟩, _⟩ => never.elim
          rintro _ last ⟨advanced, tried⟩
          rw [unchanged] at advanced
          exact .advanced (by decide) planned (tried.of_asked asked) advanced
      | build =>
          have builds : Ends (builder.build program.handle device) ready _ _ :=
            Ends.wholePrograms .build program.handle direct lacking unset
              fun _ equal => answers_programBuild_live equal live leads
          refine (builds.imp (fun _ _ ended => ended) ?_).bind ?_
          · exact fun _ _ ⟨⟨_, _, never⟩, _⟩ => never.elim
          rintro _ last ⟨advanced, tried⟩
          rw [unchanged] at advanced
          exact .advanced (by decide) planned (tried.of_asked asked) advanced
      | link =>
          have links : Ends (builder.link program.handle device) ready _ _ :=
            Ends.wholePrograms .link program.handle direct lacking unset
              fun _ equal => answers_programLink_live equal live leads
          rw [unchanged] at links
          refine (links.imp (fun _ _ ended => ended) ?_).bind ?_
          · rintro _ last ⟨⟨_, rfl, stuck, still, log, rfl⟩, -⟩
            exact ⟨.unlinkable planned stuck, still⟩
          rintro _ last ⟨⟨linkable, rfl, output, linked, joined⟩, tried⟩
          rw [ends_bind, ends_notify]
          exact .joined planned linkable linked (tried.of_asked asked) joined

end Device

/-! ## What is left to do after an operation -/

section Advanced

variable {target : BundleState} {operation : BuildOperation} {binary : ProgramBinary}
  {device other : NativeHandle} {handle : DeviceHandle} {e : ImportError}

/-- What was unbuilt is where it should be after an operation for the whole program, and everything
else is where it was. -/
theorem ProgramBinary.plan_advanced (tidy : binary.IsTidy) (member : other ∈ binary.devices)
    (planned : (binary.stageOf device).plan target = .run operation) :
    ((binary.advanced operation.goal).stageOf other).plan target = .keep ∨
      binary.stageOf other ≠ .unbuilt ∧
        (binary.advanced operation.goal).stageOf other = binary.stageOf other := by
  rw [stageOf_advanced tidy member]
  by_cases unbuilt : binary.stageOf other = .unbuilt
  · rw [if_pos unbuilt]
    exact Or.inl (Stage.plan_goal planned)
  · rw [if_neg unbuilt]
    exact Or.inr ⟨unbuilt, rfl⟩

theorem ProgramBinary.isFree_of_advanced (tidy : binary.IsTidy) (member : other ∈ binary.devices)
    (kept : ((binary.advanced operation.goal).stageOf other).plan target = .keep) :
    (binary.stageOf other).IsFree target := by
  rw [stageOf_advanced tidy member] at kept
  by_cases unbuilt : binary.stageOf other = .unbuilt
  · exact Or.inl unbuilt
  · rw [if_neg unbuilt] at kept
    exact Or.inr kept

/-- A program with a device that was unbuilt cannot be linked as a whole, neither before nor after
an operation that takes it to its state. -/
theorem ProgramBinary.not_linkable (member : device ∈ binary.devices)
    (planned : (binary.stageOf device).plan target = .run operation) (isOther : operation ≠ .link) :
    ¬ binary.Linkable fun _ => true := by
  intro linkable
  have planned' := linkable device member rfl
  rw [Stage.eq_unbuilt planned isOther] at planned'
  contradiction

/-- What is refused after an operation for the whole program would have been refused at once. -/
theorem Refused.of_advanced (tidy : binary.IsTidy) (member : device ∈ binary.devices)
    (planned : (binary.stageOf device).plan target = .run operation) (isOther : operation ≠ .link)
    (member' : other ∈ binary.devices)
    (refused : Refused target (binary.advanced operation.goal) handle other e) :
    Refused target binary handle other e := by
  have still := ProgramBinary.plan_advanced tidy member' planned
  cases refused with
  | past planned' =>
      rw [planned'] at still
      obtain ⟨-, same⟩ := still.resolve_left (by decide)
      rw [same] at planned' ⊢
      exact .past planned'
  | unlinkable planned' =>
      rw [planned'] at still
      obtain ⟨-, same⟩ := still.resolve_left (by decide)
      rw [same] at planned'
      exact .unlinkable planned' (ProgramBinary.not_linkable member planned isOther)

/-- After an operation for the whole program, nothing more is done to it. -/
theorem not_dealt_advanced {builder : Builder} {program : ProgramRef} {native : NativeHandle}
    {before after : Simulator} {next : Option ProgramRef} (tidy : binary.IsTidy)
    (member : device ∈ binary.devices)
    (planned : (binary.stageOf device).plan target = .run operation) (isOther : operation ≠ .link)
    (member' : other ∈ binary.devices)
    (unkept : ((binary.advanced operation.goal).stageOf other).plan target ≠ .keep) :
    ¬ Dealt builder target program native (binary.advanced operation.goal) handle other before next
      after := by
  obtain ⟨built, same⟩ := (ProgramBinary.plan_advanced tidy member' planned).resolve_left unkept
  intro dealt
  cases dealt with
  | kept planned' => exact unkept planned'
  | advanced isOther' planned' =>
      rw [same] at planned'
      exact built (Stage.eq_unbuilt planned' isOther')
  | joined planned' linkable =>
      have unbuilt := Stage.eq_unbuilt planned isOther
      have planned'' := linkable device member rfl
      rw [ProgramBinary.stageOf_advanced tidy member, if_pos unbuilt] at planned''
      have kept := Stage.plan_goal planned
      rw [Stage.executable_of_link planned', planned''] at kept
      contradiction

/-- Where a program stands that was gone through up to a device: if one of the devices before it was
unbuilt, all unbuilt devices have been taken further, and the other devices are where they were. -/
structure ProgramBinary.TakenAfter (binary : ProgramBinary) (target : BundleState)
    (first : List NativeHandle) (now : ProgramBinary) : Prop where
  devices : now.devices = binary.devices
  kernels : now.kernels = binary.kernels
  stages : ∀ device ∈ binary.devices, now.stageOf device =
    if binary.stageOf device = .unbuilt ∧ ∃ earlier ∈ first, binary.stageOf earlier = .unbuilt then
      Stage.unbuilt.reached target
    else binary.stageOf device

theorem ProgramBinary.TakenAfter.of_kept {first : List NativeHandle}
    (kept : ∀ earlier ∈ first, (binary.stageOf earlier).plan target = .keep) :
    binary.TakenAfter target first binary := by
  refine ⟨rfl, rfl, ?_⟩
  intro device _
  split
  · rename_i early
    obtain ⟨unbuilt, earlier, found, unbuilt'⟩ := early
    have planned := kept earlier found
    rw [unbuilt'] at planned
    rw [unbuilt, Stage.reached_of_keep planned]
  · rfl

theorem ProgramBinary.TakenAfter.of_advanced {first : List NativeHandle} (tidy : binary.IsTidy)
    (isEarly : device ∈ first) (planned : (binary.stageOf device).plan target = .run operation)
    (isOther : operation ≠ .link) :
    binary.TakenAfter target first (binary.advanced operation.goal) := by
  refine ⟨rfl, rfl, ?_⟩
  intro other member
  have unbuilt := Stage.eq_unbuilt planned isOther
  have early : ∃ earlier ∈ first, binary.stageOf earlier = .unbuilt := ⟨device, isEarly, unbuilt⟩
  rw [unbuilt] at planned
  rw [stageOf_advanced tidy member, Stage.reached_of_run planned]
  simp only [early, and_true]

end Advanced

/-! ## All devices -/

section Advance

variable {builder : Builder} {target : BundleState} {program : ProgramRef}
  {native : NativeHandle} {binary : ProgramBinary} {host : Host} {before middle after : Simulator}

/-- Stages have been asked for, and nothing else has happened. -/
structure Asked (before after : Simulator) : Prop where
  did : Did (fun entryPoint => entryPoint = .programBinaryType) before after
  store : after.store = before.store

namespace Asked

theorem refl (sim : Simulator) : Asked sim sim :=
  ⟨.refl sim, rfl⟩

theorem trans (first : Asked before middle) (second : Asked middle after) : Asked before after :=
  ⟨first.did.trans second.did, second.store.trans first.store⟩

theorem quiet (asked : Asked before after) : before.store.Quiet after.store := by
  rw [asked.store]
  exact .refl _

theorem mutations (asked : Asked before after) : after.mutations = before.mutations :=
  asked.did.mutations (by rintro _ rfl; rfl)

theorem wholly (asked : Asked before after) (wholly : Wholly builder program native binary before) :
    Wholly builder program native binary after := by
  constructor
  case lacking =>
    rw [asked.did.config]
    exact wholly.lacking
  case unhindered => exact asked.did.unhindered wholly.unhindered asked.quiet.grows
  case leads =>
    rw [asked.store]
    exact wholly.leads

end Asked

/-- Devices that need nothing are passed over, up to the first one that does. -/
theorem ends_advance_passing {rest : List NativeHandle} {handles : List DeviceHandle}
    {superseded : List ProgramRef} {ok : Built → Host → Prop} {failed : ImportError → Host → Prop}
    (direct : builder.provider.table.delegation = none)
    (wholly : Wholly builder program native binary (builder.simulator host))
    (lists : (builder.simulator host).store.Lists rest handles)
    (members : ∀ device ∈ rest, device ∈ binary.devices)
    (finished : ∀ last : Host, Asked (builder.simulator host) (builder.simulator last) →
      (∀ device ∈ rest, (binary.stageOf device).plan target = .keep) →
      ok ⟨program, superseded⟩ last)
    (reached : ∀ (here : Host) first device others handle handles',
      Asked (builder.simulator host) (builder.simulator here) →
      rest = first ++ device :: others →
      (∀ earlier ∈ first, (binary.stageOf earlier).plan target = .keep) →
      (binary.stageOf device).plan target ≠ .keep →
      (builder.simulator host).store.deviceWrappers.get? device = some handle →
      (builder.simulator host).store.Lists others handles' →
      Ends (builder.advance target program superseded (handle :: handles')) here ok failed) :
    Ends (builder.advance target program superseded handles) host ok failed := by
  induction rest generalizing host handles with
  | nil =>
      cases lists with
      | nil => exact finished host (.refl _) fun device member => absurd member List.not_mem_nil
  | cons nativeDevice rest ih =>
      cases lists with
      | @cons _ device _ handles known lists =>
          by_cases planned : (binary.stageOf nativeDevice).plan target = .keep
          · have step : Ends (builder.advanceDevice target program device) host _ _ :=
              ends_advanceDeviceWholly direct wholly known (members nativeDevice List.mem_cons_self)
            refine Ends.bind (ends_orRelease.mpr (step.imp (fun _ _ ended => ended) ?_)) ?_
            · rintro e after ⟨refused, -⟩
              cases refused with
              | past planned' => simp [planned] at planned'
              | unlinkable planned' => simp [planned] at planned'
            rintro next middle dealt
            cases dealt with
            | advanced _ planned' => simp [planned] at planned'
            | joined planned' => simp [planned] at planned'
            | kept _ recorded store =>
                have asked : Asked (builder.simulator host) (builder.simulator middle) :=
                  ⟨recorded.did rfl, store⟩
                rw [← store] at lists
                apply ih (asked.wholly wholly) lists
                · exact fun other member => members other (List.mem_cons_of_mem _ member)
                · intro last asked' kept
                  refine finished last (asked.trans asked') ?_
                  exact List.forall_mem_cons.mpr ⟨planned, kept⟩
                · intro here first other others handle handles' asked' split kept unkept known' lists'
                  rw [store] at known' lists'
                  refine reached here (nativeDevice :: first) other others handle handles'
                    (asked.trans asked') ?_ (List.forall_mem_cons.mpr ⟨planned, kept⟩) unkept known'
                    lists'
                  rw [split]
                  rfl
          · exact reached host [] nativeDevice rest device handles (.refl _) rfl
              (fun earlier member => absurd member List.not_mem_nil) planned known lists

/-- One operation has been done, for the first device that needs something: it has been tried for
that device, and then done for the whole program. -/
def DoneOnce (builder : Builder) (target : BundleState) (binary : ProgramBinary)
    (program : ProgramHandle) (operation : BuildOperation) (before after : Simulator) : Prop :=
  ∃ first device others handle, binary.devices = first ++ device :: others ∧
    (∀ earlier ∈ first, (binary.stageOf earlier).plan target = .keep) ∧
    (binary.stageOf device).plan target = .run operation ∧
    after.store.deviceWrappers.get? device = some handle ∧
    after.mutations = before.mutations ++
      [builder.callFor operation program handle, builder.callAll operation program]

theorem DoneOnce.quiet {operation : BuildOperation} {handle : ProgramHandle}
    (done : DoneOnce builder target binary handle operation before middle)
    (quiet : middle.store.Quiet after.store)
    (unmutated : after.mutations = middle.mutations) :
    DoneOnce builder target binary handle operation before after := by
  obtain ⟨first, device, others, deviceHandle, split, kept, planned, known, mutations⟩ := done
  exact ⟨first, device, others, deviceHandle, split, kept, planned,
    quiet.grows.get?_deviceWrappers known, unmutated.trans mutations⟩

/-- An operation that has been done leaves a program of which whichever devices are left can only be
kept or refused. -/
theorem Tried.wholly {operation : BuildOperation} {handle : DeviceHandle} {next : ProgramRef}
    {native' : NativeHandle} {new : ProgramBinary}
    (tried : Tried builder operation program.handle handle before after)
    (wholly : Wholly builder program native binary before)
    (grows : Store.Grows (fun kind => kind = .program) before.store after.store)
    (leads : after.store.Leads next.handle native' new) :
    Wholly builder next native' new after := by
  refine ⟨?_, tried.did.unhindered wholly.unhindered grows, leads⟩
  rw [tried.did.config]
  exact wholly.lacking

/-- An operation that has been done for the first device that needs one has been done once. -/
theorem Tried.doneOnce {operation : BuildOperation} {handle : DeviceHandle}
    {first others : List NativeHandle} {device : NativeHandle}
    (tried : Tried builder operation program.handle handle middle after)
    (asked : Asked before middle) (split : binary.devices = first ++ device :: others)
    (kept : ∀ earlier ∈ first, (binary.stageOf earlier).plan target = .keep)
    (planned : (binary.stageOf device).plan target = .run operation)
    (known : middle.store.deviceWrappers.get? device = some handle)
    (grows : Store.Grows (fun kind => kind = .program) middle.store after.store) :
    DoneOnce builder target binary program.handle operation before after := by
  refine ⟨first, device, others, handle, split, kept, planned, grows.get?_deviceWrappers known, ?_⟩
  rw [tried.mutations, asked.mutations]

/-- The devices up to one that nothing has been built for are free if those after it are. -/
theorem isFree_of_kept {first rest : List NativeHandle} {device : NativeHandle}
    (kept : ∀ earlier ∈ first, (binary.stageOf earlier).plan target = .keep)
    (unbuilt : binary.stageOf device = .unbuilt)
    (free : ∀ other ∈ rest, (binary.stageOf other).IsFree target) :
    ∀ other ∈ first ++ device :: rest, (binary.stageOf other).IsFree target := by
  intro other found
  rcases List.mem_append.mp found with found | found
  · exact Or.inr (kept other found)
  · rcases List.mem_cons.mp found with rfl | found
    · exact Or.inl unbuilt
    · exact free other found

/-- All devices have been gone through, with one operation at most. -/
inductive CompletesWholly (builder : Builder) (target : BundleState) (program : ProgramRef)
    (binary : ProgramBinary) (before : Simulator) : Built → Simulator → Prop
  | kept {after : Simulator}
      (all : ∀ device ∈ binary.devices, (binary.stageOf device).plan target = .keep)
      (mutations : after.mutations = before.mutations) :
      CompletesWholly builder target program binary before ⟨program, []⟩ after
  | advanced {after : Simulator} {operation : BuildOperation} (other : operation ≠ .link)
      (free : ∀ device ∈ binary.devices, (binary.stageOf device).IsFree target)
      (done : DoneOnce builder target binary program.handle operation before after) :
      CompletesWholly builder target program binary before ⟨program, []⟩ after
  | joined {after : Simulator} {linked : ProgramRef} (linkable : binary.Linkable fun _ => true)
      (done : DoneOnce builder target binary program.handle .link before after) :
      CompletesWholly builder target program binary before ⟨linked, [program]⟩ after

/-- A device is refused, and the reference to the program has been released then. -/
def StopsWholly (target : BundleState) (program : ProgramRef) (native : NativeHandle)
    (binary : ProgramBinary) (builder : Builder) (before : Simulator) (e : ImportError)
    (after : Host) : Prop :=
  ∃ first device others handle idle now, binary.devices = first ++ device :: others ∧
    (∀ earlier ∈ first, (binary.stageOf earlier).IsFree target) ∧
    Refused target binary handle device e ∧
    (builder.simulator idle).store.deviceWrappers.get? device = some handle ∧
    Store.Grows (fun kind => kind = .program) before.store (builder.simulator idle).store ∧
    (builder.simulator idle).store.Leads program.handle native now ∧
    binary.TakenAfter target first now ∧
    after = releasePrograms [program] idle

/-- After a link for the whole program nothing is left to do. -/
theorem ends_advance_linked {output : ProgramBinary} {devices : List NativeHandle}
    {handles : List DeviceHandle} {superseded : List ProgramRef}
    (direct : builder.provider.table.delegation = none)
    (linked : binary.Linked (fun _ => true) output) (last : target = .executable)
    (wholly : Wholly builder program native output (builder.simulator host))
    (lists : (builder.simulator host).store.Lists devices handles)
    (members : ∀ device ∈ devices, device ∈ binary.devices) :
    Ends (builder.advance target program superseded handles) host
      (fun built after => built = ⟨program, superseded⟩ ∧
        Asked (builder.simulator host) (builder.simulator after))
      (fun _ _ => False) := by
  have settled : ∀ device ∈ devices, (output.stageOf device).plan target = .keep := by
    intro device found
    rw [linked.stageOf (members device found), if_pos rfl, last]
    rfl
  apply ends_advance_passing direct wholly lists
  · exact fun device found => (linked.devices device).mpr (members device found)
  · exact fun _ asked _ => ⟨rfl, asked⟩
  · intro _ first device others _ _ _ split _ unkept
    refine absurd (settled device ?_) unkept
    rw [split]
    exact List.mem_append_right first List.mem_cons_self

/-- After a compile or a build of the whole program the devices that are left are passed over, up to
the first one that is refused. -/
theorem ends_advance_advanced {operation : BuildOperation} {device : NativeHandle}
    {devices : List NativeHandle} {handles : List DeviceHandle}
    (direct : builder.provider.table.delegation = none) (tidy : binary.IsTidy)
    (member : device ∈ binary.devices)
    (planned : (binary.stageOf device).plan target = .run operation) (isOther : operation ≠ .link)
    (wholly : Wholly builder program native (binary.advanced operation.goal)
      (builder.simulator host))
    (lists : (builder.simulator host).store.Lists devices handles)
    (members : ∀ device ∈ devices, device ∈ binary.devices) :
    Ends (builder.advance target program [] handles) host
      (fun built after => built = ⟨program, []⟩ ∧
        Asked (builder.simulator host) (builder.simulator after) ∧
        ∀ other ∈ devices, (binary.stageOf other).IsFree target)
      (fun e after => ∃ first other others handle idle, devices = first ++ other :: others ∧
        (∀ earlier ∈ first, (binary.stageOf earlier).IsFree target) ∧
        Refused target binary handle other e ∧
        (builder.simulator host).store.deviceWrappers.get? other = some handle ∧
        (builder.simulator idle).store = (builder.simulator host).store ∧
        after = releasePrograms [program] idle) := by
  have free : ∀ others : List NativeHandle, (∀ other ∈ others, other ∈ devices) →
      (∀ other ∈ others,
        ((binary.advanced operation.goal).stageOf other).plan target = .keep) →
      ∀ other ∈ others, (binary.stageOf other).IsFree target := by
    intro others found kept other isOne
    exact ProgramBinary.isFree_of_advanced tidy (members other (found other isOne))
      (kept other isOne)
  apply ends_advance_passing direct wholly lists members
  · exact fun _ asked kept => ⟨rfl, asked, free devices (fun _ found => found) kept⟩
  intro here first other others handle _ asked split kept unkept known _
  have found : other ∈ devices := by
    rw [split]
    exact List.mem_append_right first List.mem_cons_self
  have early : ∀ earlier ∈ first, earlier ∈ devices := by
    rw [split]
    exact fun earlier found => List.mem_append_left _ found
  have known' := known
  rw [← asked.store] at known'
  have step : Ends (builder.advanceDevice target program handle) here _ _ :=
    ends_advanceDeviceWholly direct (asked.wholly wholly) known' (members other found)
  refine Ends.bind (ends_orRelease.mpr (step.imp (fun _ _ ended => ended) ?_)) ?_
  · rintro e idle ⟨refused, store⟩
    exact ⟨first, other, others, handle, idle, split, free first early kept,
      refused.of_advanced tidy member planned isOther (members other found), known,
      store.trans asked.store, rfl⟩
  · intro next last dealt
    exact absurd dealt
      (not_dealt_advanced tidy member planned isOther (members other found) unkept)

/-- All devices are gone through, with one operation at most, unless one is refused. -/
theorem ends_advanceWholly {handles : List DeviceHandle}
    (direct : builder.provider.table.delegation = none)
    (wholly : Wholly builder program native binary (builder.simulator host))
    (lists : (builder.simulator host).store.Lists binary.devices handles) :
    Ends (builder.advance target program [] handles) host
      (fun built after =>
        Store.Grows (fun kind => kind = .program) (builder.simulator host).store
          (builder.simulator after).store ∧
        (builder.simulator after).failures.get? .devicePlatform = none ∧
        CompletesWholly builder target program binary (builder.simulator host) built
          (builder.simulator after))
      (StopsWholly target program native binary builder (builder.simulator host)) := by
  have tidy : binary.IsTidy := wholly.leads.isTidy wholly.unhindered.formed
  apply ends_advance_passing direct wholly lists (fun _ member => member)
  · intro last asked all
    refine ⟨asked.quiet.grows.mono fun _ => False.elim,
      (asked.wholly wholly).unhindered.unset _, .kept all asked.mutations⟩
  intro here first device others handle handles' asked split kept unkept known lists'
  replace wholly := asked.wholly wholly
  have member : device ∈ binary.devices := by
    rw [split]
    exact List.mem_append_right first List.mem_cons_self
  have members : ∀ other ∈ others, other ∈ binary.devices := by
    intro other found
    rw [split]
    exact List.mem_append_right first (List.mem_cons_of_mem device found)
  rw [← asked.store] at known lists'
  have step : Ends (builder.advanceDevice target program handle) here _ _ :=
    ends_advanceDeviceWholly direct wholly known member
  refine Ends.bind (ends_orRelease.mpr (step.imp (fun _ _ ended => ended) ?_)) ?_
  · rintro e idle ⟨refused, store⟩
    refine ⟨first, device, others, handle, idle, binary, split,
      fun earlier found => Or.inr (kept earlier found), refused, ?_, ?_, ?_, .of_kept kept, rfl⟩
    · rw [store]
      exact known
    · rw [store, asked.store]
      exact .refl _
    · rw [store]
      exact wholly.leads
  rintro next middle dealt
  cases dealt with
  | kept planned => exact absurd planned unkept
  | @joined _ output planned linkable linked tried store =>
      have grows : Store.Grows (fun kind => kind = .program) (builder.simulator here).store
          (builder.simulator middle).store := by
        rw [store]
        exact Store.grows_joined linked.isTidy rfl
      have leads : (builder.simulator middle).store.Leads
          ⟨(builder.simulator here).store.nextWrapper⟩
          ⟨(builder.simulator here).store.nextNative⟩ output := by
        rw [store]
        exact Store.leads_joined output
      have wholly' : Wholly builder ⟨⟨(builder.simulator here).store.nextWrapper⟩, builder.provider⟩
          _ _ (builder.simulator middle) :=
        tried.wholly wholly grows leads
      have done := tried.doneOnce asked split kept planned known grows
      refine (ends_advance_linked direct linked (Stage.executable_of_link planned) wholly'
        (Store.Lists.grows lists' grows) members).imp ?_ fun _ _ => False.elim
      rintro _ last ⟨rfl, asked'⟩
      refine ⟨?_, (asked'.wholly wholly').unhindered.unset _,
        .joined linkable (done.quiet asked'.quiet asked'.mutations)⟩
      rw [← asked.store]
      exact grows.trans (asked'.quiet.grows.mono fun _ => False.elim)
  | @advanced _ operation isOther planned tried store =>
      have advances : Advances (builder.simulator here).store program.handle operation.goal
          (builder.simulator middle).store :=
        ⟨native, binary, wholly.leads, store⟩
      have grows : Store.Grows (fun kind => kind = .program) (builder.simulator here).store
          (builder.simulator middle).store := advances.grows
      have leads : (builder.simulator middle).store.Leads program.handle native
          (binary.advanced operation.goal) := by
        rw [store]
        exact wholly.leads.reprogrammed _
      have wholly' := tried.wholly wholly grows leads
      have done := tried.doneOnce asked split kept planned known grows
      have unbuilt := Stage.eq_unbuilt planned isOther
      refine (ends_advance_advanced direct tidy member planned isOther wholly'
        (Store.Lists.grows lists' grows) members).imp ?_ ?_
      · rintro _ last ⟨rfl, asked', isFree⟩
        refine ⟨?_, (asked'.wholly wholly').unhindered.unset _, .advanced isOther ?_
          (done.quiet asked'.quiet asked'.mutations)⟩
        · rw [← asked.store]
          exact grows.trans (asked'.quiet.grows.mono fun _ => False.elim)
        · rw [split]
          exact isFree_of_kept kept unbuilt isFree
      · rintro e after ⟨first', other, others', handle', idle, split', isFree, refused, known',
          still, released⟩
        refine ⟨first ++ device :: first', other, others', handle', idle, _, ?_,
          isFree_of_kept kept unbuilt isFree, refused, ?_, ?_, ?_,
          .of_advanced tidy ?_ planned isOther, released⟩
        · rw [split, split', List.append_assoc, List.cons_append]
        · rw [still]
          exact known'
        · rw [still, ← asked.store]
          exact grows
        · rw [still]
          exact leads
        · exact List.mem_append_right first List.mem_cons_self

end Advance

end ComputeImport
