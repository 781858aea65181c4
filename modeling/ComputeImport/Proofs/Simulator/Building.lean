import ComputeImport.Proofs.Simulator.Answers

/-!
# Where compiling, building and linking end

What the entry points do to the store that take programs from stage to stage.  Each either does all
that it says or leaves the store as it is, and the theorems also say when it cannot fail.
-/

namespace ComputeImport.Simulator

variable {sim : Simulator}

/-! ## Compiling and building -/

/-- A program has been taken to a stage for chosen devices, all of which were unbuilt. -/
def AdvancesFor (store : Store) (program : ProgramHandle) (devices : List DeviceHandle)
    (stage : Stage) (after : Store) : Prop :=
  ∃ native binary selected, store.Leads program native binary ∧
    List.Forall₂ store.Behind devices selected ∧ binary.Unbuilt selected ∧
    after = store.reprogrammed native (binary.advancedFor selected stage)

/-- A program has been taken to a stage for all devices that were unbuilt. -/
def Advances (store : Store) (program : ProgramHandle) (stage : Stage) (after : Store) : Prop :=
  ∃ native binary, store.Leads program native binary ∧
    after = store.reprogrammed native (binary.advanced stage)

/-- Every program behind the wrapper, if any, has been built for some of the devices. -/
def Refuses (store : Store) (program : ProgramHandle) (devices : List DeviceHandle) : Prop :=
  ∀ native binary selected, store.Leads program native binary →
    List.Forall₂ store.Behind devices selected → ¬ binary.Unbuilt selected

theorem forall₂_behind_unique {store : Store} {kind : ObjectKind} {handles : List (Handle kind)}
    {natives others : List NativeHandle} (first : List.Forall₂ store.Behind handles natives)
    (second : List.Forall₂ store.Behind handles others) : natives = others := by
  induction first generalizing others with
  | nil =>
      cases second
      rfl
  | cons behind _ ih =>
      cases second with
      | cons behind' rest' => rw [behind.unique behind', ih rest']

theorem hasWrapper_of_forall₂_behind {store : Store} {kind : ObjectKind}
    {handles : List (Handle kind)} {natives : List NativeHandle}
    (all : List.Forall₂ store.Behind handles natives) :
    ∀ handle ∈ handles, store.HasWrapper handle := by
  induction all with
  | nil => exact fun handle member => absurd member List.not_mem_nil
  | cons behind _ ih =>
      intro handle member
      rcases List.mem_cons.mp member with rfl | member
      · exact behind.hasWrapper
      · exact ih handle member

/-- Live wrappers all have something behind them. -/
theorem exists_forall₂_behind {store : Store} {kind : ObjectKind} {handles : List (Handle kind)}
    (live : ∀ handle ∈ handles, store.HasWrapper handle) :
    ∃ natives, List.Forall₂ store.Behind handles natives := by
  induction handles with
  | nil => exact ⟨[], .nil⟩
  | cons handle handles ih =>
      obtain ⟨wrapper, found, isKind⟩ := live handle List.mem_cons_self
      obtain ⟨natives, rest⟩ := ih fun other member => live other (List.mem_cons_of_mem _ member)
      exact ⟨wrapper.native :: natives, .cons ⟨wrapper, found, isKind, rfl⟩ rest⟩

theorem mem_of_forall₂_behind {store : Store} {kind : ObjectKind} {handles : List (Handle kind)}
    {natives : List NativeHandle} (all : List.Forall₂ store.Behind handles natives)
    (native : NativeHandle) :
    native ∈ natives ↔ ∃ handle ∈ handles, store.Behind handle native := by
  induction all with
  | nil => simp
  | @cons handle other handles natives first _ ih =>
      rw [List.mem_cons, ih, List.exists_mem_cons_iff]
      refine or_congr_left ⟨?_, fun found => found.unique first⟩
      rintro rfl
      exact first

theorem works_noteOptions {options : Option String} {failed : NativeError → Store → Prop} :
    Works (noteOptions options) sim (fun _ store => store = sim.store) failed :=
  fun _ store _ => ⟨⟨rfl, rfl, rfl⟩, store⟩

/-- An operation for chosen devices takes all of them further, or none. -/
theorem works_advanceFor {program : ProgramHandle} {devices : List DeviceHandle} {stage : Stage}
    {options : Option String} :
    Works (advanceFor program devices stage options) sim
      (fun _ => AdvancesFor sim.store program devices stage)
      (fun _ store => store = sim.store ∧ Refuses sim.store program devices) := by
  refine (Works.onStore (Store.ends_behind.imp (fun _ _ found => found) ?_)).bind ?_
  · rintro e store ⟨equal, -, dead⟩
    exact ⟨equal, fun _ _ _ leads => absurd leads.1.hasWrapper dead⟩
  rintro native _ ⟨rfl, behind⟩
  refine (Works.onStore (Store.ends_behindAll.imp (fun _ _ found => found) ?_)).bind ?_
  · rintro e store ⟨equal, device, member, dead⟩
    exact ⟨equal, fun _ _ _ _ all => absurd (hasWrapper_of_forall₂_behind all device member) dead⟩
  rintro selected _ ⟨rfl, chosen⟩
  refine works_noteOptions.bind ?_
  rintro _ _ rfl
  refine Works.onStore ?_
  refine ((Store.ends_nativeProgram_of_behind behind).imp (fun _ _ found => found) ?_).bind ?_
  · rintro e store ⟨equal, dead⟩
    exact ⟨equal, fun native binary _ leads => absurd leads (dead native binary)⟩
  rintro binary store ⟨rfl, leads⟩
  refine (Store.ends_checkUnbuilt.imp (fun _ _ found => found) ?_).bind ?_
  · rintro e store ⟨equal, built⟩
    refine ⟨equal, ?_⟩
    intro native' binary' selected' leads' chosen'
    obtain ⟨-, rfl⟩ := leads.unique leads'
    rw [← forall₂_behind_unique chosen chosen']
    exact built
  rintro _ _ ⟨rfl, unbuilt⟩
  refine Store.ends_setProgram.imp ?_ fun _ _ failed => failed.elim
  exact fun _ _ done => ⟨native, binary, selected, leads, chosen, unbuilt, done⟩

/-- An operation for the whole program fails only where the program is not live. -/
theorem works_advance {program : ProgramHandle} {stage : Stage} {options : Option String} :
    Works (advance program stage options) sim (fun _ => Advances sim.store program stage)
      (fun _ store => store = sim.store ∧
        ∀ native binary, ¬ sim.store.Leads program native binary) := by
  refine (Works.onStore (Store.ends_behind.imp (fun _ _ found => found) ?_)).bind ?_
  · rintro e store ⟨equal, -, dead⟩
    exact ⟨equal, fun _ _ leads => dead leads.1.hasWrapper⟩
  rintro native _ ⟨rfl, behind⟩
  refine works_noteOptions.bind ?_
  rintro _ _ rfl
  refine Works.onStore ?_
  refine ((Store.ends_nativeProgram_of_behind behind).imp (fun _ _ found => found)
    fun _ _ failed => failed).bind ?_
  rintro binary _ ⟨rfl, leads⟩
  refine Store.ends_setProgram.imp ?_ fun _ _ failed => failed.elim
  exact fun _ _ done => ⟨native, binary, leads, done⟩

/-- The work of an entry point that acts for chosen devices, on a backend that may lack it. -/
theorem Works.forDevices {α : Type} {body : Native α} {entryPoint : String}
    {ok : α → Store → Prop} {refused : Prop}
    (works : Works body sim ok fun _ store => store = sim.store ∧ refused) :
    Works (do if (← get).config.perDevice then body else throw (.unsupportedFeature entryPoint))
      sim ok (fun _ store => store = sim.store ∧ (sim.config.perDevice = true → refused)) := by
  intro before store config
  rw [ends_bind, ends_get, config]
  split
  · rename_i exists'
    refine (works before store config).imp (fun _ _ ended => ended) ?_
    exact fun _ _ ended => ⟨ended.1, ended.2.1, fun _ => ended.2.2⟩
  · rename_i lacking
    exact ⟨.refl before, store, fun exists' => absurd exists' lacking⟩

/-- The work of an entry point that acts in a context, which has to be live. -/
theorem Works.inContext {α : Type} {body : Native α} {context : ContextHandle}
    {ok : α → Store → Prop} {refused : NativeError → Prop}
    (works : Works body sim ok fun e store => store = sim.store ∧ refused e) :
    Works (do
        let _ ← Simulator.onStore (Store.wrapper context)
        body)
      sim ok (fun e store => store = sim.store ∧ (sim.store.HasWrapper context → refused e)) := by
  refine (Works.onStore (Store.ends_wrapper.imp (fun _ _ found => found) ?_)).bind ?_
  · exact fun _ _ failed => ⟨failed.1, fun live => absurd live failed.2.2⟩
  · rintro _ _ ⟨rfl, -⟩
    exact works.imp (fun _ _ done => done) fun _ _ failed => ⟨failed.1, fun _ => failed.2⟩

theorem answers_programCompileFor {program : ProgramHandle} {devices : List DeviceHandle}
    {options : Option String} :
    Answers (.programCompileFor program devices options)
      (programCompileFor program devices options) sim
      (fun _ => AdvancesFor sim.store program devices .object)
      (fun _ store => store = sim.store ∧
        (sim.config.perDevice = true → Refuses sim.store program devices)) :=
  works_advanceFor.forDevices.answers

theorem answers_programBuildFor {program : ProgramHandle} {devices : List DeviceHandle}
    {options : Option String} :
    Answers (.programBuildFor program devices options)
      (programBuildFor program devices options) sim
      (fun _ => AdvancesFor sim.store program devices .executable)
      (fun _ store => store = sim.store ∧
        (sim.config.perDevice = true → Refuses sim.store program devices)) :=
  works_advanceFor.forDevices.answers

theorem answers_programCompile {context : ContextHandle} {program : ProgramHandle}
    {options : Option String} :
    Answers (.programCompile context program options) (programCompile context program options) sim
      (fun _ => Advances sim.store program .object)
      (fun _ store => store = sim.store ∧
        (sim.store.HasWrapper context → ∀ native binary, ¬ sim.store.Leads program native binary)) :=
  works_advance.inContext.answers

theorem answers_programBuild {context : ContextHandle} {program : ProgramHandle}
    {options : Option String} :
    Answers (.programBuild context program options) (programBuild context program options) sim
      (fun _ => Advances sim.store program .executable)
      (fun _ store => store = sim.store ∧
        (sim.store.HasWrapper context → ∀ native binary, ¬ sim.store.Leads program native binary)) :=
  works_advance.inContext.answers

/-! ## Linking -/

/-- A tidy program has been made and wrapped, of which more is known. -/
def Joins (store : Store) (output : ProgramBinary → Prop) (handle : ProgramHandle)
    (after : Store) : Prop :=
  ∃ linked, output linked ∧ handle = ⟨store.nextWrapper⟩ ∧ after = store.joined linked

variable {programs : List ProgramHandle} {context : ContextHandle} {options : Option String}

/-- The work of a link for the whole program. -/
theorem works_link {ok : ProgramBinary → Prop} {refused : NativeError → Prop}
    (links : Ends (linkPrograms (fun _ => true) programs ⟨[], {}, []⟩) sim.store
      (fun output after => after = sim.store ∧ ok output)
      (fun e after => after = sim.store ∧ refused e)) :
    Answers (.programLink context programs options) (programLink context programs options) sim
      (Joins sim.store ok)
      (fun e store => store = sim.store ∧
        (sim.store.HasWrapper context → programs ≠ [] → refused e)) := by
  refine Works.answers (Works.inContext ?_)
  split
  · rename_i empty
    rw [List.isEmpty_iff] at empty
    exact fun before store _ => ⟨.refl before, store, fun some => absurd empty some⟩
  · refine works_noteOptions.bind ?_
    rintro _ _ rfl
    refine Works.onStore ((Store.ends_linkInto links).imp (fun _ _ done => done) ?_)
    exact fun _ _ failed => ⟨failed.1, fun _ => failed.2⟩

/-- The work of a link for chosen devices. -/
theorem works_linkFor {devices : List DeviceHandle} {ok : List NativeHandle → ProgramBinary → Prop}
    {refused : List NativeHandle → Prop}
    (links : ∀ selected, Ends (linkPrograms (fun device => selected.contains device) programs
        ⟨[], {}, []⟩) sim.store
      (fun output after => after = sim.store ∧ ok selected output)
      (fun _ after => after = sim.store ∧ refused selected)) :
    Answers (.programLinkFor context devices programs options)
      (programLinkFor context devices programs options) sim
      (fun handle store => ∃ selected, List.Forall₂ sim.store.Behind devices selected ∧
        Joins sim.store (ok selected) handle store)
      (fun _ store => store = sim.store ∧
        (sim.config.perDevice = true → sim.store.HasWrapper context → programs ≠ [] →
          ∀ selected, List.Forall₂ sim.store.Behind devices selected → refused selected)) := by
  refine Works.answers (Works.forDevices (Works.inContext ?_))
  split
  · rename_i empty
    rw [List.isEmpty_iff] at empty
    exact fun before store _ => ⟨.refl before, store, fun some => absurd empty some⟩
  refine (Works.onStore (Store.ends_behindAll.imp (fun _ _ found => found) ?_)).bind ?_
  · rintro e store ⟨equal, device, member, dead⟩
    exact ⟨equal, fun _ _ all => absurd (hasWrapper_of_forall₂_behind all device member) dead⟩
  rintro selected _ ⟨rfl, chosen⟩
  refine works_noteOptions.bind ?_
  rintro _ _ rfl
  refine Works.onStore ((Store.ends_linkInto (links selected)).imp ?_ ?_)
  · exact fun _ _ done => ⟨selected, chosen, done⟩
  · rintro e store ⟨equal, cause⟩
    refine ⟨equal, fun _ selected' chosen' => ?_⟩
    rw [← forall₂_behind_unique chosen chosen']
    exact cause

/-- A link of one program, for all its devices.  It fails only where something is not live or a
device stands at a stage that cannot be linked. -/
theorem answers_programLink_singleton {program : ProgramHandle} :
    Answers (.programLink context [program] options) (programLink context [program] options) sim
      (Joins sim.store fun output => ∃ native input, sim.store.Leads program native input ∧
        input.Linked (fun _ => true) output)
      (fun _ store => store = sim.store ∧ (sim.store.HasWrapper context → [program] ≠ [] →
        ∀ native input, sim.store.Leads program native input →
        ¬ input.Linkable fun _ => true)) :=
  works_link Store.ends_linkPrograms_singleton

/-- A link for all devices of a program fails where one of them cannot be linked. -/
theorem answers_programLink_refused {program : ProgramHandle} {native : NativeHandle}
    {input : ProgramBinary} (live : sim.store.HasWrapper context)
    (leads : sim.store.Leads program native input) (stuck : ¬ input.Linkable fun _ => true) :
    Answers (.programLink context [program] options) (programLink context [program] options) sim
      (fun _ _ => False) (fun e store => store = sim.store ∧ ∃ log, e = .linkFailure log) := by
  have refused : Ends (linkPrograms (fun _ => true) [program] ⟨[], {}, []⟩) sim.store
      (fun _ after => after = sim.store ∧ False)
      (fun e after => after = sim.store ∧ ∃ log, e = .linkFailure log) :=
    (Store.ends_linkPrograms_refused leads stuck).imp (fun _ _ => False.elim)
      fun _ _ failed => failed
  refine (works_link refused).imp ?_ ?_
  · rintro _ _ ⟨_, holds, -⟩
    exact holds
  · exact fun _ _ failed => ⟨failed.1, failed.2 live (List.cons_ne_nil program [])⟩

/-- A link of one program, for chosen devices.  On a backend that has the entry point it fails only
where something is not live or stands at a stage that cannot be linked. -/
theorem answers_programLinkFor_singleton {program : ProgramHandle} {devices : List DeviceHandle} :
    Answers (.programLinkFor context devices [program] options)
      (programLinkFor context devices [program] options) sim
      (fun handle store => ∃ selected, List.Forall₂ sim.store.Behind devices selected ∧
        Joins sim.store (fun output => ∃ native input, sim.store.Leads program native input ∧
          input.Linked (fun device => selected.contains device) output) handle store)
      (fun _ store => store = sim.store ∧
        (sim.config.perDevice = true → sim.store.HasWrapper context → [program] ≠ [] →
          ∀ selected, List.Forall₂ sim.store.Behind devices selected →
          ∀ native input, sim.store.Leads program native input →
          ¬ input.Linkable fun device => selected.contains device)) :=
  works_linkFor fun _ => Store.ends_linkPrograms_singleton

end ComputeImport.Simulator
