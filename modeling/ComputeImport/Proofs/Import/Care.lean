import ComputeImport.Proofs.Import.Fallback
import ComputeImport.Proofs.Simulator.Moves
import ComputeImport.Proofs.Store.Frame

/-!
# Which calls an import may make

After it has wrapped the program, an import makes calls of four sorts only: it looks, counts
references to programs that it has made itself, takes the current one further to the stage that goes
with the state, or links.  `Careful` says so of its exchanges, and for the backend behind the table
each of them is an `ImportStep`, so that the frame is kept wherever the import stops.
-/

namespace ComputeImport

namespace Call

/-- Whether a call only looks at programs and devices. -/
def looks : Call → Bool
  | programNumDevices _ | programDevices _ | programBinaryType .. | devicePlatform _ => true
  | _ => false

/-- The program that a call takes further in place, and the stage that it takes it to. -/
def advances? : Call → Option (ProgramHandle × Stage)
  | programCompileFor program _ _ | programCompile _ program _ => some (program, .object)
  | programBuildFor program _ _ | programBuild _ program _ => some (program, .executable)
  | _ => none

/-- Whether a call makes a new program out of others. -/
def isLink : Call → Bool
  | programLinkFor .. | programLink .. => true
  | _ => false

end Call

/-- The calls that an import makes after it has wrapped the program. -/
inductive Permitted (importing : Importing) (newer : List ProgramHandle) (call : Call) : Prop
  | looks (looks : call.looks = true)
  | counts {own : ProgramHandle} (held : own ∈ importing.held newer) (counts : Counts own call)
  | advances {stage : Stage} (advances : call.advances? = some (importing.current newer, stage))
      (goal : importing.target.goal? = some stage)
  | links (isLink : call.isLink = true)

/-- A permitted call drops a reference to a wrapper only as the release of a program. -/
theorem Permitted.unreleased {importing : Importing} {newer : List ProgramHandle} {call : Call}
    (permitted : Permitted importing newer call)
    (unreleased : ∀ program, call ≠ .programRelease program) (kind : ObjectKind) (id : Nat) :
    call.counted? ≠ some (.release, kind, id) := by
  cases permitted with
  | looks | advances | links => cases call <;> first | contradiction | nofun
  | counts held counts =>
      rcases counts with rfl | rfl
      · nofun
      · exact absurd rfl (unreleased _)

/-- The programs that links have brought after some exchanges, the newest one first. -/
def newest (newer : List ProgramHandle) (exchanges : List Exchange) : List ProgramHandle :=
  (links exchanges).reverse ++ newer

/-- All calls are permitted where they are made. -/
def Careful (importing : Importing) : List ProgramHandle → List Exchange → Prop
  | _, [] => True
  | newer, exchange :: rest =>
      Permitted importing newer exchange.call ∧ Careful importing (newest newer [exchange]) rest

section Careful

variable {importing : Importing} {newer : List ProgramHandle} {first second exchanges : List Exchange}

theorem newest_append (newer : List ProgramHandle) (first second : List Exchange) :
    newest newer (first ++ second) = newest (newest newer first) second := by
  simp [newest]

theorem newest_cons (newer : List ProgramHandle) (exchange : Exchange)
    (exchanges : List Exchange) :
    newest newer (exchange :: exchanges) = newest (newest newer [exchange]) exchanges :=
  newest_append newer [exchange] exchanges

theorem newest_of_not_link {exchange : Exchange} (unlinked : exchange.call.isLink = false) :
    newest newer [exchange] = newer := by
  obtain ⟨call, outcome⟩ := exchange
  cases call <;> first | contradiction | rfl

theorem careful_append : Careful importing newer (first ++ second) ↔
    Careful importing newer first ∧ Careful importing (newest newer first) second := by
  induction first generalizing newer with
  | nil => simp [Careful, newest]
  | cons exchange first ih =>
      rw [List.cons_append, Careful, Careful, ih, and_assoc, ← newest_cons]

theorem careful_singleton {exchange : Exchange}
    (permitted : Permitted importing newer exchange.call) : Careful importing newer [exchange] :=
  ⟨permitted, trivial⟩

/-- Exchanges that bring no new program are careful if each of them is permitted at their start. -/
theorem OnlyCalled.careful {allowed : Call → Prop} (only : OnlyCalled allowed exchanges)
    (permits : ∀ call, allowed call → Permitted importing newer call ∧ call.isLink = false) :
    Careful importing newer exchanges ∧ newest newer exchanges = newer := by
  induction exchanges with
  | nil => exact ⟨trivial, rfl⟩
  | cons exchange rest ih =>
      obtain ⟨permitted, unlinked⟩ := permits _ (only exchange List.mem_cons_self)
      obtain ⟨careful, same⟩ := ih fun other member => only other (List.mem_cons_of_mem _ member)
      have head : newest newer [exchange] = newer := newest_of_not_link unlinked
      exact ⟨⟨permitted, head.symm ▸ careful⟩, by rw [newest_cons, head, same]⟩

end Careful

/-! ## Permitted calls and the store -/

section Steps

variable {importing : Importing} {start : Store} {newer : List ProgramHandle} {call : Call}

namespace Simulator

variable {sim : Simulator}

/-- What the work of a call keeps of the store holds after the call. -/
theorem Answers.after {α : Type} {step : Native α} {ok : α → Store → Prop}
    {failed : NativeError → Store → Prop} {holds : Store → Prop}
    (answers : Answers call step sim ok failed) (isCall : IsCall step call)
    (start : holds sim.store) (value : ∀ a store, ok a store → holds store)
    (failure : ∀ e store, failed e store → holds store) :
    holds (sim.after (.call call)).store := by
  rw [← isCall]
  exact ends_stateAfter.mp (answers.keeps start value failure)

theorem importStep_looks (looks : call.looks = true) :
    ImportStep importing newer sim.store newer (sim.after (.call call)).store := by
  have unchanged : ∀ {store : Store}, store = sim.store → sim.store.Quiet store := by
    rintro _ rfl
    exact .refl _
  apply ImportStep.quiet
  cases call with
  | programNumDevices program =>
      exact answers_programNumDevices.after (.of_answer _ rfl) (.refl _)
        (fun _ _ found => unchanged found.1) fun _ _ failed => unchanged failed.1
  | programDevices program =>
      exact answers_programDevices.after (.of_answer _ rfl) (.refl _)
        (fun _ _ found => found.1) fun _ _ failed => failed.1
  | programBinaryType program device =>
      exact answers_programBinaryType.after (.of_answer _ rfl) (.refl _)
        (fun _ _ found => unchanged found.1) fun _ _ failed => unchanged failed.1
  | devicePlatform device =>
      exact answers_devicePlatform.after (.of_answer _ rfl) (.refl _)
        (fun _ _ found => found.1) fun _ _ failed => unchanged failed.1
  | _ => contradiction

theorem importStep_still {store : Store} (unchanged : store = sim.store) :
    ImportStep importing newer sim.store newer store := by
  subst unchanged
  exact .quiet (.refl _)

theorem importStep_counts {own : ProgramHandle} (held : own ∈ importing.held newer)
    (counts : ComputeImport.Counts own call) :
    ImportStep importing newer sim.store newer (sim.after (.call call)).store := by
  have released : ∀ {wrapper : Wrapper} {store : Store},
      sim.store.wrappers.get? own.id = some wrapper → sim.store.Released own.id wrapper store →
      ImportStep importing newer sim.store newer store := by
    intro wrapper store found released
    cases released with
    | last => exact .discarded held found
    | another => exact .recounted _ held found
  rcases counts with rfl | rfl
  · apply (answers_retained rfl).after (fun _ => rfl) (importStep_still rfl)
    · rintro _ _ ⟨wrapper, found, -, rfl⟩
      exact .recounted _ held found
    · exact fun _ _ failed => importStep_still failed.1
  · apply (answers_released rfl).after (fun _ => rfl) (importStep_still rfl)
    · rintro _ _ ⟨wrapper, found, -, done⟩
      exact released found done
    · rintro _ _ (⟨unchanged, -⟩ | ⟨wrapper, found, -, ⟨-, unchanged, -⟩ | ⟨done, -⟩⟩)
      · exact importStep_still unchanged
      · exact importStep_still unchanged
      · exact released found done

theorem importStep_advances (formed : sim.store.WellFormed) {stage : Stage}
    (advances : call.advances? = some (importing.current newer, stage))
    (goal : importing.target.goal? = some stage) :
    ImportStep importing newer sim.store newer (sim.after (.call call)).store := by
  have forDevices : ∀ {devices : List DeviceHandle} {store : Store},
      AdvancesFor sim.store (importing.current newer) devices stage store →
      ImportStep importing newer sim.store newer store := by
    rintro devices _ ⟨native, binary, selected, leads, -, unbuilt, rfl⟩
    have tidy : binary.IsTidy := leads.isTidy formed
    exact .progressed leads (ProgramBinary.progresses_advancedFor tidy unbuilt goal)
  have whole : ∀ {store : Store}, Advances sim.store (importing.current newer) stage store →
      ImportStep importing newer sim.store newer store := by
    rintro _ ⟨native, binary, leads, rfl⟩
    exact .progressed leads (ProgramBinary.progresses_advanced goal)
  cases call with
  | programCompileFor =>
      cases advances
      exact answers_programCompileFor.after (.of_done _ rfl) (importStep_still rfl)
        (fun _ _ done => forDevices done) fun _ _ failed => importStep_still failed.1
  | programCompile =>
      cases advances
      exact answers_programCompile.after (.of_done _ rfl) (importStep_still rfl)
        (fun _ _ done => whole done) fun _ _ failed => importStep_still failed.1
  | programBuildFor =>
      cases advances
      exact answers_programBuildFor.after (.of_done _ rfl) (importStep_still rfl)
        (fun _ _ done => forDevices done) fun _ _ failed => importStep_still failed.1
  | programBuild =>
      cases advances
      exact answers_programBuild.after (.of_done _ rfl) (importStep_still rfl)
        (fun _ _ done => whole done) fun _ _ failed => importStep_still failed.1
  | _ => contradiction

/-- A call that fails without effect, whether it has been told to or not. -/
theorem Answers.ends {α : Type} {step : Native α} {ok : α → Store → Prop}
    (answers : Answers call step sim ok fun _ store => store = sim.store) :
    Ends step sim (fun a after => ok a after.store) (fun _ after => after.store = sim.store) := by
  apply Ends.imp answers
  · exact fun _ _ ended => ended.2.2
  · rintro _ _ ⟨-, ⟨-, same⟩ | ⟨-, same⟩⟩ <;> exact same

variable {context : ContextHandle} {programs : List ProgramHandle} {options : Option String}

/-- A link brings the program that is numbered next, or leaves the store as it is. -/
theorem ends_programLinkFor {devices : List DeviceHandle} :
    Ends (programLinkFor context devices programs options) sim
      (fun handle after => Joins sim.store (fun _ => True) handle after.store)
      (fun _ after => after.store = sim.store) := by
  have links : ∀ selected : List NativeHandle, Ends
      (linkPrograms (fun device => selected.contains device) programs ⟨[], {}, []⟩) sim.store
      (fun _ after => after = sim.store ∧ True) (fun _ after => after = sim.store ∧ True) :=
    fun selected => Store.ends_linkPrograms.imp (fun _ _ done => ⟨done.1, trivial⟩)
      fun _ _ failed => ⟨failed, trivial⟩
  apply Answers.ends
  apply (works_linkFor links).imp
  · rintro _ _ ⟨_, -, joins⟩
    exact joins
  · exact fun _ _ failed => failed.1

theorem ends_programLink :
    Ends (programLink context programs options) sim
      (fun handle after => Joins sim.store (fun _ => True) handle after.store)
      (fun _ after => after.store = sim.store) := by
  have links : Ends (linkPrograms (fun _ => true) programs ⟨[], {}, []⟩) sim.store
      (fun _ after => after = sim.store ∧ True) (fun _ after => after = sim.store ∧ True) :=
    Store.ends_linkPrograms.imp (fun _ _ done => ⟨done.1, trivial⟩)
      fun _ _ failed => ⟨failed, trivial⟩
  apply Answers.ends
  exact (works_link links).imp (fun _ _ joins => joins) fun _ _ failed => failed.1

end Simulator

variable {table : Table} {host after : Host} {exchanges : List Exchange}

/-- A call that is permitted is a step of the import for the backend behind the table. -/
theorem importStep_answer (formed : (host.simulator table.simulator).store.WellFormed)
    (permitted : Permitted importing newer call) :
    Ends (table.answer call) host
      (fun reply after => ImportStep importing newer (host.simulator table.simulator).store
        (newest newer [⟨call, .ok reply⟩]) (after.simulator table.simulator).store)
      (fun e after => ImportStep importing newer (host.simulator table.simulator).store
        (newest newer [⟨call, .error e⟩]) (after.simulator table.simulator).store) := by
  -- Of the calls that bring no new program it does not matter whether they work.
  have inPlace : call.isLink = false →
      ImportStep importing newer (host.simulator table.simulator).store newer
        ((host.simulator table.simulator).after (.call call)).store →
      Ends (table.answer call) host
        (fun reply after => ImportStep importing newer (host.simulator table.simulator).store
          (newest newer [⟨call, .ok reply⟩]) (after.simulator table.simulator).store)
        (fun e after => ImportStep importing newer (host.simulator table.simulator).store
          (newest newer [⟨call, .error e⟩]) (after.simulator table.simulator).store) := by
    intro unlinked step
    have same : ∀ outcome, newest newer [⟨call, outcome⟩] = newer :=
      fun _ => newest_of_not_link unlinked
    simp only [same]
    rw [ends_stateAfter, Converses.stateAfter_answer]
    split
    · rw [Host.simulator_advance_self]
      exact step
    · exact .quiet (.refl _)
  cases permitted with
  | looks looks =>
      refine inPlace ?_ (Simulator.importStep_looks looks)
      cases call <;> first | contradiction | rfl
  | counts held counts =>
      refine inPlace ?_ (Simulator.importStep_counts held counts)
      rcases counts with rfl | rfl <;> rfl
  | advances advances goal =>
      refine inPlace ?_ (Simulator.importStep_advances formed advances goal)
      cases call <;> first | contradiction | rfl
  | links isLink =>
      cases call with
      | programLinkFor context devices programs options =>
          apply Ends.bind ((Ends.callFor Simulator.ends_programLinkFor fun _ => rfl).imp
            (fun _ _ joins => joins) ?_)
          · rintro handle after ⟨output, -, rfl, equal⟩
            exact ends_pure.mpr (equal ▸ .joined output)
          · exact fun _ _ same => Simulator.importStep_still same
      | programLink context programs options =>
          apply ends_call.mpr
          simp only [Host.simulator_advance_self]
          apply Ends.bind (Simulator.ends_programLink.imp (fun _ _ joins => joins) ?_)
          · rintro handle after ⟨output, -, rfl, equal⟩
            exact ends_pure.mpr (equal ▸ .joined output)
          · exact fun _ _ same => Simulator.importStep_still same
      | _ => contradiction

/-- An exchange that is permitted is a step of the import for the backend behind the table. -/
theorem Exchange.Happens.importStep {exchange : Exchange}
    (happens : exchange.Happens table host after)
    (formed : (host.simulator table.simulator).store.WellFormed)
    (permitted : Permitted importing newer exchange.call) :
    ImportStep importing newer (host.simulator table.simulator).store (newest newer [exchange])
        (after.simulator table.simulator).store ∧
      (after.simulator table.simulator).store.WellFormed := by
  constructor
  · exact happens.of_ends (fun outcome after =>
      ImportStep importing newer (host.simulator table.simulator).store
        (newest newer [⟨exchange.call, outcome⟩]) (after.simulator table.simulator).store)
      (importStep_answer formed permitted)
  · rw [← happens.stateAfter_eq, Converses.stateAfter_answer]
    split
    · rw [Host.simulator_advance_self]
      exact Simulator.wellFormed_after formed (.call exchange.call)
    · exact formed

/-- The frame is kept by a conversation in which all calls are permitted. -/
theorem Framed.converses
    (framed : Framed importing start newer (host.simulator table.simulator).store)
    (careful : Careful importing newer exchanges) (converses : Converses table host exchanges after) :
    Framed importing start (newest newer exchanges) (after.simulator table.simulator).store := by
  induction converses generalizing newer with
  | done => exact framed
  | aside same _ ih =>
      rw [Host.simulator, ← same] at framed
      exact ih framed careful
  | said happens _ ih =>
      obtain ⟨permitted, careful⟩ := careful
      obtain ⟨step, formed⟩ := happens.importStep framed.formed permitted
      rw [newest_cons]
      exact ih (framed.step step formed) careful

/-- Once a link has brought a new program, an exchange that gives no reference back leaves the
imported one as it is, and one that does leaves what is known of it. -/
theorem Exchange.Happens.spares {exchange : Exchange} (happens : exchange.Happens table host after)
    (framed : Framed importing start newer (host.simulator table.simulator).store)
    (permitted : Permitted importing newer exchange.call) (linked : newer ≠ []) :
    (host.simulator table.simulator).store.SameData importing.native
        (after.simulator table.simulator).store ∧
      ((importing.ownsNative = false ∨ ∀ program, exchange.call ≠ .programRelease program) →
        (host.simulator table.simulator).store.SameNative importing.native
          (after.simulator table.simulator).store) := by
  obtain ⟨step, -⟩ := happens.importStep framed.formed permitted
  have data := step.sameData framed linked
  refine ⟨data, ?_⟩
  rintro (kept | unreleased)
  · exact step.sameNative framed linked kept
  · apply data.sameNative
    intro object found
    rw [← happens.stateAfter_eq, Converses.stateAfter_answer]
    split
    · rw [Host.simulator_advance_self]
      exact (Simulator.moves_call framed.formed exchange.call).keeps_refs framed.formed
        (permitted.unreleased unreleased) found
    · exact ⟨object, found, rfl⟩

end Steps

/-! ## Imports are careful -/

section Imports

variable {importing : Importing} {newer : List ProgramHandle} {exchanges : List Exchange}
  {builder : Builder} {target : BundleState} {current : ProgramHandle}

theorem OnlyCalled.careful_counts (only : OnlyCalled (Counts importing.program) exchanges) :
    Careful importing newer exchanges ∧ newest newer exchanges = newer := by
  apply only.careful
  intro call counts
  refine ⟨.counts List.mem_cons_self counts, ?_⟩
  rcases counts with rfl | rfl <;> rfl

theorem OnlyCalled.careful_releases {held : List ProgramHandle}
    (only : OnlyCalled (ReleasesOf held) exchanges)
    (own : ∀ other ∈ held, other ∈ importing.held newer) :
    Careful importing newer exchanges ∧ newest newer exchanges = newer := by
  apply only.careful
  rintro _ ⟨program, member, rfl⟩
  exact ⟨.counts (own program member) (Or.inr rfl), rfl⟩

theorem OnlyCalled.careful_looks {allowed : Call → Prop} (only : OnlyCalled allowed exchanges)
    (looks : ∀ call, allowed call → call.looks = true) :
    Careful importing newer exchanges ∧ newest newer exchanges = newer := by
  apply only.careful
  intro call isAllowed
  have looks := looks call isAllowed
  refine ⟨.looks looks, ?_⟩
  cases call <;> first | contradiction | rfl

/-- The two forms of an operation that has been planned are permitted. -/
theorem permitted_operation {stage : Stage} {operation : BuildOperation} {device : DeviceHandle}
    (planned : stage.plan target = .run operation) (isTarget : importing.target = target)
    (isCurrent : current = importing.current newer) :
    Permitted importing newer (builder.extended current device operation) ∧
      Permitted importing newer (builder.legacy current operation) := by
  have goal : importing.target.goal? = some operation.goal :=
    isTarget.symm ▸ Stage.goal?_of_plan planned
  subst isCurrent
  cases operation with
  | compile => exact ⟨.advances rfl goal, .advances rfl goal⟩
  | build => exact ⟨.advances rfl goal, .advances rfl goal⟩
  | link => exact ⟨.links rfl, .links rfl⟩

variable {device : DeviceHandle} {operation : BuildOperation} {work : List Exchange}

theorem Operates.careful {extended legacy : Call} {outcome : Except NativeError Answer}
    (operates : Operates extended legacy work outcome)
    (permitted : Permitted importing newer extended ∧ Permitted importing newer legacy) :
    Careful importing newer work := by
  cases operates with
  | direct => exact careful_singleton permitted.1
  | refused => exact careful_singleton permitted.1
  | fellBack =>
      have same : ∀ {call : Call} {e : NativeError}, newest newer [⟨call, .error e⟩] = newer := by
        intro call e
        cases call <;> rfl
      exact ⟨permitted.1, by rw [same]; exact careful_singleton permitted.2⟩

/-- The program that is current after an operation is the newest one after its exchanges. -/
theorem Operates.successor_eq {reply : Answer}
    (operates : Operates (builder.extended current device operation)
      (builder.legacy current operation) work (.ok reply))
    (isCurrent : current = importing.current newer) :
    operation.successor current reply = importing.current (newest newer work) := by
  subst isCurrent
  cases operates <;> cases operation <;> first | rfl | cases reply <;> rfl

theorem ReconcilesDevice.careful {outcome : Except ImportError ProgramHandle}
    (reconciles : ReconcilesDevice builder target current device exchanges outcome)
    (isTarget : importing.target = target) (isCurrent : current = importing.current newer) :
    Careful importing newer exchanges ∧
      ∀ next, outcome = .ok next → next = importing.current (newest newer exchanges) := by
  have asks : ∀ {call : Call} {reply : Except NativeError Answer}, call.looks = true →
      Careful importing newer [⟨call, reply⟩] := fun looks => careful_singleton (.looks looks)
  cases reconciles with
  | unanswered => exact ⟨asks rfl, by simp⟩
  | mismatch => exact ⟨asks rfl, by simp⟩
  | kept =>
      refine ⟨asks rfl, ?_⟩
      rintro _ ⟨⟩
      exact isCurrent
  | failed planned operates =>
      exact ⟨⟨.looks rfl, operates.careful (permitted_operation planned isTarget isCurrent)⟩, by simp⟩
  | advanced planned operates =>
      refine ⟨⟨.looks rfl, operates.careful (permitted_operation planned isTarget isCurrent)⟩, ?_⟩
      rintro _ ⟨⟩
      exact operates.successor_eq isCurrent

theorem Reconciles.careful {devices : List DeviceHandle}
    {outcome : Except ImportError ProgramHandle}
    (reconciles : Reconciles builder target current devices exchanges outcome)
    (isTarget : importing.target = target) (isCurrent : current = importing.current newer) :
    Careful importing newer exchanges := by
  induction reconciles generalizing newer with
  | done => exact trivial
  | stopped stops => exact (stops.careful isTarget isCurrent).1
  | next first _ ih =>
      obtain ⟨careful, isNext⟩ := first.careful isTarget isCurrent
      exact careful_append.mpr ⟨careful, ih (isNext _ rfl)⟩

/-- What an import has made, after the exchanges that follow the first one. -/
theorem mem_held_newest {program other : ProgramHandle} {said : List Exchange}
    (isProgram : importing.program = program) :
    other ∈ importing.held (newest [] said) ↔ other ∈ program :: links said := by
  simp [Importing.held, newest, isProgram]

variable {native : NativeHandle} {ownsNative : Bool} {opening : List Exchange}

/-- Where the devices of a program have been listed, no new program has been made. -/
theorem Opens.careful {program : ProgramHandle} {devices : List DeviceHandle}
    (opens : Opens builder native ownsNative opening (some (program, devices)))
    (target : BundleState) :
    ∃ rest, opening = ⟨.programCreate native builder.context.handle ownsNative,
        .ok (.handle program.id)⟩ :: rest ∧
      Careful ⟨native, ownsNative, target, program⟩ [] rest ∧ newest [] rest = [] := by
  cases opens with
  | listed counted =>
      obtain ⟨careful, same⟩ : Careful ⟨native, ownsNative, target, program⟩ [] _ ∧ _ = [] :=
        counted.careful_counts
      refine ⟨_, rfl, careful_append.mpr ⟨careful, ?_⟩, ?_⟩
      · exact ⟨.looks rfl, .looks rfl, trivial⟩
      · rw [newest_append, same]
        rfl

/-- An import wraps the program, if it can, and makes permitted calls from then on. -/
theorem ImportsProgram.careful {outcome : Except ImportError KernelBundle}
    (imports : ImportsProgram builder target native ownsNative exchanges outcome) :
    (∃ e, exchanges = [⟨.programCreate native builder.context.handle ownsNative, .error e⟩] ∧
      ∀ bundle, outcome ≠ .ok bundle) ∨
    ∃ program rest, exchanges = ⟨.programCreate native builder.context.handle ownsNative,
        .ok (.handle program.id)⟩ :: rest ∧
      Careful ⟨native, ownsNative, target, program⟩ [] rest ∧
      ∀ bundle, outcome = .ok bundle → ∀ image ∈ bundle.images,
        ∀ other ∈ image.program :: image.superseded,
          other.Among builder.provider (program :: links rest) := by
  cases imports with
  | unopened opens =>
      cases opens with
      | unwrapped => exact Or.inl ⟨_, rfl, by simp⟩
      | @unretained program counts _ counted _ =>
          exact Or.inr ⟨program, counts, rfl, counted.careful_counts.1, by simp⟩
      | @unlisted program counts lists released counted asked _ releases =>
          obtain ⟨careful, same⟩ : Careful ⟨native, ownsNative, target, program⟩ [] _ ∧ _ = [] :=
            counted.careful_counts
          obtain ⟨careful', same'⟩ : Careful ⟨native, ownsNative, target, program⟩ [] _ ∧ _ = [] :=
            asked.careful_looks (by rintro _ (rfl | rfl) <;> rfl)
          obtain ⟨careful'', -⟩ : Careful ⟨native, ownsNative, target, program⟩ [] _ ∧ _ = [] :=
            releases.careful_releases (by simp [Importing.held])
          refine Or.inr ⟨program, _, rfl, careful_append.mpr ⟨careful, ?_⟩, by simp⟩
          rw [same, careful_append, same']
          exact ⟨careful', careful''⟩
  | @stopped opening said released program _ _ opens reconciles releases =>
      obtain ⟨rest, rfl, careful, same⟩ := opens.careful target
      refine Or.inr ⟨program, rest ++ (said ++ released), rfl, ?_, by simp⟩
      rw [careful_append, same, careful_append]
      exact ⟨careful, reconciles.careful rfl rfl,
        (releases.careful_releases fun other member => (mem_held_newest rfl).mpr member).1⟩
  | @unresolved opening said asked released program _ _ _ opens reconciles resolves releases =>
      obtain ⟨rest, rfl, careful, same⟩ := opens.careful target
      refine Or.inr ⟨program, rest ++ (said ++ (asked ++ released)), rfl, ?_, by simp⟩
      obtain ⟨careful', same'⟩ :
          Careful ⟨native, ownsNative, target, program⟩ (newest [] said) asked ∧ _ :=
        resolves.careful_looks (by rintro _ ⟨device, rfl⟩; rfl)
      rw [careful_append, same, careful_append, careful_append, same']
      exact ⟨careful, reconciles.careful rfl rfl, careful',
        (releases.careful_releases fun other member => (mem_held_newest rfl).mpr member).1⟩
  | @imported opening said asked program _ image _ _ _ opens reconciles resolves own =>
      obtain ⟨rest, rfl, careful, same⟩ := opens.careful target
      refine Or.inr ⟨program, rest ++ (said ++ asked), rfl, ?_, ?_⟩
      · rw [careful_append, same, careful_append]
        exact ⟨careful, reconciles.careful rfl rfl,
          (resolves.careful_looks (by rintro _ ⟨device, rfl⟩; rfl)).1⟩
      · rintro _ ⟨⟩ other isImage held isHeld
        obtain rfl := List.mem_singleton.mp isImage
        obtain ⟨isProvider, member⟩ := own held isHeld
        refine ⟨isProvider, ?_⟩
        rcases List.mem_cons.mp member with isProgram | isLinked
        · exact List.mem_cons.mpr (Or.inl isProgram)
        · simp [isLinked]

end Imports

end ComputeImport
