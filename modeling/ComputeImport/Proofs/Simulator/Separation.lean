import Mathlib.Data.Set.Card
import Mathlib.Order.Interval.Finset.Nat
import ComputeImport.Proofs.Simulator.Conservation
import ComputeImport.Proofs.Simulator.Linking
import ComputeImport.Proofs.Simulator.Refusals
import ComputeImport.Proofs.Simulator.Stages

/-!
# Numbers of native objects and numbers of wrappers

A backend numbers its native objects from `firstNativeId` on, and the wrappers around them from one
on, with a counter for each.  Only the distance of the two starts keeps the numbers apart: they meet
as soon as `firstNativeId` wrappers have been made, also where all of those are gone.  A number that
has been given out to one sort only is denied where the other sort is expected.
-/

namespace ComputeImport

namespace ObjectName

/-- The number in a name. -/
def number : ObjectName → Nat
  | native handle => handle.raw
  | wrapper id => id

/-- The name of the other sort with the same number. -/
def twin : ObjectName → ObjectName
  | native handle => .wrapper handle.raw
  | wrapper id => .native ⟨id⟩

end ObjectName

/-! ## The next number -/

namespace Store

variable {store after : Store} {name : ObjectName} {wraps : ObjectKind → Prop}

/-- The number that the next name of the same sort gets. -/
def next (name : ObjectName) (store : Store) : Nat :=
  match name with
  | .native _ => store.nextNative
  | .wrapper _ => store.nextWrapper

theorem Has.below (has : store.Has name) (formed : store.WellFormed) :
    name.number < store.next name := by
  cases name with
  | native handle =>
      obtain ⟨object, found⟩ := Option.ne_none_iff_exists'.mp has
      exact formed.native_lt handle object found
  | wrapper id =>
      obtain ⟨wrapper, found⟩ := Option.ne_none_iff_exists'.mp has
      exact formed.wrapper_lt id wrapper found

/-- A change that adds to a store leaves a live native object. -/
theorem Growth.exists_live (growth : Growth wraps store after) :
    ∃ handle, after.natives.get? handle ≠ none := by
  have live : ∀ {kind : ObjectKind} {native : NativeHandle}, store.HasNative kind native →
      ∃ handle, store.natives.get? handle ≠ none := by
    rintro kind native ⟨object, found, -⟩
    exact ⟨native, by simp [found]⟩
  cases growth with
  | created data => exact ⟨⟨store.nextNative⟩, by simp [Store.created]⟩
  | @recorded handle => exact ⟨handle, by simp [Store.recorded]⟩
  | wrapped _ _ _ _ isLive => exact live isLive
  | platform isLive => exact live isLive
  | device isLive => exact live isLive

/-- A wrapper that does not own its native object goes alone with its last reference. -/
theorem release_last {kind : ObjectKind} {handle : Handle kind} {wrapper : Wrapper}
    (found : store.wrappers.get? handle.id = some wrapper) (isKind : wrapper.data.kind = kind)
    (last : wrapper.refs = 1) (unowned : wrapper.ownsNative = false) :
    release handle store = .ok () (store.unwrapped handle.id) := by
  have same : ∀ {other}, store.wrappers.get? handle.id = some other → other = wrapper :=
    fun found' => Option.some.inj (found'.symm.trans found)
  cases outcome : release handle store with
  | ok _ after =>
      obtain ⟨_, found', -, released⟩ := ends_release.of_ok outcome
      obtain rfl := same found'
      cases released with
      | last => rw [discarded, if_neg (by simp [unowned])]
      | another several => omega
  | error e after =>
      rcases ends_release.of_error outcome with
        ⟨-, -, dead⟩ | ⟨_, found', -, ⟨none, -⟩ | ⟨-, -, owns, -⟩⟩
      · exact absurd ⟨wrapper, found, isKind⟩ dead
      · obtain rfl := same found'
        omega
      · obtain rfl := same found'
        simp [unowned] at owns

end Store

namespace Simulator

variable {sim : Simulator} {name : ObjectName} {operation : Operation} {history : List Operation}

theorem next_le_after (formed : sim.store.WellFormed) (operation : Operation) (name : ObjectName) :
    sim.store.next name ≤ (sim.after operation).store.next name := by
  have moves := moves_after formed operation
  cases name with
  | native _ => exact moves.nextNative_le formed
  | wrapper _ => exact moves.nextWrapper_le

theorem next_le_replay (formed : sim.store.WellFormed) (history : List Operation)
    (name : ObjectName) : sim.store.next name ≤ (sim.replay history).store.next name := by
  cases name with
  | native _ => exact nextNative_le_replay formed history
  | wrapper _ => exact nextWrapper_le_replay formed history

/-- An operation gives a name to something new just where it counts past the number in the name. -/
theorem has_after_iff (formed : sim.store.WellFormed) (operation : Operation) (name : ObjectName) :
    (¬ sim.store.Has name ∧ (sim.after operation).store.Has name) ↔
      sim.store.next name ≤ name.number ∧
        name.number < (sim.after operation).store.next name := by
  have moves := moves_after formed operation
  have formed' := wellFormed_after formed operation
  constructor
  · rintro ⟨missing, has⟩
    refine ⟨Nat.le_of_not_lt fun below => ?_, has.below formed'⟩
    cases name with
    | native handle => exact has (moves.gone_native formed below (not_not.mp missing))
    | wrapper id => exact has (moves.gone below (not_not.mp missing))
  · rintro ⟨above, below⟩
    refine ⟨fun has => Nat.not_lt.mpr above (has.below formed), ?_⟩
    cases name with
    | native handle => exact moves.named formed above below
    | wrapper id => exact moves.wrapper_named formed above below

/-! ## Names that a history gives -/

/-- An operation of a history gives a name to something new. -/
def Issues (name : ObjectName) (sim : Simulator) : List Operation → Prop
  | [] => False
  | operation :: history =>
      (¬ sim.store.Has name ∧ (sim.after operation).store.Has name) ∨
        (sim.after operation).Issues name history

/-- The names that a history gives are those with the numbers that it counts past. -/
theorem issues_iff (formed : sim.store.WellFormed) :
    sim.Issues name history ↔ sim.store.next name ≤ name.number ∧
      name.number < (sim.replay history).store.next name := by
  induction history generalizing sim with
  | nil => exact ⟨False.elim, fun ⟨above, below⟩ => Nat.not_lt.mpr above below⟩
  | cons operation history ih =>
      have formed' := wellFormed_after formed operation
      have first := next_le_after formed operation name
      have rest := next_le_replay formed' history name
      rw [Issues, has_after_iff formed, ih formed']
      change _ ↔ _ ∧ _ < ((sim.after operation).replay history).store.next name
      omega

/-- A name that is given by a history is given by every longer one. -/
theorem Issues.append (issues : sim.Issues name history) (formed : sim.store.WellFormed)
    (more : List Operation) : sim.Issues name (history ++ more) := by
  rw [issues_iff formed] at issues ⊢
  have later := next_le_replay (wellFormed_replay formed history) more name
  rw [replay_append]
  omega

/-- What is there after an operation was there before, or the operation has given it its name. -/
theorem has_or_issues_cons (name : ObjectName) (has : (sim.after operation).store.Has name)
    (history : List Operation) : sim.store.Has name ∨ sim.Issues name (operation :: history) := by
  by_cases before : sim.store.Has name
  · exact .inl before
  · exact .inr (.inl ⟨before, has⟩)

/-- What is there after a history was there before, or the history has given it its name. -/
theorem has_or_issues (has : (sim.replay history).store.Has name) :
    sim.store.Has name ∨ sim.Issues name history := by
  induction history generalizing sim with
  | nil => exact .inl has
  | cons operation history ih =>
      rcases ih has with middle | issues
      · exact has_or_issues_cons name middle history
      · exact .inr (.inr issues)

/-- An operation that makes a wrapper leaves a live native object. -/
theorem Moves.exists_live {after : Store} (moves : Moves sim operation after)
    (more : sim.store.nextWrapper < after.nextWrapper) :
    ∃ handle, after.natives.get? handle ≠ none := by
  cases moves with
  | grown _ grows =>
      cases grows with
      | refl => exact absurd more (Nat.lt_irrefl _)
      | tail _ growth => exact growth.exists_live
  | recounted | taken => exact absurd more (Nat.lt_irrefl _)
  | discarded | returned => simp at more

/-- Where a history makes a wrapper, there has been a native object to wrap. -/
theorem Issues.exists_native {id : Nat} (issues : sim.Issues (.wrapper id) history)
    (formed : sim.store.WellFormed) :
    ∃ handle, sim.store.Has (.native handle) ∨ sim.Issues (.native handle) history := by
  induction history generalizing sim with
  | nil => contradiction
  | cons operation history ih =>
      have formed' := wellFormed_after formed operation
      rcases issues with made | issues
      · have numbers := (has_after_iff formed operation _).mp made
        obtain ⟨handle, live⟩ := (moves_after formed operation).exists_live
          (Nat.lt_of_le_of_lt numbers.1 numbers.2)
        exact ⟨handle, has_or_issues_cons (.native handle) live history⟩
      · obtain ⟨handle, live | issues⟩ := ih issues formed'
        · exact ⟨handle, has_or_issues_cons (.native handle) live history⟩
        · exact ⟨handle, .inr (.inr issues)⟩

end Simulator

/-! ## Devices of programs -/

namespace Store

variable {store : Store} {known : NativeHandle → Prop}

/-- What is known of all live devices, and of the devices of all programs, is known of the devices
of the programs that are made next. -/
theorem withstood_devices (live : ∀ device, store.HasNative .device device → known device)
    (every : store.EveryProgram fun binary => ∀ device ∈ binary.devices, known device) :
    store.Withstood fun binary => ∀ device ∈ binary.devices, known device := by
  constructor
  case staged => exact fun holds _ => holds
  case linked =>
    intro wanted programs
    refine (ends_linkPrograms_gathers .nil).imp ?_ fun _ _ failed => ⟨failed.1, trivial⟩
    rintro output _ ⟨rfl, inputs, ⟨shows, -⟩, gathers⟩
    refine ⟨rfl, fun device member => ?_⟩
    obtain ⟨input, -, isInput, isDevice⟩ := gathers.exists_lastWith member
    obtain ⟨program, -, native, -, refs, found⟩ :=
      (Simulator.mem_of_forall₂_shows shows input).mp isInput
    exact every native input refs found device isDevice
  case created => exact fun devices _ _ areLive device member => live device (areLive device member)

end Store

namespace Simulator

variable {name : ObjectName} {operation : Operation} {history : List Operation}

theorem wellFormed_start (config : SimulatorConfig) (history : List Operation) :
    (({ config } : Simulator).replay history).store.WellFormed :=
  wellFormed_replay Store.wellFormed_empty history

/-- At the start of a backend nothing has a name. -/
theorem not_has_start (config : SimulatorConfig) (name : ObjectName) :
    ¬ ({ config } : Simulator).store.Has name := by
  cases name with
  | native handle => exact fun has => has rfl
  | wrapper id => exact fun has => has rfl

theorem issues_of_has {config : SimulatorConfig}
    (has : (({ config } : Simulator).replay history).store.Has name) :
    ({ config } : Simulator).Issues name history :=
  (has_or_issues has).resolve_left (not_has_start config name)

/-- The devices of live programs have had their names from the history. -/
theorem devices_issued (config : SimulatorConfig) (history : List Operation) :
    (({ config } : Simulator).replay history).store.EveryProgram fun binary =>
      ∀ device ∈ binary.devices, ({ config } : Simulator).Issues (.native device) history := by
  induction history using List.reverseRecOn with
  | nil => exact fun _ _ _ found => nomatch found
  | append_singleton history operation ih =>
      have withstood := Store.withstood_devices (fun device ⟨object, found, _⟩ =>
        issues_of_has (Option.ne_none_iff_exists'.mpr ⟨object, found⟩)) ih
      have every := everyProgram_after (wellFormed_start config history) withstood ih operation
      rw [replay_concat]
      exact fun handle binary refs found device member =>
        (every handle binary refs found device member).append Store.wellFormed_empty [operation]

/-- Whatever goes by a name has been given it by the history. -/
theorem issues_of_mentions {config : SimulatorConfig}
    (mentions : (({ config } : Simulator).replay history).Mentions name) :
    ({ config } : Simulator).Issues name history := by
  rcases mentions with has | ⟨device, program, binary, refs, rfl, found, staged⟩
  · exact issues_of_has has
  · have tidy : binary.IsTidy :=
      (wellFormed_start config history).tidy program _ found binary rfl
    exact devices_issued config history program binary refs found device ((tidy device).mp staged)

/-! ## Two sorts of numbers -/

theorem issues_native_iff {config : SimulatorConfig} {handle : NativeHandle} :
    ({ config } : Simulator).Issues (.native handle) history ↔ firstNativeId ≤ handle.raw ∧
      handle.raw < (({ config } : Simulator).replay history).store.nextNative :=
  issues_iff Store.wellFormed_empty

theorem issues_wrapper_iff {config : SimulatorConfig} {id : Nat} :
    ({ config } : Simulator).Issues (.wrapper id) history ↔ 1 ≤ id ∧
      id < (({ config } : Simulator).replay history).store.nextWrapper :=
  issues_iff Store.wellFormed_empty

/-- The wrappers that a history makes, by their numbers. -/
def wrappersMade (sim : Simulator) (history : List Operation) : Set Nat :=
  {id | sim.Issues (.wrapper id) history}

theorem ncard_wrappersMade (config : SimulatorConfig) (history : List Operation) :
    (({ config } : Simulator).wrappersMade history).ncard =
      (({ config } : Simulator).replay history).store.nextWrapper - 1 := by
  have interval : ({ config } : Simulator).wrappersMade history =
      ↑(Finset.Ico 1 (({ config } : Simulator).replay history).store.nextWrapper) := by
    ext id
    rw [Finset.coe_Ico, Set.mem_Ico]
    exact issues_wrapper_iff
  rw [interval, Set.ncard_coe_finset, Nat.card_Ico]

/-- A number is given out both ways just where so many wrappers have been made that one of them has
the first number of native objects. -/
theorem exists_shared_iff (config : SimulatorConfig) (history : List Operation) :
    (∃ number, ({ config } : Simulator).Issues (.native ⟨number⟩) history ∧
        ({ config } : Simulator).Issues (.wrapper number) history) ↔
      firstNativeId ≤ (({ config } : Simulator).wrappersMade history).ncard := by
  rw [ncard_wrappersMade]
  constructor
  · rintro ⟨number, native, wrapper⟩
    have above : firstNativeId ≤ number := (issues_native_iff.mp native).1
    have below := (issues_wrapper_iff.mp wrapper).2
    omega
  · intro many
    have wrapper : ({ config } : Simulator).Issues (.wrapper firstNativeId) history := by
      rw [issues_wrapper_iff]
      unfold firstNativeId at many ⊢
      omega
    obtain ⟨handle, live | issued⟩ := wrapper.exists_native Store.wellFormed_empty
    · exact absurd live (not_has_start config _)
    · have numbers := issues_native_iff.mp issued
      refine ⟨firstNativeId, issues_native_iff.mpr ⟨Nat.le_refl _, ?_⟩, wrapper⟩
      exact Nat.lt_of_le_of_lt numbers.1 numbers.2

/-- An operation that names what has not been given that name is denied. -/
theorem denies_of_unissued {config : SimulatorConfig}
    (unissued : ¬ ({ config } : Simulator).Issues name history) (given : name ∈ operation.names) :
    (({ config } : Simulator).replay history).Denies operation :=
  denies_of_missing given fun mentions => unissued (issues_of_mentions mentions)

/-- Once numbers are given out both ways, there is an operation after one more memory object that is
given a name of the wrong sort and is not denied. -/
theorem exists_undenied {config : SimulatorConfig}
    (many : firstNativeId ≤ (({ config } : Simulator).wrappersMade history).ncard) :
    let start : Simulator := { config }
    let longer := history ++ [.caller .createMem]
    ∃ name operation, start.Issues name longer ∧ name.twin ∈ operation.names ∧
      ¬ (start.replay longer).Denies operation := by
  intro start longer
  have made : (start.replay longer).store =
      ((start.replay history).store.created .mem).wrapped .mem
        ⟨(start.replay history).store.nextNative⟩ true 1 := by
    rw [replay_concat]
    rfl
  obtain ⟨number, native, -⟩ := (exists_shared_iff config history).mpr many
  have beyond : firstNativeId < (start.replay history).store.nextNative :=
    Nat.lt_of_le_of_lt (issues_native_iff.mp native).1 (issues_native_iff.mp native).2
  have wrappers : firstNativeId ≤ (start.replay history).store.nextWrapper - 1 :=
    ncard_wrappersMade config history ▸ many
  by_cases fewer :
      (start.replay history).store.nextNative ≤ (start.replay history).store.nextWrapper
  case pos =>
    -- The new native object has a number that a wrapper has had.
    refine ⟨.wrapper (start.replay history).store.nextNative, .caller (.release ⟨_⟩), ?_,
      List.mem_singleton_self _, ?_⟩
    · rw [issues_wrapper_iff, made]
      change 1 ≤ (start.replay history).store.nextNative ∧
        (start.replay history).store.nextNative < (start.replay history).store.nextWrapper + 1
      omega
    · rw [denies_release_iff, made]
      simp [Store.wrapped, Store.created]
  case neg =>
    -- The new wrapper has a number that a native object has had.
    refine ⟨.native ⟨(start.replay history).store.nextWrapper⟩, .caller (.wrapperRefs _), ?_,
      List.mem_singleton_self _, ?_⟩
    · rw [issues_native_iff, made]
      change firstNativeId ≤ (start.replay history).store.nextWrapper ∧
        (start.replay history).store.nextWrapper < (start.replay history).store.nextNative + 1
      omega
    · rw [denies_wrapperRefs_iff, made]
      simp [Store.wrapped, Store.created]

/-- From the start of a backend and over every history, a number is given out both to a native
object and to a wrapper just where at least `firstNativeId` wrappers have been made.  An operation
that is given a name of the wrong sort is denied, unless the number in it has been given out both
ways.  Where that many wrappers have been made, one more memory object is enough for such an
operation that is not denied. -/
theorem numbers_apart_iff (config : SimulatorConfig) (history : List Operation) :
    let start : Simulator := { config }
    let made := (start.wrappersMade history).ncard
    ((∃ number, start.Issues (.native ⟨number⟩) history ∧ start.Issues (.wrapper number) history) ↔
        firstNativeId ≤ made) ∧
      (∀ name operation, start.Issues name history → ¬ start.Issues name.twin history →
        name.twin ∈ operation.names → (start.replay history).Denies operation) ∧
      (firstNativeId ≤ made → let longer := history ++ [.caller .createMem]
        ∃ name operation, start.Issues name longer ∧ name.twin ∈ operation.names ∧
          ¬ (start.replay longer).Denies operation) := by
  intro start made
  refine ⟨exists_shared_iff config history, ?_, exists_undenied⟩
  exact fun _ _ _ unissued given => denies_of_unissued unissued given

/-- The number of the first wrapper is denied as the handle of a native object, and the number of an
event as the handle of a wrapper. -/
theorem numbers_apart_wrapped :
    let start : Simulator := { config := .cuda }
    let history : List Operation :=
      [.caller .createEvent, .caller (.createContext []), .call (.contextCreate ⟨4097⟩ [] false)]
    (start.replay history).Denies (.caller (.release ⟨1⟩)) ∧
      (start.replay history).Denies (.call (.contextNative ⟨4096⟩)) := by
  intro start history
  have denies := (numbers_apart_iff .cuda history).2.1
  constructor
  · refine denies (.wrapper 1) _ ?_ ?_ (List.mem_singleton_self _)
    · exact issues_wrapper_iff.mpr (by decide)
    · exact fun issued => absurd (issues_native_iff.mp issued).1 (by decide)
  · refine denies (.native ⟨4096⟩) _ ?_ ?_ (List.mem_singleton_self _)
    · exact issues_native_iff.mpr (by decide)
    · exact fun issued => absurd (issues_wrapper_iff.mp issued).2 (by decide)

/-! ## A long history -/

/-- A backend with an event and a context, whose context has been wrapped, and the wrapper let go,
some number of times. -/
def rewrapped : Nat → List Operation
  | 0 => [.caller .createEvent, .caller (.createContext [])]
  | count + 1 => rewrapped count ++
      [.call (.contextCreate ⟨4097⟩ [] false), .call (.contextRelease ⟨count + 1⟩)]

/-- Wrappers that have been let go leave nothing behind but the counter. -/
theorem replay_rewrapped (count : Nat) : ∃ calls,
    ({ config := .cuda } : Simulator).replay (rewrapped count) =
      { config := .cuda, calls
        store :=
          { natives := ⟨[(⟨4096⟩, ⟨.event, 1⟩), (⟨4097⟩, ⟨.context [], 1⟩)]⟩
            nextNative := 4098
            nextWrapper := count + 1 } } := by
  induction count with
  | zero => exact ⟨[], rfl⟩
  | succ count ih =>
      obtain ⟨calls, replayed⟩ := ih
      let wrapped : Store :=
        { natives := ⟨[(⟨4096⟩, ⟨.event, 1⟩), (⟨4097⟩, ⟨.context [], 1⟩)]⟩
          wrappers := ⟨[(count + 1, ⟨.context, ⟨4097⟩, 1, false⟩)]⟩
          nextNative := 4098
          nextWrapper := count + 2 }
      have found : wrapped.wrappers.get? (count + 1) = some ⟨.context, ⟨4097⟩, 1, false⟩ :=
        if_pos rfl
      have outcome : Store.release (⟨count + 1⟩ : ContextHandle) wrapped = .ok () _ :=
        Store.release_last found rfl rfl rfl
      have empty : wrapped.unwrapped (count + 1) = { wrapped with wrappers := {} } := by
        simp [wrapped, Store.unwrapped, Ledger.erase]
      refine ⟨calls ++ [.contextCreate ⟨4097⟩ [] false] ++ [.contextRelease ⟨count + 1⟩], ?_⟩
      rw [rewrapped, replay_append, replayed]
      change stateAfter (contextRelease ⟨count + 1⟩ >>= fun _ => pure Answer.done)
        { config := .cuda, store := wrapped
          calls := calls ++ [.contextCreate ⟨4097⟩ [] false] } = _
      rw [stateAfter_bind_pure]
      change stateAfter (onStore (Store.release (⟨count + 1⟩ : ContextHandle))) _ = _
      unfold stateAfter onStore
      dsimp only
      rw [outcome, empty]

/-- The number of the event becomes the number of a wrapper, too, and is not denied where the handle
of a native object is expected. -/
theorem exists_shared_number :
    let start : Simulator := { config := .cuda }
    let history := rewrapped 4095 ++ [.call (.contextCreate ⟨4097⟩ [] false)]
    let operation : Operation := .caller (.release ⟨4096⟩)
    start.Issues (.native ⟨4096⟩) history ∧ start.Issues (.wrapper 4096) history ∧
      (ObjectName.wrapper 4096).twin ∈ operation.names ∧
      ¬ (start.replay history).Denies operation := by
  intro start history operation
  obtain ⟨calls, replayed⟩ := replay_rewrapped 4095
  have last : (start.replay history).store =
      { natives := ⟨[(⟨4096⟩, ⟨.event, 1⟩), (⟨4097⟩, ⟨.context [], 1⟩)]⟩
        wrappers := ⟨[(4096, ⟨.context, ⟨4097⟩, 1, false⟩)]⟩
        nextNative := 4098
        nextWrapper := 4097 } := by
    rw [replay_concat, replayed]
    rfl
  refine ⟨?_, ?_, List.mem_singleton_self _, ?_⟩
  · rw [issues_native_iff, last]
    decide
  · rw [issues_wrapper_iff, last]
    decide
  · rw [denies_release_iff, last]
    decide

end Simulator

end ComputeImport
