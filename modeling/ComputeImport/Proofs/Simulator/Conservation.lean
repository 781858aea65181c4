import Mathlib.Data.Finset.Card
import ComputeImport.Proofs.Simulator.Moves

/-!
# Conservation of references

A native object starts with its creator's reference.  The caller may take and drop references to
it, and a wrapper that owns the object takes one along when it ends.  Whatever is done with a
backend, the references that are left are those that are due by this account, and the object lives
just as long as the account is positive.  So a reference that is dropped has been there.
-/

namespace ComputeImport

namespace Store

/-- A native object has been created under a handle, whether it is still live or not. -/
def HasMade (store : Store) (handle : NativeHandle) : Prop :=
  firstNativeId ≤ handle.raw ∧ handle.raw < store.nextNative

/-- The wrappers that own a native object. -/
def owners (store : Store) (handle : NativeHandle) : Finset Nat :=
  (Finset.range store.nextWrapper).filter fun id =>
    (store.wrappers.get? id).any fun wrapper => wrapper.ownsNative && wrapper.native == handle

theorem mem_owners {store : Store} (formed : store.WellFormed) {handle : NativeHandle} {id : Nat} :
    id ∈ store.owners handle ↔ ∃ wrapper, store.wrappers.get? id = some wrapper ∧
      wrapper.ownsNative = true ∧ wrapper.native = handle := by
  rw [owners, Finset.mem_filter, Finset.mem_range]
  constructor
  · rintro ⟨-, owns⟩
    rw [Option.any_eq_true] at owns
    simpa using owns
  · rintro ⟨wrapper, found, owns⟩
    exact ⟨formed.wrapper_lt id wrapper found, by simpa [found] using owns⟩

end Store

namespace Simulator

variable {sim : Simulator} {handle : NativeHandle}

/-- Whether an operation works. -/
def succeeds (sim : Simulator) : Operation → Bool
  | .caller action => bringsBack (fun _ _ => true) (Session.act action sim)
  | .call call => bringsBack (fun _ _ => true) (answer call sim)

/-- Whether an operation counts the references to a native object directly. -/
def Operation.counts (counting : Counting) (handle : NativeHandle) : Operation → Bool
  | .caller action => action.counted? == some (counting, handle)
  | .call _ => false

/-- The references to a native object that an operation takes or drops directly. -/
def counted (counting : Counting) (handle : NativeHandle) (sim : Simulator)
    (operation : Operation) : Nat :=
  if operation.counts counting handle && sim.succeeds operation then 1 else 0

/-- The wrappers that own a live native object and that an operation destroys. -/
def ended (handle : NativeHandle) (sim : Simulator) (operation : Operation) : Nat :=
  if sim.isAlive handle then
    ((sim.store.owners handle).filter fun id =>
      ¬ (sim.after operation).store.wrappers.contains id).card
  else 0

/-- The sum of what is counted at the operations of a history. -/
def total (counts : Simulator → Operation → Nat) (sim : Simulator) : List Operation → Nat
  | [] => 0
  | operation :: history => counts sim operation + (sim.after operation).total counts history

/-- The references that a native object is due after a history: its creator's and those that have
been taken, less those that have been dropped and those that ending wrappers have taken along. -/
def due (handle : NativeHandle) (sim : Simulator) (history : List Operation) : Int :=
  1 + sim.total (counted .retain handle) history - sim.total (counted .release handle) history -
    sim.total (ended handle) history

theorem total_concat (counts : Simulator → Operation → Nat) (history : List Operation)
    (operation : Operation) :
    sim.total counts (history ++ [operation]) =
      sim.total counts history + counts (sim.replay history) operation := by
  induction history generalizing sim with
  | nil => simp [total, replay]
  | cons first history ih => simp [total, ih, replay, Nat.add_assoc]

theorem replay_concat (history : List Operation) (operation : Operation) :
    sim.replay (history ++ [operation]) = (sim.replay history).after operation := by
  simp [replay]

/-! ## What one operation counts -/

/-- A run brings something back just where it says that it does. -/
theorem bringsBack_eq {ε σ α : Type} {program : EStateM ε σ α} {state : σ} {works : Bool}
    (ends : Ends program state (fun _ _ => works = true) (fun _ _ => works = false)) :
    bringsBack (fun _ _ => true) (program state) = works := by
  cases outcome : program state with
  | ok a after => exact (ends.of_ok outcome).symm
  | error e after => exact (ends.of_error outcome).symm

/-- The caller takes a reference just where the object is live. -/
theorem succeeds_retain : sim.succeeds (.caller (.retain handle)) = sim.isAlive handle := by
  apply bringsBack_eq
  apply ends_act_retain.imp
  · rintro _ _ ⟨object, found, -⟩
    exact isAlive_eq_true found
  · exact fun _ _ failed => isAlive_eq_false failed.2

/-- The caller drops a reference just where the object is live. -/
theorem succeeds_release : sim.succeeds (.caller (.release handle)) = sim.isAlive handle := by
  apply bringsBack_eq
  apply ends_act_release.imp
  · rintro _ _ ⟨⟨object, found⟩, -⟩
    exact isAlive_eq_true found
  · exact fun _ _ failed => isAlive_eq_false failed.2

theorem counted_call (counting : Counting) (call : Call) :
    counted counting handle sim (.call call) = 0 :=
  rfl

theorem counts_iff {counting : Counting} {operation : Operation} :
    operation.counts counting handle = true ↔
      operation = .caller (match counting with
        | .retain => .retain handle
        | .release => .release handle) := by
  cases operation with
  | call call => cases counting <;> simp [Operation.counts]
  | caller action =>
      cases counting <;> cases action <;> simp [Operation.counts, CallerAction.counted?]

/-- Nothing is counted at a native object that is not live. -/
theorem counted_of_dead (dead : sim.store.natives.get? handle = none) (counting : Counting)
    (operation : Operation) : counted counting handle sim operation = 0 := by
  have notAlive := isAlive_eq_false dead
  unfold counted
  by_cases counts : operation.counts counting handle = true
  · have equal := counts_iff.mp counts
    cases counting <;> simp [equal, succeeds_retain, succeeds_release, notAlive]
  · simp [counts]

theorem ended_of_dead (dead : sim.store.natives.get? handle = none) (operation : Operation) :
    ended handle sim operation = 0 := by
  simp [ended, isAlive_eq_false dead]

/-- Where no wrapper ends, none that owns the object does. -/
theorem ended_of_kept {operation : Operation} (formed : sim.store.WellFormed)
    (kept : ∀ id, sim.store.wrappers.get? id ≠ none →
      (sim.after operation).store.wrappers.get? id ≠ none) :
    ended handle sim operation = 0 := by
  unfold ended
  split
  · rw [Finset.card_eq_zero, Finset.filter_eq_empty_iff]
    intro id owner gone
    obtain ⟨wrapper, found, -⟩ := (Store.mem_owners formed).mp owner
    exact gone (Option.isSome_iff_ne_none.mpr (kept id (by simp [found])))
  · rfl

/-- Where one wrapper goes, the object loses an owner if that wrapper owns it. -/
theorem ended_of_erased {operation : Operation} {id : Nat} {wrapper : Wrapper}
    (formed : sim.store.WellFormed) (alive : sim.isAlive handle = true)
    (found : sim.store.wrappers.get? id = some wrapper)
    (erased : (sim.after operation).store.wrappers = sim.store.wrappers.erase id) :
    ended handle sim operation =
      if wrapper.ownsNative ∧ wrapper.native = handle then 1 else 0 := by
  have owner : id ∈ sim.store.owners handle ↔ wrapper.ownsNative ∧ wrapper.native = handle := by
    simp [Store.mem_owners formed, found]
  have lost : ((sim.store.owners handle).filter fun other =>
      ¬ (sim.after operation).store.wrappers.contains other) =
      (sim.store.owners handle).filter (· = id) := by
    apply Finset.filter_congr
    intro other member
    obtain ⟨wrapper', found', -⟩ := (Store.mem_owners formed).mp member
    rw [erased, Ledger.contains, Ledger.get?_erase, found']
    by_cases same : id = other
    · simp [same]
    · simp [same, Ne.symm same]
  rw [ended, if_pos alive, lost, Finset.filter_eq', apply_ite Finset.card]
  simp [owner]

/-- The references to a live native object are balanced at every operation. -/
theorem balance_step (formed : sim.store.WellFormed) (alive : sim.store.natives.get? handle ≠ none)
    (operation : Operation) :
    (sim.after operation).store.refsTo handle + counted .release handle sim operation +
        ended handle sim operation =
      sim.store.refsTo handle + counted .retain handle sim operation := by
  obtain ⟨object, found⟩ := Option.ne_none_iff_exists'.mp alive
  replace alive := isAlive_eq_true found
  have refs := Store.refsTo_of_found found
  have held := formed.held handle object found
  have kept := @ended_of_kept sim handle operation formed
  have erased := @ended_of_erased sim handle operation
  have moves := moves_after formed operation
  generalize (sim.after operation).store = after at moves kept erased ⊢
  cases moves with
  | grown idle grows =>
      have lost : ended handle sim operation = 0 := by
        apply kept
        intro id live
        obtain ⟨wrapper, known⟩ := Option.ne_none_iff_exists'.mp live
        simp [grows.get?_wrappers formed known]
      have uncounted : ∀ counting, counted counting handle sim operation = 0 := by
        intro counting
        by_cases counts : operation.counts counting handle = true
        · have dead := idle handle (by cases counting <;> simp [counts_iff.mp counts])
          simp [dead] at found
        · simp [counted, counts]
      obtain ⟨object', found', same⟩ := (grows.spawns formed).live handle object found
      simp [lost, uncounted, Store.refsTo_of_found found', refs, same]
  | recounted isCall _ known =>
      have lost : ended handle sim operation = 0 := by
        apply kept
        intro id live
        rw [Store.recounted, Ledger.get?_set]
        split
        · simp
        · exact live
      subst isCall
      simp [lost, counted_call, Store.refsTo, Store.natives_recounted]
  | discarded isCall _ known =>
      subst isCall
      rw [erased formed alive known (Store.wrappers_discarded _ _ _), Store.refsTo_discarded,
        counted_call, counted_call]
      split <;> omega
  | @taken other object' isCaller known =>
      have lost : ended handle sim operation = 0 := kept fun _ live => live
      subst isCaller
      rw [lost, Store.refsTo_recorded]
      by_cases same : other = handle
      · subst same
        obtain rfl := Option.some.inj (found.symm.trans known)
        simp [counted, Operation.counts, CallerAction.counted?, succeeds_retain, alive, refs]
      · simp [counted, Operation.counts, CallerAction.counted?, same]
  | @returned other object' isCaller known =>
      have lost : ended handle sim operation = 0 := kept fun _ live => by simpa using live
      subst isCaller
      rw [lost, Store.refsTo_dropped]
      by_cases same : other = handle
      · subst same
        simp [counted, Operation.counts, CallerAction.counted?, succeeds_release, alive]
        omega
      · simp [counted, Operation.counts, CallerAction.counted?, same]

/-! ## The account of a history -/

/-- What holds of a native object after a history that has begun before the object.  Once it has
been created, its references and those that it has lost are those that it has been given; before,
nothing is counted. -/
structure Balanced (handle : NativeHandle) (sim : Simulator) (history : List Operation) : Prop where
  account : handle.raw < (sim.replay history).store.nextNative →
    (sim.replay history).store.refsTo handle + sim.total (counted .release handle) history +
      sim.total (ended handle) history = 1 + sim.total (counted .retain handle) history
  unborn : (sim.replay history).store.nextNative ≤ handle.raw →
    sim.total (counted .release handle) history = 0 ∧ sim.total (ended handle) history = 0 ∧
      sim.total (counted .retain handle) history = 0

theorem refsTo_of_dead {store : Store} (dead : store.natives.get? handle = none) :
    store.refsTo handle = 0 := by
  simp [Store.refsTo, dead]

theorem Balanced.snoc {history : List Operation} (formed : (sim.replay history).store.WellFormed)
    (balanced : Balanced handle sim history) (operation : Operation) :
    Balanced handle sim (history ++ [operation]) := by
  have moves := moves_after formed operation
  have later := moves.nextNative_le formed
  have step := @balance_step _ handle formed
  rcases balanced with ⟨account, unborn⟩
  by_cases dead : (sim.replay history).store.natives.get? handle = none
  case pos =>
    -- Nothing is counted at an object that is gone or has not been created.
    have uncounted := fun counting => counted_of_dead dead counting operation
    have unended := ended_of_dead dead operation
    have none := refsTo_of_dead dead
    constructor <;> simp only [total_concat, replay_concat, uncounted, unended]
    · intro below
      by_cases early : handle.raw < (sim.replay history).store.nextNative
      · have balance := account early
        rw [refsTo_of_dead (moves.gone_native formed early dead)]
        omega
      · have above := Nat.le_of_not_lt early
        have created := moves.named formed above below
        obtain ⟨object, found⟩ := Option.ne_none_iff_exists'.mp created
        have nothing := unborn above
        rw [Store.refsTo_of_found found, (moves.born formed dead found).2]
        omega
    · intro above
      exact unborn (Nat.le_trans later above)
  case neg =>
    obtain ⟨object, found⟩ := Option.ne_none_iff_exists'.mp dead
    have below := formed.native_lt handle object found
    have balance := account below
    constructor <;> simp only [total_concat, replay_concat]
    · intro _
      have step := step dead operation
      omega
    · intro above
      exact absurd (Nat.le_trans later above) (Nat.not_le.mpr below)

/-- The account of a native object that a history may create is balanced. -/
theorem balanced_replay (formed : sim.store.WellFormed) (later : sim.store.nextNative ≤ handle.raw)
    (history : List Operation) : Balanced handle sim history := by
  induction history using List.reverseRecOn with
  | nil =>
      constructor
      · exact fun below => absurd later (Nat.not_le.mpr below)
      · exact fun _ => ⟨rfl, rfl, rfl⟩
  | append_singleton history operation ih =>
      exact ih.snoc (wellFormed_replay formed history) operation

/-- The references that are left are those that are due. -/
theorem Balanced.refsTo_eq {history : List Operation} (balanced : Balanced handle sim history)
    (below : handle.raw < (sim.replay history).store.nextNative) :
    ((sim.replay history).store.refsTo handle : Int) = sim.due handle history := by
  have account := balanced.account below
  unfold due
  omega

/-- A native object is live just as long as it has references. -/
theorem nativeRefs?_eq (formed : sim.store.WellFormed) (handle : NativeHandle) :
    sim.nativeRefs? handle =
      if 0 < sim.store.refsTo handle then some (sim.store.refsTo handle) else none := by
  cases found : sim.store.natives.get? handle with
  | none => simp [nativeRefs?, Store.refsTo, found]
  | some object =>
      have held := formed.held handle object found
      simp [nativeRefs?, Store.refsTo, found, held]

theorem isAlive_iff (formed : sim.store.WellFormed) :
    sim.isAlive handle = true ↔ 0 < sim.store.refsTo handle := by
  cases found : sim.store.natives.get? handle with
  | none => simp [isAlive_eq_false found, Store.refsTo, found]
  | some object =>
      have held := formed.held handle object found
      simpa [isAlive_eq_true found, Store.refsTo, found] using held

/-- An operation that does not count the references to an object leaves them as they are. -/
theorem refsTo_after (formed : sim.store.WellFormed) (below : handle.raw < sim.store.nextNative)
    {operation : Operation} (untaken : counted .retain handle sim operation = 0)
    (undropped : counted .release handle sim operation = 0)
    (unended : ended handle sim operation = 0) :
    (sim.after operation).store.refsTo handle = sim.store.refsTo handle := by
  by_cases dead : sim.store.natives.get? handle = none
  case pos =>
    have gone := (moves_after formed operation).gone_native formed below dead
    rw [refsTo_of_dead gone, refsTo_of_dead dead]
  case neg =>
    have step := balance_step formed dead operation
    omega

/-- From the start of a backend, the references that are left of a native object that has been
created are those that are due. -/
theorem refsTo_eq_due (config : SimulatorConfig) (history : List Operation)
    (made : (({ config } : Simulator).replay history).store.HasMade handle) :
    ((({ config } : Simulator).replay history).store.refsTo handle : Int) =
      ({ config } : Simulator).due handle history :=
  (balanced_replay Store.wellFormed_empty made.1 history).refsTo_eq made.2

/-- From the start of a backend and over every history, each native object that has been created
has the references that are due to it, and is destroyed at the operation at which none is due any
more.  The operations that do not count its references leave them as they are. -/
theorem references_conserved (config : SimulatorConfig) (history : List Operation) :
    let start : Simulator := { config }
    let sim := start.replay history
    (∀ handle refs, sim.nativeRefs? handle = some refs → 1 ≤ refs) ∧
    ∀ handle, sim.store.HasMade handle →
      0 ≤ start.due handle history ∧
      sim.nativeRefs? handle =
        (if 0 < start.due handle history then some (start.due handle history).toNat else none) ∧
      ∀ operation,
        (sim.isAlive handle = true ∧ (sim.after operation).isAlive handle = false ↔
          0 < start.due handle history ∧ start.due handle (history ++ [operation]) = 0) ∧
        (counted .retain handle sim operation = 0 → counted .release handle sim operation = 0 →
          ended handle sim operation = 0 →
          (sim.after operation).nativeRefs? handle = sim.nativeRefs? handle) := by
  intro start sim
  have formed : sim.store.WellFormed := wellFormed_replay Store.wellFormed_empty history
  constructor
  · intro handle refs found
    rw [nativeRefs?, Option.map_eq_some_iff] at found
    obtain ⟨object, found, rfl⟩ := found
    exact formed.held handle object found
  intro handle made
  have due : (sim.store.refsTo handle : Int) = start.due handle history :=
    refsTo_eq_due config history made
  have refs := nativeRefs?_eq formed handle
  constructor
  · rw [← due]
    exact Int.natCast_nonneg _
  constructor
  · rw [refs, ← due]
    simp
  intro operation
  have formed' := wellFormed_after formed operation
  constructor
  · have later := (moves_after formed operation).nextNative_le formed
    have due' : ((sim.after operation).store.refsTo handle : Int) =
        start.due handle (history ++ [operation]) := by
      have balanced := @refsTo_eq_due handle config (history ++ [operation])
      rw [replay_concat] at balanced
      exact balanced ⟨made.1, Nat.lt_of_lt_of_le made.2 later⟩
    rw [isAlive_iff formed, ← Bool.not_eq_true, isAlive_iff formed', ← due, ← due']
    omega
  · intro untaken undropped unended
    rw [refs, nativeRefs?_eq formed', refsTo_after formed made.2 untaken undropped unended]

/-- A linked program that the caller keeps outlives its wrapper, and goes with the caller's
reference. -/
theorem references_conserved_linked :
    let start : Simulator := { config := .cuda }
    let history : List Operation :=
      [.caller .createPlatform, .caller (.createDevice ⟨4096⟩), .caller (.createContext [⟨4097⟩]),
        .call (.contextCreate ⟨4098⟩ [] true), .caller (.createProgram [⟨4097⟩] .object []),
        .call (.programCreate ⟨4099⟩ ⟨1⟩ false), .call (.programLink ⟨1⟩ [⟨2⟩] none),
        .caller (.retain ⟨4100⟩), .call (.programRelease ⟨3⟩)]
    let sim := start.replay history
    sim.store.HasMade ⟨4100⟩ ∧ start.due ⟨4100⟩ history = 1 ∧
      sim.nativeRefs? ⟨4100⟩ = some 1 ∧
      sim.isAlive ⟨4100⟩ = true ∧ (sim.after (.caller (.release ⟨4100⟩))).isAlive ⟨4100⟩ = false ∧
      (sim.after (.call (.contextRelease ⟨1⟩))).nativeRefs? ⟨4100⟩ = sim.nativeRefs? ⟨4100⟩ := by
  intro start history sim
  have made : sim.store.HasMade ⟨4100⟩ := by
    unfold Store.HasMade
    decide +kernel
  have due : start.due ⟨4100⟩ history = 1 := by decide +kernel
  obtain ⟨-, refs, counts⟩ := (references_conserved .cuda history).2 ⟨4100⟩ made
  have destroyed := (counts (.caller (.release ⟨4100⟩))).1.mpr
    ⟨by decide +kernel, by decide +kernel⟩
  have kept := (counts (.call (.contextRelease ⟨1⟩))).2 rfl rfl (by decide +kernel)
  refine ⟨made, due, ?_, destroyed.1, destroyed.2, kept⟩
  exact refs.trans (by decide +kernel)

end Simulator

end ComputeImport
