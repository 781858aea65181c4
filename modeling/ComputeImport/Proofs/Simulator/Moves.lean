import ComputeImport.Proofs.Simulator.History
import ComputeImport.Proofs.Store.Counts

/-!
# What an operation makes of the store

Whatever is done with a backend, and whether it works or not, the store has grown, or one wrapper
has been counted anew or has ended, or the caller has taken or dropped one reference to a native
object.  `Moves` lists these cases for any operation, and every invariant of the store that speaks
of references or numbers follows from them.
-/

namespace ComputeImport.Simulator

variable {sim : Simulator}

theorem isAlive_eq_false {handle : NativeHandle} (dead : sim.store.natives.get? handle = none) :
    sim.isAlive handle = false := by
  rw [isAlive, Ledger.contains, dead]
  rfl

theorem isAlive_eq_true {handle : NativeHandle} {object : NativeObject}
    (found : sim.store.natives.get? handle = some object) : sim.isAlive handle = true := by
  rw [isAlive, Ledger.contains, found]
  rfl

/-- Whether an operation is a call that drops a reference to a wrapper. -/
def Operation.releases (id : Nat) : Operation → Bool
  | .caller _ => false
  | .call made =>
      match made.counted? with
      | some (.release, _, other) => other == id
      | _ => false

/-- What an operation makes of the store. -/
inductive Moves (sim : Simulator) (operation : Operation) : Store → Prop
  | grown {after : Store}
      (idle : ∀ handle, operation = .caller (.retain handle) ∨
        operation = .caller (.release handle) → sim.store.natives.get? handle = none)
      (grows : sim.store.Grows (fun _ => True) after) : Moves sim operation after
  | recounted {call : Call} {counting : Counting} {kind : ObjectKind} {id refs : Nat}
      {wrapper : Wrapper} (isCall : operation = .call call)
      (counted : call.counted? = some (counting, kind, id))
      (found : sim.store.wrappers.get? id = some wrapper) :
      Moves sim operation (sim.store.recounted id { wrapper with refs })
  | discarded {call : Call} {kind : ObjectKind} {id : Nat} {wrapper : Wrapper}
      (isCall : operation = .call call) (counted : call.counted? = some (.release, kind, id))
      (found : sim.store.wrappers.get? id = some wrapper) :
      Moves sim operation (sim.store.discarded id wrapper)
  | taken {handle : NativeHandle} {object : NativeObject}
      (isCaller : operation = .caller (.retain handle))
      (found : sim.store.natives.get? handle = some object) :
      Moves sim operation (sim.store.recorded handle { object with refs := object.refs + 1 })
  | returned {handle : NativeHandle} {object : NativeObject}
      (isCaller : operation = .caller (.release handle))
      (found : sim.store.natives.get? handle = some object) :
      Moves sim operation (sim.store.dropped handle)

section Calls

variable {call : Call}

/-- A call that leaves the store as it is. -/
theorem Moves.still {store : Store} (unchanged : store = sim.store) :
    Moves sim (.call call) store := by
  subst unchanged
  apply Moves.grown
  · rintro handle (equal | equal) <;> contradiction
  · exact .refl _

/-- Dropping a reference to a wrapper ends it or counts it anew. -/
theorem Moves.released {store : Store} {kind : ObjectKind} {id : Nat} {wrapper : Wrapper}
    (counted : call.counted? = some (.release, kind, id))
    (found : sim.store.wrappers.get? id = some wrapper)
    (released : sim.store.Released id wrapper store) : Moves sim (.call call) store := by
  cases released with
  | last => exact .discarded rfl counted found
  | another => exact .recounted rfl counted found

theorem moves_call (formed : sim.store.WellFormed) (call : Call) :
    Moves sim (.call call) (sim.after (.call call)).store := by
  suffices ends : Ends (answer call) sim (fun _ after => Moves sim (.call call) after.store)
      (fun _ after => Moves sim (.call call) after.store) from ends_stateAfter.mp ends
  cases counted : call.counted? with
  | none =>
      have grows := extends_answer (Call.uncounted_entryPoint counted) formed
      have moves : ∀ {wraps : ObjectKind → Prop} (after : Simulator),
          sim.store.Grows wraps after.store → Moves sim (.call call) after.store := by
        intro wraps after grown
        apply Moves.grown
        · rintro handle (equal | equal) <;> contradiction
        · exact grown.mono fun _ _ => trivial
      exact grows.imp (fun _ => moves) fun _ => moves
  | some what =>
      rcases what with ⟨counting | counting, kind, id⟩
      · apply (answers_retained counted).keeps (.still rfl)
        · rintro _ _ ⟨wrapper, found, -, rfl⟩
          exact .recounted rfl counted found
        · rintro _ _ ⟨unchanged, -⟩
          exact .still unchanged
      · apply (answers_released counted).keeps (.still rfl)
        · rintro _ _ ⟨wrapper, found, -, released⟩
          exact .released counted found released
        · rintro _ _ (⟨unchanged, -⟩ | ⟨wrapper, found, -, ⟨-, unchanged, -⟩ | ⟨released, -⟩⟩)
          · exact .still unchanged
          · exact .still unchanged
          · exact .released counted found released

end Calls

theorem moves_caller (action : CallerAction) :
    Moves sim (.caller action) (sim.after (.caller action)).store := by
  suffices ends : Ends (Session.act action) sim
      (fun _ after => Moves sim (.caller action) after.store)
      (fun _ after => Moves sim (.caller action) after.store) from ends_stateAfter.mp ends
  cases counted : action.counted? with
  | none =>
      have moves : ∀ {wraps : ObjectKind → Prop} (after : Simulator),
          sim.store.Grows wraps after.store → Moves sim (.caller action) after.store := by
        intro wraps after grown
        apply Moves.grown
        · rintro handle (equal | equal) <;> cases equal <;> contradiction
        · exact grown.mono fun _ _ => trivial
      exact (extends_act counted).imp (fun _ => moves) fun _ => moves
  | some what =>
      cases action with
      | retain handle =>
          apply ends_act_retain.imp
          · rintro _ _ ⟨object, found, rfl⟩
            exact .taken rfl found
          · rintro _ _ ⟨rfl, dead⟩
            apply Moves.grown
            · rintro other (equal | equal) <;> cases equal
              exact dead
            · exact .refl _
      | release handle =>
          apply ends_act_release.imp
          · rintro _ _ ⟨⟨object, found⟩, rfl⟩
            exact .returned rfl found
          · rintro _ _ ⟨rfl, dead⟩
            have unchanged : sim.store.dropped handle = sim.store := by
              rw [Store.dropped, dead]
            apply Moves.grown
            · rintro other (equal | equal) <;> cases equal
              exact dead
            · rw [unchanged]
              exact .refl _
      | _ => cases counted

theorem moves_after (formed : sim.store.WellFormed) (operation : Operation) :
    Moves sim operation (sim.after operation).store := by
  cases operation with
  | caller action => exact moves_caller action
  | call call => exact moves_call formed call

/-! ## Numbers are not used twice -/

namespace Moves

variable {operation : Operation} {after : Store} {id : Nat} {handle : NativeHandle}

theorem nextWrapper_le (moves : Moves sim operation after) :
    sim.store.nextWrapper ≤ after.nextWrapper := by
  cases moves with
  | grown _ grows => exact grows.nextWrapper_le
  | recounted | taken => exact Nat.le_refl _
  | discarded | returned => simp

theorem nextNative_le (moves : Moves sim operation after) (formed : sim.store.WellFormed) :
    sim.store.nextNative ≤ after.nextNative := by
  cases moves with
  | grown _ grows => exact (grows.spawns formed).bound
  | recounted | taken => exact Nat.le_refl _
  | discarded | returned => simp

/-- A live wrapper that is not released lives on. -/
theorem lives (moves : Moves sim operation after) (formed : sim.store.WellFormed)
    (unreleased : operation.releases id = false) (live : sim.store.wrappers.get? id ≠ none) :
    after.wrappers.get? id ≠ none := by
  obtain ⟨wrapper, found⟩ := Option.ne_none_iff_exists'.mp live
  cases moves with
  | grown _ grows => simp [grows.get?_wrappers formed found]
  | recounted =>
      rw [Store.recounted, Ledger.get?_set]
      split <;> simp [found]
  | discarded isCall counted =>
      subst isCall
      simp only [Operation.releases, counted, beq_eq_false_iff_ne] at unreleased
      simp [unreleased, found]
  | taken => simp [Store.recorded, found]
  | returned => simp [found]

/-- A number that was in use names the wrapper that it named before, counted anew at most. -/
theorem wrapper_eq (moves : Moves sim operation after) (below : id < sim.store.nextWrapper)
    {wrapper : Wrapper} (found : after.wrappers.get? id = some wrapper) :
    ∃ refs, sim.store.wrappers.get? id = some { wrapper with refs } := by
  cases moves with
  | grown _ grows =>
      rcases grows.wrappers_cases found with found | ⟨above, -⟩
      · exact ⟨wrapper.refs, found⟩
      · exact absurd (Nat.lt_of_lt_of_le below above) (Nat.lt_irrefl id)
  | recounted _ _ known =>
      rcases Store.recounted_cases found with ⟨rfl, rfl⟩ | found
      · exact ⟨_, known⟩
      · exact ⟨wrapper.refs, found⟩
  | discarded =>
      rw [Store.wrappers_discarded, Ledger.get?_erase] at found
      split at found
      · contradiction
      · exact ⟨wrapper.refs, found⟩
  | taken => exact ⟨wrapper.refs, found⟩
  | returned =>
      rw [Store.wrappers_dropped] at found
      exact ⟨wrapper.refs, found⟩

/-- The number of a wrapper that has ended is not used again. -/
theorem gone (moves : Moves sim operation after) (below : id < sim.store.nextWrapper)
    (dead : sim.store.wrappers.get? id = none) : after.wrappers.get? id = none := by
  rw [Option.eq_none_iff_forall_ne_some]
  intro wrapper found
  obtain ⟨refs, known⟩ := moves.wrapper_eq below found
  rw [dead] at known
  contradiction

/-- A native object that comes to be has a new number, and one reference. -/
theorem born (moves : Moves sim operation after) (formed : sim.store.WellFormed)
    (dead : sim.store.natives.get? handle = none) {object : NativeObject}
    (found : after.natives.get? handle = some object) :
    sim.store.nextNative ≤ handle.raw ∧ object.refs = 1 := by
  cases moves with
  | grown _ grows => exact (grows.spawns formed).new handle object found dead
  | recounted =>
      rw [Store.natives_recounted, dead] at found
      contradiction
  | discarded =>
      rw [Store.get?_discarded_of_dead dead] at found
      contradiction
  | taken _ known =>
      rcases Store.recorded_cases found with ⟨rfl, -⟩ | found
      · rw [dead] at known
        contradiction
      · rw [dead] at found
        contradiction
  | returned =>
      rw [Store.get?_dropped_of_dead dead] at found
      contradiction

/-- The number of a native object that is gone is not used again. -/
theorem gone_native (moves : Moves sim operation after) (formed : sim.store.WellFormed)
    (below : handle.raw < sim.store.nextNative) (dead : sim.store.natives.get? handle = none) :
    after.natives.get? handle = none := by
  rw [Option.eq_none_iff_forall_ne_some]
  intro object found
  exact Nat.lt_irrefl _ (Nat.lt_of_lt_of_le below (moves.born formed dead found).1)

/-- What was known of a native object is known of it still, unless it is a program. -/
theorem becomes (moves : Moves sim operation after) (formed : sim.store.WellFormed)
    (below : handle.raw < sim.store.nextNative) {object : NativeObject}
    (found : after.natives.get? handle = some object) :
    ∃ old, sim.store.natives.get? handle = some old ∧ old.data.Becomes object.data := by
  cases moves with
  | grown _ grows => exact grows.becomes formed below found
  | recounted => exact ⟨object, found, .refl _⟩
  | discarded =>
      obtain ⟨refs, known⟩ := Store.sameData_discarded handle object found
      exact ⟨_, known, .refl _⟩
  | taken _ known =>
      rcases Store.recorded_cases found with ⟨rfl, rfl⟩ | found
      · exact ⟨_, known, .refl _⟩
      · exact ⟨object, found, .refl _⟩
  | returned =>
      obtain ⟨refs, known⟩ := Store.sameData_dropped _ handle object found
      exact ⟨_, known, .refl _⟩

/-- A call that drops no reference to a wrapper leaves every native object its references. -/
theorem keeps_refs {call : Call} (moves : Moves sim (.call call) after)
    (formed : sim.store.WellFormed)
    (unreleased : ∀ kind id, call.counted? ≠ some (.release, kind, id)) {object : NativeObject}
    (found : sim.store.natives.get? handle = some object) :
    ∃ object', after.natives.get? handle = some object' ∧ object'.refs = object.refs := by
  cases moves with
  | grown _ grows => exact (grows.spawns formed).live handle object found
  | recounted => exact ⟨object, found, rfl⟩
  | discarded isCall counted =>
      cases isCall
      exact absurd counted (unreleased _ _)
  | taken isCaller => cases isCaller
  | returned isCaller => cases isCaller

/-- A number that has been given out names a native object. -/
theorem named (moves : Moves sim operation after) (formed : sim.store.WellFormed)
    (above : sim.store.nextNative ≤ handle.raw) (below : handle.raw < after.nextNative) :
    after.natives.get? handle ≠ none := by
  have unused : ∀ {store : Store}, store.nextNative = sim.store.nextNative →
      ¬ handle.raw < store.nextNative := by
    intro store same
    rw [same]
    exact Nat.not_lt.mpr above
  cases moves with
  | grown _ grows => exact (grows.spawns formed).named handle above below
  | recounted | taken => exact absurd below (unused rfl)
  | discarded => exact absurd below (unused (Store.nextNative_discarded _ _ _))
  | returned => exact absurd below (unused (Store.nextNative_dropped _ _))

end Moves

/-! ## Over a history -/

section History

variable {history : List Operation} {id : Nat} {handle : NativeHandle}

theorem nextWrapper_le_replay (formed : sim.store.WellFormed) (history : List Operation) :
    sim.store.nextWrapper ≤ (sim.replay history).store.nextWrapper := by
  induction history generalizing sim with
  | nil => exact Nat.le_refl _
  | cons operation history ih =>
      exact Nat.le_trans (moves_after formed operation).nextWrapper_le
        (ih (wellFormed_after formed operation))

theorem nextNative_le_replay (formed : sim.store.WellFormed) (history : List Operation) :
    sim.store.nextNative ≤ (sim.replay history).store.nextNative := by
  induction history generalizing sim with
  | nil => exact Nat.le_refl _
  | cons operation history ih =>
      exact Nat.le_trans ((moves_after formed operation).nextNative_le formed)
        (ih (wellFormed_after formed operation))

/-- A number that was in use names the wrapper that it named before, counted anew at most. -/
theorem wrapper_replay (formed : sim.store.WellFormed) (below : id < sim.store.nextWrapper)
    {wrapper : Wrapper} (found : (sim.replay history).store.wrappers.get? id = some wrapper) :
    ∃ refs, sim.store.wrappers.get? id = some { wrapper with refs } := by
  induction history generalizing sim with
  | nil => exact ⟨wrapper.refs, found⟩
  | cons operation history ih =>
      have moves := moves_after formed operation
      have below' := Nat.lt_of_lt_of_le below moves.nextWrapper_le
      obtain ⟨refs, found⟩ := ih (wellFormed_after formed operation) below' found
      obtain ⟨refs', found⟩ := moves.wrapper_eq below found
      exact ⟨refs', found⟩

/-- What was known of a native object is known of it still, unless it is a program. -/
theorem becomes_replay (formed : sim.store.WellFormed) (below : handle.raw < sim.store.nextNative)
    {object : NativeObject} (found : (sim.replay history).store.natives.get? handle = some object) :
    ∃ old, sim.store.natives.get? handle = some old ∧ old.data.Becomes object.data := by
  induction history generalizing sim with
  | nil => exact ⟨object, found, .refl _⟩
  | cons operation history ih =>
      have moves := moves_after formed operation
      have below' := Nat.lt_of_lt_of_le below (moves.nextNative_le formed)
      obtain ⟨middle, found, becomes⟩ := ih (wellFormed_after formed operation) below' found
      obtain ⟨old, found, becomes'⟩ := moves.becomes formed below found
      exact ⟨old, found, becomes'.trans becomes⟩

/-- A native object that is gone stays gone. -/
theorem gone_replay (formed : sim.store.WellFormed) (below : handle.raw < sim.store.nextNative)
    (dead : sim.store.natives.get? handle = none) (history : List Operation) :
    (sim.replay history).store.natives.get? handle = none := by
  rw [Option.eq_none_iff_forall_ne_some]
  intro object found
  obtain ⟨old, known, -⟩ := becomes_replay formed below found
  rw [dead] at known
  contradiction

end History

end ComputeImport.Simulator
