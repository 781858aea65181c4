import ComputeImport.Proofs.Simulator.Conservation

/-!
# Clean histories

In a clean history, every reference that is taken to a wrapper is its first, and every reference
that is dropped is its only one.  Then every wrapper that has ended has been released once, no
release fails at the wrapper itself, and the references to a native object add up: those that it
has and those that have been dropped are those that have been taken, with its creator's.
-/

namespace ComputeImport

/-- The kinds of wrappers whose references are counted. -/
def ObjectKind.isCounted : ObjectKind → Bool
  | context | queue | event | program | kernel => true
  | platform | device | mem => false

/-- The references that a wrapper has before they are counted in one way. -/
def Counting.expected : Counting → Nat
  | retain => 0
  | release => 1

theorem ObjectKind.ordinary_of_isCounted {kind : ObjectKind} (counted : kind.isCounted = true) :
    kind ≠ .platform ∧ kind ≠ .device := by
  cases kind <;> simp_all [isCounted]

namespace Simulator

variable {sim : Simulator}

/-! ## Operations that count -/

/-- Whether the caller takes a reference to a live native object. -/
def takes (handle : NativeHandle) (sim : Simulator) : Operation → Bool
  | .caller (.retain other) => other == handle && sim.isAlive handle
  | _ => false

/-- Whether the caller drops a reference to a live native object. -/
def returns (handle : NativeHandle) (sim : Simulator) : Operation → Bool
  | .caller (.release other) => other == handle && sim.isAlive handle
  | _ => false

/-- Whether a wrapper that owns a live native object is released. -/
def surrenders (handle : NativeHandle) (sim : Simulator) : Operation → Bool
  | .caller _ => false
  | .call made =>
      match made.counted? with
      | some (.release, _, id) =>
          match sim.store.wrappers.get? id with
          | some wrapper => wrapper.ownsNative && wrapper.native == handle && sim.isAlive handle
          | none => false
      | _ => false

/-- How often something is the case at the operations of a history. -/
def tally (counts : Simulator → Operation → Bool) (sim : Simulator) : List Operation → Nat
  | [] => 0
  | operation :: history =>
      (counts sim operation).toNat + (sim.after operation).tally counts history

/-- An operation that counts the references to a wrapper is not told to fail, and finds a live
wrapper of its kind, without a reference where it takes one, and with a single one where it drops
one. -/
def Accepts (sim : Simulator) : Operation → Prop
  | .caller _ => True
  | .call call => ∀ counting kind id, call.counted? = some (counting, kind, id) →
      sim.failures.get? call.entryPoint = none ∧
      ∃ wrapper, sim.store.wrappers.get? id = some wrapper ∧ wrapper.data.kind = kind ∧
        wrapper.refs = counting.expected

/-- Every operation of a history is accepted where it happens. -/
def Clean (sim : Simulator) : List Operation → Prop
  | [] => True
  | operation :: history => sim.Accepts operation ∧ (sim.after operation).Clean history

theorem clean_append {first second : List Operation} :
    sim.Clean (first ++ second) ↔ sim.Clean first ∧ (sim.replay first).Clean second := by
  induction first generalizing sim with
  | nil => exact ⟨fun clean => ⟨trivial, clean⟩, fun clean => clean.2⟩
  | cons operation first ih =>
      rw [List.cons_append, Clean, Clean, ih, and_assoc]
      exact Iff.rfl

theorem accepts_uncounted {call : Call} (uncounted : call.counted? = none) :
    sim.Accepts (.call call) := by
  intro counting kind id counted
  rw [uncounted] at counted
  contradiction

/-- A reference that is accepted is taken. -/
theorem ends_accepted_retain {call : Call} {kind : ObjectKind} {id : Nat}
    (accepts : sim.Accepts (.call call)) (counted : call.counted? = some (.retain, kind, id)) :
    Ends (answer call) sim
      (fun _ after => ∃ wrapper, sim.store.wrappers.get? id = some wrapper ∧
        wrapper.data.kind = kind ∧ wrapper.refs = 0 ∧
        after.store = sim.store.recounted id { wrapper with refs := 1 })
      (fun _ _ => False) := by
  obtain ⟨unset, wrapper, found, isKind, refs⟩ := accepts _ _ _ counted
  apply Ends.imp (answers_retained counted)
  · rintro _ after ⟨-, -, wrapper', found', -, equal⟩
    obtain rfl := Option.some.inj (found.symm.trans found')
    refine ⟨wrapper, found, isKind, refs, ?_⟩
    rw [equal, refs]
    rfl
  · rintro e after ⟨-, ⟨injected, -⟩ | ⟨-, -, -, dead⟩⟩
    · rw [unset] at injected
      contradiction
    · exact dead ⟨wrapper, found, isKind⟩

/-- A reference that may be dropped is dropped, and its wrapper ends, even where the native object
that the wrapper owns is gone and the call fails for that. -/
theorem ends_accepted_release {call : Call} {kind : ObjectKind} {id : Nat}
    (accepts : sim.Accepts (.call call)) (counted : call.counted? = some (.release, kind, id)) :
    Ends (answer call) sim
      (fun _ after => ∃ wrapper, sim.store.wrappers.get? id = some wrapper ∧
        wrapper.data.kind = kind ∧ wrapper.refs = 1 ∧
        after.store = sim.store.discarded id wrapper)
      (fun e after => ∃ wrapper, sim.store.wrappers.get? id = some wrapper ∧
        wrapper.data.kind = kind ∧ wrapper.refs = 1 ∧
        after.store = sim.store.discarded id wrapper ∧
        sim.store.natives.get? wrapper.native = none ∧
        e = .invalidNativeHandle "object" wrapper.native) := by
  obtain ⟨unset, wrapper, found, isKind, refs⟩ := accepts _ _ _ counted
  replace refs : wrapper.refs = 1 := refs
  have ended : ∀ {after : Store}, sim.store.Released id wrapper after →
      after = sim.store.discarded id wrapper := by
    intro after released
    cases released with
    | last => rfl
    | another more =>
        rw [refs] at more
        cases more
  apply Ends.imp (answers_released counted)
  · rintro _ after ⟨-, -, wrapper', found', -, released⟩
    obtain rfl := Option.some.inj (found.symm.trans found')
    exact ⟨wrapper, found, isKind, refs, ended released⟩
  · rintro e after ⟨-, ⟨injected, -⟩ | ⟨-, ⟨-, -, dead⟩ | ⟨wrapper', found', -, cause⟩⟩⟩
    · rw [unset] at injected
      contradiction
    · exact absurd ⟨wrapper, found, isKind⟩ dead
    · obtain rfl := Option.some.inj (found.symm.trans found')
      rcases cause with ⟨empty, -⟩ | ⟨released, -, -, gone, cause⟩
      · rw [refs] at empty
        contradiction
      · exact ⟨wrapper, found, isKind, refs, ended released, gone, cause⟩

theorem after_retain {call : Call} {kind : ObjectKind} {id : Nat}
    (accepts : sim.Accepts (.call call)) (counted : call.counted? = some (.retain, kind, id)) :
    ∃ wrapper, sim.store.wrappers.get? id = some wrapper ∧ wrapper.data.kind = kind ∧
      (sim.after (.call call)).store = sim.store.recounted id { wrapper with refs := 1 } := by
  have retains := ends_accepted_retain accepts counted
  rw [after]
  unfold Ends at retains
  unfold stateAfter
  cases outcome : answer call sim with
  | ok _ after =>
      rw [outcome] at retains
      obtain ⟨wrapper, found, isKind, -, equal⟩ := retains
      exact ⟨wrapper, found, isKind, equal⟩
  | error e after =>
      rw [outcome] at retains
      exact retains.elim

theorem after_release {call : Call} {kind : ObjectKind} {id : Nat}
    (accepts : sim.Accepts (.call call)) (counted : call.counted? = some (.release, kind, id)) :
    ∃ wrapper, sim.store.wrappers.get? id = some wrapper ∧ wrapper.data.kind = kind ∧
      (sim.after (.call call)).store = sim.store.discarded id wrapper := by
  have releases := ends_accepted_release accepts counted
  rw [after]
  unfold Ends at releases
  unfold stateAfter
  cases outcome : answer call sim with
  | ok _ after =>
      rw [outcome] at releases
      obtain ⟨wrapper, found, isKind, -, equal⟩ := releases
      exact ⟨wrapper, found, isKind, equal⟩
  | error e after =>
      rw [outcome] at releases
      obtain ⟨wrapper, found, isKind, -, equal, -⟩ := releases
      exact ⟨wrapper, found, isKind, equal⟩

theorem releases_iff {operation : Operation} {id : Nat} :
    operation.releases id = true ↔
      ∃ call kind, operation = .call call ∧ call.counted? = some (.release, kind, id) := by
  cases operation with
  | caller action => simp [Operation.releases]
  | call call =>
      rcases counted : call.counted? with - | ⟨counting | counting, kind, other⟩ <;>
        simp [Operation.releases, counted]

/-- The wrapper that is released was live, and ends. -/
theorem ended_of_releases {operation : Operation} {id : Nat} (accepts : sim.Accepts operation)
    (releases : operation.releases id = true) :
    sim.store.wrappers.get? id ≠ none ∧ (sim.after operation).store.wrappers.get? id = none := by
  obtain ⟨call, kind, rfl, counted⟩ := releases_iff.mp releases
  obtain ⟨wrapper, found, -, equal⟩ := after_release accepts counted
  simp [found, equal]

/-! ## How often a wrapper is released -/

section History

variable {history : List Operation} {id : Nat}

/-- A wrapper that has ended is not released again, and stays dead. -/
theorem releases_of_ended (formed : sim.store.WellFormed) (clean : sim.Clean history)
    (below : id < sim.store.nextWrapper) (dead : sim.store.wrappers.get? id = none) :
    history.countP (Operation.releases id) = 0 ∧
      (sim.replay history).store.wrappers.get? id = none := by
  induction history generalizing sim with
  | nil => exact ⟨rfl, dead⟩
  | cons operation history ih =>
      have moves := moves_after formed operation
      have unreleased : operation.releases id = false := by
        rw [Bool.eq_false_iff]
        exact fun releases => (ended_of_releases clean.1 releases).1 dead
      rw [List.countP_cons_of_neg (by rw [unreleased]; exact Bool.false_ne_true)]
      exact ih (wellFormed_after formed operation) clean.2
        (Nat.lt_of_lt_of_le below moves.nextWrapper_le) (moves.gone below dead)

/-- A wrapper that has been released stays dead. -/
theorem ended_of_released (formed : sim.store.WellFormed) (clean : sim.Clean history)
    {operation : Operation} {first second : List Operation}
    (isSplit : history = first ++ operation :: second) (releases : operation.releases id = true) :
    (sim.replay history).store.wrappers.get? id = none := by
  subst isSplit
  obtain ⟨-, accepts, clean⟩ := clean_append.mp clean
  have formed := wellFormed_replay formed first
  obtain ⟨live, dead⟩ := ended_of_releases accepts releases
  obtain ⟨wrapper, found⟩ := Option.ne_none_iff_exists'.mp live
  have below := Nat.lt_of_lt_of_le (formed.wrapper_lt id wrapper found)
    (moves_after formed operation).nextWrapper_le
  rw [replay_append]
  exact (releases_of_ended (wellFormed_after formed operation) clean below dead).2

/-- A wrapper that is live at the end has not been released. -/
theorem releases_of_lives_on (formed : sim.store.WellFormed) (clean : sim.Clean history)
    (live : (sim.replay history).store.wrappers.get? id ≠ none) :
    history.countP (Operation.releases id) = 0 := by
  rw [List.countP_eq_zero]
  intro operation member releases
  obtain ⟨first, second, isSplit⟩ := List.append_of_mem member
  exact live (ended_of_released formed clean isSplit releases)

/-- A live wrapper is released once, unless it lives on. -/
theorem releases_of_live (formed : sim.store.WellFormed) (clean : sim.Clean history)
    (live : sim.store.wrappers.get? id ≠ none) :
    history.countP (Operation.releases id) =
      if (sim.replay history).store.wrappers.contains id then 0 else 1 := by
  induction history generalizing sim with
  | nil =>
      rw [replay, List.foldl_nil, Ledger.contains, Option.isSome_iff_ne_none.mpr live]
      rfl
  | cons operation history ih =>
      have moves := moves_after formed operation
      have formed' := wellFormed_after formed operation
      cases releases : operation.releases id with
      | false =>
          rw [List.countP_cons_of_neg (by rw [releases]; exact Bool.false_ne_true)]
          exact ih formed' clean.2 (moves.lives formed releases live)
      | true =>
          have dead := (ended_of_releases clean.1 releases).2
          rw [Option.ne_none_iff_exists'] at live
          obtain ⟨wrapper, found⟩ := live
          have below : id < (sim.after operation).store.nextWrapper :=
            Nat.lt_of_lt_of_le (formed.wrapper_lt id wrapper found) moves.nextWrapper_le
          obtain ⟨none, gone⟩ := releases_of_ended formed' clean.2 below dead
          replace gone : (sim.replay (operation :: history)).store.wrappers.get? id = _ := gone
          rw [List.countP_cons_of_pos releases, none, Ledger.contains, gone]
          rfl

/-- In a clean history, a wrapper that was live at some point has been released once, unless it is
still live. -/
theorem releases_of_lived (formed : sim.store.WellFormed) (clean : sim.Clean history)
    {first second : List Operation} (isSplit : history = first ++ second)
    (live : (sim.replay first).store.wrappers.get? id ≠ none) :
    history.countP (Operation.releases id) =
      if (sim.replay history).store.wrappers.contains id then 0 else 1 := by
  subst isSplit
  obtain ⟨before, since⟩ := clean_append.mp clean
  rw [List.countP_append, releases_of_lives_on formed before live, Nat.zero_add, replay_append]
  exact releases_of_live (wellFormed_replay formed first) since live

/-- In a clean history, a release fails only where its wrapper owns a native object that is gone. -/
theorem ends_release_of_clean (clean : sim.Clean history) {first second : List Operation}
    {call : Call} {kind : ObjectKind} (isSplit : history = first ++ .call call :: second)
    (counted : call.counted? = some (.release, kind, id)) :
    Ends (answer call) (sim.replay first) (fun _ _ => True)
      (fun e _ => ∃ native, e = .invalidNativeHandle "object" native) := by
  subst isSplit
  obtain ⟨-, accepts, -⟩ := clean_append.mp clean
  apply Ends.imp (ends_accepted_release accepts counted)
  · exact fun _ _ _ => trivial
  · rintro e _ ⟨wrapper, -, -, -, -, -, cause⟩
    exact ⟨wrapper.native, cause⟩

end History

/-! ## References to native objects -/

section Natives

variable {operation : Operation} {handle : NativeHandle}

theorem toNat_takes : (sim.takes handle operation).toNat = counted .retain handle sim operation := by
  cases operation with
  | call call => rfl
  | caller action =>
      cases action with
      | retain other =>
          by_cases same : other = handle
          · cases alive : sim.isAlive handle <;>
              simp [takes, counted, same, alive, Operation.counts, CallerAction.counted?,
                succeeds_retain]
          · simp [takes, counted, same, Operation.counts, CallerAction.counted?]
      | _ => simp [takes, counted, Operation.counts, CallerAction.counted?]

theorem toNat_returns :
    (sim.returns handle operation).toNat = counted .release handle sim operation := by
  cases operation with
  | call call => rfl
  | caller action =>
      cases action with
      | release other =>
          by_cases same : other = handle
          · cases alive : sim.isAlive handle <;>
              simp [returns, counted, same, alive, Operation.counts, CallerAction.counted?,
                succeeds_release]
          · simp [returns, counted, same, Operation.counts, CallerAction.counted?]
      | _ => simp [returns, counted, Operation.counts, CallerAction.counted?]

/-- A wrapper that is released by an accepted operation ends. -/
theorem toNat_surrenders (formed : sim.store.WellFormed) (accepts : sim.Accepts operation) :
    (sim.surrenders handle operation).toNat = ended handle sim operation := by
  by_cases releases : ∃ id, operation.releases id = true
  case pos =>
    obtain ⟨id, releases⟩ := releases
    obtain ⟨call, kind, rfl, counted⟩ := releases_iff.mp releases
    obtain ⟨wrapper, found, -, equal⟩ := after_release accepts counted
    cases alive : sim.isAlive handle with
    | false => simp [surrenders, counted, found, ended, alive]
    | true =>
        have erased : (sim.after (.call call)).store.wrappers = sim.store.wrappers.erase id := by
          rw [equal, Store.wrappers_discarded]
        rw [ended_of_erased formed alive found erased]
        simp only [surrenders, counted, found, alive, Bool.and_true]
        cases wrapper.ownsNative <;> by_cases same : wrapper.native = handle <;> simp [same]
  case neg =>
    have unreleased : ∀ id, operation.releases id = false := by simpa using releases
    have kept : ended handle sim operation = 0 := by
      apply ended_of_kept formed
      exact fun id => (moves_after formed operation).lives formed (unreleased id)
    rw [kept]
    cases operation with
    | caller action => rfl
    | call call =>
        rcases counted : call.counted? with - | ⟨counting | counting, kind, id⟩
        · simp [surrenders, counted]
        · simp [surrenders, counted]
        · simp [Operation.releases, counted] at unreleased

variable {history : List Operation}

/-- What is counted at every accepted operation adds up over a clean history. -/
theorem tally_eq_total {counts : Simulator → Operation → Bool} {sums : Simulator → Operation → Nat}
    (agree : ∀ {sim : Simulator} {operation : Operation}, sim.store.WellFormed →
      sim.Accepts operation → (counts sim operation).toNat = sums sim operation)
    (formed : sim.store.WellFormed) (clean : sim.Clean history) :
    sim.tally counts history = sim.total sums history := by
  induction history generalizing sim with
  | nil => rfl
  | cons operation history ih =>
      simp only [tally, total]
      rw [agree formed clean.1, ih (wellFormed_after formed operation) clean.2]

/-- In a clean history, the references of a native object that was live at some point, and those
that have been dropped, are those that have been taken and that of its creation. -/
theorem balance_of_lived (formed : sim.store.WellFormed) (clean : sim.Clean history)
    (unknown : sim.store.natives.get? handle = none) {first second : List Operation}
    (isSplit : history = first ++ second)
    (live : (sim.replay first).store.natives.get? handle ≠ none) :
    (sim.replay history).store.refsTo handle + sim.tally (returns handle) history +
        sim.tally (surrenders handle) history =
      1 + sim.tally (takes handle) history := by
  have above : sim.store.nextNative ≤ handle.raw := by
    rw [← Nat.not_lt]
    exact fun below => live (gone_replay formed below unknown first)
  have below : handle.raw < (sim.replay history).store.nextNative := by
    have formed' := wellFormed_replay formed first
    obtain ⟨object, found⟩ := Option.ne_none_iff_exists'.mp live
    rw [isSplit, replay_append]
    exact Nat.lt_of_lt_of_le (formed'.native_lt handle object found)
      (nextNative_le_replay formed' second)
  rw [tally_eq_total (fun _ _ => toNat_returns) formed clean,
    tally_eq_total (fun _ _ => toNat_takes) formed clean,
    tally_eq_total toNat_surrenders formed clean]
  exact (balanced_replay formed above history).account below

end Natives

end Simulator

end ComputeImport
