import ComputeImport.Native.Caller
import ComputeImport.Native.Dispatch
import ComputeImport.Proofs.Store.Programs

/-!
# Where native calls end

A native call is recorded first.  Then it reports the failure that is set for its entry point, with
nothing else changed, or does its work on the object store.  `Answers` says so of a call, given what
the work does; the theorems after it say what the work of the entry points does.
-/

namespace ComputeImport

/-- Erasing a key that has no value changes nothing. -/
theorem Ledger.erase_eq_self {κ α : Type} [DecidableEq κ] {ledger : Ledger κ α} {key : κ}
    (absent : ledger.get? key = none) : ledger.erase key = ledger := by
  have unknown : key ∉ ledger.keys := by
    rw [← Ledger.contains_iff_mem_keys, Ledger.contains, absent]
    exact Bool.false_ne_true
  cases ledger with
  | mk entries =>
      rw [Ledger.erase, Ledger.mk.injEq, List.filter_eq_self]
      rintro ⟨other, value⟩ member
      rw [decide_eq_true_eq]
      rintro rfl
      exact unknown (List.mem_map_of_mem member)

namespace Simulator

variable {α : Type} {sim : Simulator}

/-- Nothing has changed but the object store and the latest options. -/
structure StoreOnly (before after : Simulator) : Prop where
  config : after.config = before.config
  calls : after.calls = before.calls
  failures : after.failures = before.failures

theorem StoreOnly.refl (sim : Simulator) : StoreOnly sim sim :=
  ⟨rfl, rfl, rfl⟩

theorem StoreOnly.trans {before middle after : Simulator} (first : StoreOnly before middle)
    (second : StoreOnly middle after) : StoreOnly before after :=
  ⟨second.config.trans first.config, second.calls.trans first.calls,
    second.failures.trans first.failures⟩

/-- A call has been recorded, and the failure that was set for its entry point is used up. -/
structure Recorded (call : Call) (before after : Simulator) : Prop where
  config : after.config = before.config
  calls : after.calls = before.calls ++ [call]
  failures : after.failures = before.failures.erase call.entryPoint

/-- A call is recorded and reports the failure that is set for it, or else does its work on the
store. -/
def Answers (call : Call) (program : Native α) (sim : Simulator) (ok : α → Store → Prop)
    (failed : NativeError → Store → Prop) : Prop :=
  Ends program sim
    (fun a after => Recorded call sim after ∧ sim.failures.get? call.entryPoint = none ∧
      ok a after.store)
    (fun e after => Recorded call sim after ∧
      ((sim.failures.get? call.entryPoint = some e ∧ after.store = sim.store) ∨
        (sim.failures.get? call.entryPoint = none ∧ failed e after.store)))

theorem Answers.imp {call : Call} {program : Native α} {ok ok' : α → Store → Prop}
    {failed failed' : NativeError → Store → Prop} (answers : Answers call program sim ok failed)
    (value : ∀ a store, ok a store → ok' a store)
    (failure : ∀ e store, failed e store → failed' e store) :
    Answers call program sim ok' failed' := by
  refine Ends.imp answers ?_ ?_
  · rintro a after ⟨recorded, unset, holds⟩
    exact ⟨recorded, unset, value a after.store holds⟩
  · rintro e after ⟨recorded, injected | ⟨unset, holds⟩⟩
    · exact ⟨recorded, Or.inl injected⟩
    · exact ⟨recorded, Or.inr ⟨unset, failure e after.store holds⟩⟩

theorem ends_onStore {step : StoreM α} {ok : α → Simulator → Prop}
    {failed : NativeError → Simulator → Prop} :
    Ends (onStore step) sim ok failed ↔
      Ends step sim.store (fun a store => ok a { sim with store })
        (fun e store => failed e { sim with store }) := by
  unfold Ends onStore
  cases step sim.store <;> exact Iff.rfl

/-- The work of a call, from a state that differs in what has been recorded. -/
def Works (body : Native α) (sim : Simulator) (ok : α → Store → Prop)
    (failed : NativeError → Store → Prop) : Prop :=
  ∀ before : Simulator, before.store = sim.store → before.config = sim.config →
    Ends body before (fun a after => StoreOnly before after ∧ ok a after.store)
      (fun e after => StoreOnly before after ∧ failed e after.store)

theorem Works.onStore {step : StoreM α} {ok : α → Store → Prop}
    {failed : NativeError → Store → Prop} (ends : Ends step sim.store ok failed) :
    Works (Simulator.onStore step) sim ok failed := by
  intro before store _
  rw [ends_onStore, store]
  exact ends.imp (fun _ _ holds => ⟨⟨rfl, rfl, rfl⟩, holds⟩) fun _ _ holds => ⟨⟨rfl, rfl, rfl⟩, holds⟩

/-- The work of a call goes on from where its first part has left the store. -/
theorem Works.bind {β : Type} {first : Native α} {next : α → Native β}
    {middle : α → Store → Prop} {ok : β → Store → Prop} {failed : NativeError → Store → Prop}
    (works : Works first sim middle failed)
    (rest : ∀ a store, middle a store → Works (next a) { sim with store } ok failed) :
    Works (first >>= next) sim ok failed := by
  intro before store config
  refine (works before store config).bind ?_
  rintro a between ⟨same, holds⟩
  refine (rest a between.store holds between rfl (same.config.trans config)).imp ?_ ?_
  · exact fun _ _ ended => ⟨same.trans ended.1, ended.2⟩
  · exact fun _ _ ended => ⟨same.trans ended.1, ended.2⟩

theorem Works.imp {body : Native α} {ok ok' : α → Store → Prop}
    {failed failed' : NativeError → Store → Prop} (works : Works body sim ok failed)
    (value : ∀ a store, ok a store → ok' a store)
    (failure : ∀ e store, failed e store → failed' e store) : Works body sim ok' failed' :=
  fun before store config => (works before store config).imp
    (fun a _ ended => ⟨ended.1, value a _ ended.2⟩)
    fun e _ ended => ⟨ended.1, failure e _ ended.2⟩

theorem Works.answers {call : Call} {body : Native α} {ok : α → Store → Prop}
    {failed : NativeError → Store → Prop} (works : Works body sim ok failed) :
    Answers call (perform call body) sim ok failed := by
  unfold Answers Ends perform
  dsimp only
  cases injected : sim.failures.get? call.entryPoint with
  | some e => exact ⟨⟨rfl, rfl, rfl⟩, Or.inl ⟨rfl, rfl⟩⟩
  | none =>
      have unchanged : sim.failures.erase call.entryPoint = sim.failures :=
        Ledger.erase_eq_self injected
      have ended := works { sim with calls := sim.calls ++ [call] } rfl rfl
      refine Ends.imp ended ?_ ?_
      · rintro a after ⟨⟨config, calls, failures⟩, holds⟩
        exact ⟨⟨config, calls, failures.trans unchanged.symm⟩, rfl, holds⟩
      · rintro e after ⟨⟨config, calls, failures⟩, holds⟩
        exact ⟨⟨config, calls, failures.trans unchanged.symm⟩, Or.inr ⟨rfl, holds⟩⟩

/-! ## Runs of calls -/

/-- Calls have been made, in order.  Each has used up the failure that was set for it. -/
structure Ran (made : List Call) (before after : Simulator) : Prop where
  config : after.config = before.config
  calls : after.calls = before.calls ++ made
  failures : ∀ entryPoint, after.failures.get? entryPoint =
    if entryPoint ∈ made.map Call.entryPoint then none else before.failures.get? entryPoint

theorem Ran.nil (sim : Simulator) : Ran [] sim sim :=
  ⟨rfl, (List.append_nil _).symm, fun _ => rfl⟩

theorem Recorded.ran {call : Call} {before after : Simulator}
    (recorded : Recorded call before after) : Ran [call] before after := by
  refine ⟨recorded.config, recorded.calls, ?_⟩
  intro entryPoint
  rw [recorded.failures, Ledger.get?_erase]
  by_cases equal : call.entryPoint = entryPoint
  · simp [equal]
  · simp [equal, Ne.symm equal]

theorem Ran.trans {first second : List Call} {before middle after : Simulator}
    (start : Ran first before middle) (rest : Ran second middle after) :
    Ran (first ++ second) before after := by
  constructor
  case config => exact rest.config.trans start.config
  case calls => rw [rest.calls, start.calls, List.append_assoc]
  case failures =>
    intro entryPoint
    rw [rest.failures, start.failures]
    simp only [List.map_append, List.mem_append]
    by_cases member : entryPoint ∈ second.map Call.entryPoint <;> simp [member]

/-- Only calls of some entry points have been made. -/
def Did (allowed : EntryPoint → Prop) (before after : Simulator) : Prop :=
  ∃ calls, Ran calls before after ∧ ∀ call ∈ calls, allowed call.entryPoint

section Did

variable {allowed allowed' : EntryPoint → Prop} {before middle after : Simulator}

theorem Did.refl (sim : Simulator) : Did allowed sim sim :=
  ⟨[], .nil sim, fun _ member => absurd member List.not_mem_nil⟩

theorem Recorded.did {call : Call} (recorded : Recorded call before after)
    (isAllowed : allowed call.entryPoint) : Did allowed before after := by
  refine ⟨[call], recorded.ran, ?_⟩
  intro other member
  rw [List.mem_singleton.mp member]
  exact isAllowed

theorem Did.trans (first : Did allowed before middle) (second : Did allowed middle after) :
    Did allowed before after := by
  rcases first with ⟨calls, ran, all⟩
  rcases second with ⟨calls', ran', all'⟩
  refine ⟨calls ++ calls', ran.trans ran', ?_⟩
  intro call member
  rcases List.mem_append.mp member with member | member
  · exact all call member
  · exact all' call member

theorem Did.mono (did : Did allowed before after)
    (allows : ∀ entryPoint, allowed entryPoint → allowed' entryPoint) :
    Did allowed' before after := by
  rcases did with ⟨calls, ran, all⟩
  exact ⟨calls, ran, fun call member => allows _ (all call member)⟩

theorem Did.config (did : Did allowed before after) : after.config = before.config := by
  rcases did with ⟨calls, ran, -⟩
  exact ran.config

/-- No failure is set by a call. -/
theorem Did.unset (did : Did allowed before after) {entryPoint : EntryPoint}
    (unset : before.failures.get? entryPoint = none) : after.failures.get? entryPoint = none := by
  rcases did with ⟨calls, ran, -⟩
  rw [ran.failures, unset, ite_self]

/-- A failure stays set while its entry point is not called. -/
theorem Did.failures (did : Did allowed before after) {entryPoint : EntryPoint}
    (uncalled : ¬ allowed entryPoint) :
    after.failures.get? entryPoint = before.failures.get? entryPoint := by
  rcases did with ⟨calls, ran, all⟩
  rw [ran.failures, if_neg]
  rintro member
  rcases List.mem_map.mp member with ⟨call, found, rfl⟩
  exact uncalled (all call found)

/-- A recorded call is counted. -/
theorem Recorded.callCount {call : Call} (recorded : Recorded call before after) :
    after.callCount call.entryPoint = before.callCount call.entryPoint + 1 := by
  rw [Simulator.callCount, recorded.calls, List.countP_append, List.countP_singleton, beq_self_eq_true,
    if_pos rfl]
  rfl

/-- No call is taken back. -/
theorem Did.callCount_le (did : Did allowed before after) (entryPoint : EntryPoint) :
    before.callCount entryPoint ≤ after.callCount entryPoint := by
  rcases did with ⟨calls, ran, -⟩
  rw [Simulator.callCount, Simulator.callCount, ran.calls, List.countP_append]
  exact Nat.le_add_right _ _

/-- An entry point that has not been called has been called as often as before. -/
theorem Did.callCount (did : Did allowed before after) {entryPoint : EntryPoint}
    (uncalled : ¬ allowed entryPoint) : after.callCount entryPoint = before.callCount entryPoint := by
  rcases did with ⟨calls, ran, all⟩
  rw [Simulator.callCount, Simulator.callCount, ran.calls, List.countP_append,
    Nat.add_eq_left, List.countP_eq_zero]
  intro call member
  rw [beq_iff_eq]
  rintro rfl
  exact uncalled (all call member)

end Did

end Simulator

end ComputeImport
