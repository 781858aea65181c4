/-!
# Outcomes of programs

Every layer of this library is a program over a state that may fail, and that keeps what it has
changed when it does.  `Ends` says where such a program ends from a given state, as a value or as a
failure, and follows the binds of a program.  `Keeps` is the case of an invariant.
-/

namespace ComputeImport

variable {ε σ α β : Type}

/-- The state in which a program ends, whether it brings back a value or fails. -/
def stateAfter (program : EStateM ε σ α) (state : σ) : σ :=
  match program state with
  | .ok _ after => after
  | .error _ after => after

/-- The same outcome in another state. -/
def inState (change : σ → σ) : EStateM.Result ε σ α → EStateM.Result ε σ α
  | .ok a after => .ok a (change after)
  | .error e after => .error e (change after)

/-- From a state, a program ends where `ok` holds of what it brings back, or fails where `failed`
holds of the failure. -/
def Ends (program : EStateM ε σ α) (state : σ) (ok : α → σ → Prop) (failed : ε → σ → Prop) :
    Prop :=
  match program state with
  | .ok a after => ok a after
  | .error e after => failed e after

/-- A program keeps what holds of the state, whether it brings back a value or fails. -/
structure Keeps (invariant : σ → Prop) (program : EStateM ε σ α) : Prop where
  ends : ∀ state, invariant state →
    Ends program state (fun _ => invariant) (fun _ => invariant)

/-- Whether a run has brought back a value, with more to be said of the end. -/
def bringsBack (holds : α → σ → Bool) : EStateM.Result ε σ α → Bool
  | .ok a after => holds a after
  | .error _ _ => false

/-- Whether a run has failed, with more to be said of the end. -/
def failsWith (holds : ε → σ → Bool) : EStateM.Result ε σ α → Bool
  | .ok _ _ => false
  | .error e after => holds e after

theorem exists_of_bringsBack {holds : α → σ → Bool} {result : EStateM.Result ε σ α}
    (ended : bringsBack holds result = true) :
    ∃ a after, result = .ok a after ∧ holds a after = true := by
  cases result with
  | ok a after => exact ⟨a, after, rfl, ended⟩
  | error e after => contradiction

theorem exists_of_failsWith {holds : ε → σ → Bool} {result : EStateM.Result ε σ α}
    (ended : failsWith holds result = true) :
    ∃ e after, result = .error e after ∧ holds e after = true := by
  cases result with
  | ok a after => contradiction
  | error e after => exact ⟨e, after, rfl, ended⟩

theorem bind_apply (program : EStateM ε σ α) (next : α → EStateM ε σ β) (state : σ) :
    (program >>= next) state =
      match program state with
      | .ok a after => next a after
      | .error e after => .error e after :=
  rfl

/-! ## The parts of a program -/

section Parts

variable {state : σ} {ok : α → σ → Prop} {failed : ε → σ → Prop}

@[simp]
theorem ends_pure {a : α} : Ends (pure a : EStateM ε σ α) state ok failed ↔ ok a state :=
  Iff.rfl

@[simp]
theorem ends_throw {e : ε} :
    Ends (throw e : EStateM ε σ α) state ok failed ↔ failed e state :=
  Iff.rfl

@[simp]
theorem ends_get {ok : σ → σ → Prop} :
    Ends (get : EStateM ε σ σ) state ok failed ↔ ok state state :=
  Iff.rfl

@[simp]
theorem ends_modify {change : σ → σ} {ok : PUnit → σ → Prop} :
    Ends (modify change : EStateM ε σ PUnit) state ok failed ↔ ok ⟨⟩ (change state) :=
  Iff.rfl

@[simp]
theorem ends_modifyGet {change : σ → α × σ} :
    Ends (modifyGet change : EStateM ε σ α) state ok failed ↔
      ok (change state).1 (change state).2 :=
  Iff.rfl

/-- A bind ends where its second part ends, from where the first part has ended. -/
@[simp]
theorem ends_bind {program : EStateM ε σ α} {next : α → EStateM ε σ β} {ok : β → σ → Prop} :
    Ends (program >>= next) state ok failed ↔
      Ends program state (fun a after => Ends (next a) after ok failed) failed := by
  rw [Ends, Ends, bind_apply]
  cases program state <;> exact Iff.rfl

/-- What is known of where a program ends is known of the state after it. -/
theorem ends_stateAfter {program : EStateM ε σ α} {holds : σ → Prop} :
    Ends program state (fun _ => holds) (fun _ => holds) ↔ holds (stateAfter program state) := by
  unfold Ends stateAfter
  cases program state <;> exact Iff.rfl

end Parts

theorem ends_iff_of_ok {program : EStateM ε σ α} {state after : σ} {a : α} {ok : α → σ → Prop}
    {failed : ε → σ → Prop} (outcome : program state = .ok a after) :
    Ends program state ok failed ↔ ok a after := by
  rw [Ends, outcome]

theorem ends_iff_of_error {program : EStateM ε σ α} {state after : σ} {e : ε} {ok : α → σ → Prop}
    {failed : ε → σ → Prop} (outcome : program state = .error e after) :
    Ends program state ok failed ↔ failed e after := by
  rw [Ends, outcome]

theorem ends_same (program : EStateM ε σ α) (state : σ) :
    Ends program state (fun _ after => after = stateAfter program state)
      (fun _ after => after = stateAfter program state) :=
  ends_stateAfter.mpr rfl

/-- Bringing back something else leaves the final state as it is. -/
theorem stateAfter_bind_pure (program : EStateM ε σ α) (change : α → β) (state : σ) :
    stateAfter (program >>= fun a => pure (change a)) state = stateAfter program state := by
  rw [stateAfter, stateAfter, bind_apply]
  cases program state <;> rfl

namespace Ends

variable {program : EStateM ε σ α} {state : σ} {ok ok' : α → σ → Prop}
  {failed failed' : ε → σ → Prop}

/-- Less may be known at the end. -/
theorem imp (ends : Ends program state ok failed) (value : ∀ a after, ok a after → ok' a after)
    (failure : ∀ e after, failed e after → failed' e after) : Ends program state ok' failed' := by
  unfold Ends at ends ⊢
  cases outcome : program state with
  | ok a after =>
      rw [outcome] at ends
      exact value a after ends
  | error e after =>
      rw [outcome] at ends
      exact failure e after ends

theorem trivial : Ends program state (fun _ _ => True) (fun _ _ => True) := by
  unfold Ends
  cases program state <;> exact True.intro

theorem and (ends : Ends program state ok failed) (ends' : Ends program state ok' failed') :
    Ends program state (fun a after => ok a after ∧ ok' a after)
      (fun e after => failed e after ∧ failed' e after) := by
  unfold Ends at ends ends' ⊢
  cases outcome : program state with
  | ok a after =>
      rw [outcome] at ends ends'
      exact ⟨ends, ends'⟩
  | error e after =>
      rw [outcome] at ends ends'
      exact ⟨ends, ends'⟩

/-- A bind, by what is known after its first part. -/
theorem bind {next : α → EStateM ε σ β} {done : β → σ → Prop}
    (first : Ends program state ok failed)
    (rest : ∀ a after, ok a after → Ends (next a) after done failed) :
    Ends (program >>= next) state done failed :=
  ends_bind.mpr (first.imp rest fun _ _ ended => ended)

/-- What is known of the value that a run has brought back. -/
theorem of_ok {after : σ} {a : α} (ends : Ends program state ok failed)
    (outcome : program state = .ok a after) : ok a after :=
  (ends_iff_of_ok outcome).mp ends

/-- What is known of the failure that a run has ended in. -/
theorem of_error {after : σ} {e : ε} (ends : Ends program state ok failed)
    (outcome : program state = .error e after) : failed e after :=
  (ends_iff_of_error outcome).mp ends

/-- A program that cannot bring back a value fails. -/
theorem exists_error (ends : Ends program state (fun _ _ => False) failed) :
    ∃ e after, program state = .error e after ∧ failed e after := by
  cases outcome : program state with
  | ok a after => exact (ends.of_ok outcome).elim
  | error e after => exact ⟨e, after, rfl, ends.of_error outcome⟩

/-- A program that cannot fail brings back a value. -/
theorem exists_ok (ends : Ends program state ok fun _ _ => False) :
    ∃ a after, program state = .ok a after ∧ ok a after := by
  cases outcome : program state with
  | ok a after => exact ⟨a, after, rfl, ends.of_ok outcome⟩
  | error e after => exact (ends.of_error outcome).elim

end Ends

namespace Keeps

variable {invariant : σ → Prop} {program : EStateM ε σ α} {next : α → EStateM ε σ β}

theorem bind (first : Keeps invariant program) (rest : ∀ a, Keeps invariant (next a)) :
    Keeps invariant (program >>= next) :=
  ⟨fun state holds => (first.ends state holds).bind fun a after kept => (rest a).ends after kept⟩

theorem pure (a : α) : Keeps invariant (Pure.pure a : EStateM ε σ α) :=
  ⟨fun _ holds => holds⟩

theorem throw (e : ε) : Keeps invariant (MonadExcept.throw e : EStateM ε σ α) :=
  ⟨fun _ holds => holds⟩

theorem get : Keeps invariant (MonadState.get : EStateM ε σ σ) :=
  ⟨fun _ holds => holds⟩

theorem modify {change : σ → σ} (kept : ∀ state, invariant state → invariant (change state)) :
    Keeps invariant (modify change : EStateM ε σ PUnit) :=
  ⟨kept⟩

theorem stateAfter (keeps : Keeps invariant program) {state : σ} (holds : invariant state) :
    invariant (stateAfter program state) :=
  ends_stateAfter.mp (keeps.ends state holds)

end Keeps

end ComputeImport
