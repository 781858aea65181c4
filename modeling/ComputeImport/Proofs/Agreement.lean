import ComputeImport.Import.Build
import ComputeImport.Proofs.Import.Outcome
import ComputeImport.Proofs.Simulator.Answers

/-!
# Two programs that end alike

A statement about two runs is a statement about two programs, each from a state of its own.  `Agree`
says that both bring back values or both fail, and what holds of the two ends then; it has one rule
for each way that programs are put together, as `Ends` has for a single program.
-/

namespace ComputeImport

variable {ε σ α β : Type}

/-- Two programs, each from its state, both bring back values where `ok` holds of the two ends, or
both fail where `failed` holds. -/
def Agree (program : EStateM ε σ α) (state : σ) (program' : EStateM ε σ α) (state' : σ)
    (ok : α → σ → α → σ → Prop) (failed : ε → σ → ε → σ → Prop) : Prop :=
  Ends program state
    (fun a after => Ends program' state' (fun a' after' => ok a after a' after') fun _ _ => False)
    (fun e after => Ends program' state' (fun _ _ => False) fun e' after' =>
      failed e after e' after')

section Rules

variable {program program' : EStateM ε σ α} {state state' : σ}
  {ok ok' : α → σ → α → σ → Prop} {failed failed' : ε → σ → ε → σ → Prop}

/-- Where both programs end, from where each of them ends. -/
theorem Agree.of_ends {first second : α → σ → Prop} {stops halts : ε → σ → Prop}
    (ends : Ends program state first stops) (ends' : Ends program' state' second halts)
    (value : ∀ a after a' after', first a after → second a' after' → ok a after a' after')
    (failure : ∀ e after e' after', stops e after → halts e' after' → failed e after e' after')
    (only : ∀ a after e' after', first a after → ¬ halts e' after')
    (only' : ∀ e after a' after', stops e after → ¬ second a' after') :
    Agree program state program' state' ok failed := by
  refine ends.imp ?_ ?_
  · intro a after brought
    exact ends'.imp (fun a' after' => value a after a' after' brought)
      fun e' after' => only a after e' after' brought
  · intro e after stopped
    exact ends'.imp (fun a' after' => only' e after a' after' stopped)
      fun e' after' => failure e after e' after' stopped

/-- Two programs that cannot fail. -/
theorem Agree.of_ok {first second : α → σ → Prop}
    (ends : Ends program state first fun _ _ => False)
    (ends' : Ends program' state' second fun _ _ => False)
    (value : ∀ a after a' after', first a after → second a' after' → ok a after a' after') :
    Agree program state program' state' ok failed :=
  .of_ends ends ends' value (fun _ _ _ _ stopped => stopped.elim) (fun _ _ _ _ _ stopped => stopped)
    fun _ _ _ _ stopped => stopped.elim

namespace Agree

theorem imp (agree : Agree program state program' state' ok failed)
    (value : ∀ a after a' after', ok a after a' after' → ok' a after a' after')
    (failure : ∀ e after e' after', failed e after e' after' → failed' e after e' after') :
    Agree program state program' state' ok' failed' :=
  Ends.imp agree
    (fun a after ended => ended.imp (value a after) fun _ _ => id)
    fun e after ended => ended.imp (fun _ _ => id) (failure e after)

/-- What is known of either value by itself is known of both. -/
theorem and_ok (agree : Agree program state program' state' ok failed) {first second : α → σ → Prop}
    (ends : Ends program state first fun _ _ => True)
    (ends' : Ends program' state' second fun _ _ => True) :
    Agree program state program' state'
      (fun a after a' after' => ok a after a' after' ∧ first a after ∧ second a' after')
      failed := by
  refine (Ends.and agree ends).imp ?_ ?_
  · rintro a after ⟨ended, known⟩
    exact (ended.and ends').imp (fun _ _ both => ⟨both.1, known, both.2⟩) fun _ _ both => both.1
  · exact fun _ _ both => both.1

/-- Binds agree, by what is known after their first parts. -/
theorem bind {next next' : α → EStateM ε σ β} {done : β → σ → β → σ → Prop}
    (first : Agree program state program' state' ok failed)
    (rest : ∀ a after a' after', ok a after a' after' →
      Agree (next a) after (next' a') after' done failed) :
    Agree (program >>= next) state (program' >>= next') state' done failed := by
  unfold Agree Ends at first
  unfold Agree Ends
  rw [bind_apply, bind_apply]
  cases outcome : program state with
  | ok a after =>
      cases outcome' : program' state' with
      | ok a' after' =>
          rw [outcome, outcome'] at first
          exact rest a after a' after' first
      | error e' after' =>
          rw [outcome, outcome'] at first
          exact first.elim
  | error e after =>
      cases outcome' : program' state' with
      | ok a' after' =>
          rw [outcome, outcome'] at first
          exact first.elim
      | error e' after' =>
          rw [outcome, outcome'] at first
          exact first

/-- A program agrees with itself. -/
theorem self (program : EStateM ε σ α) (state : σ) :
    Agree program state program state (fun a after a' after' => a = a' ∧ after = after')
      fun e after e' after' => e = e' ∧ after = after' := by
  unfold Agree Ends
  cases program state <;> exact ⟨rfl, rfl⟩

/-- The two ways in which both programs end. -/
theorem cases (agree : Agree program state program' state' ok failed) :
    (∃ a after a' after', program state = .ok a after ∧ program' state' = .ok a' after' ∧
        ok a after a' after') ∨
      ∃ e after e' after', program state = .error e after ∧ program' state' = .error e' after' ∧
        failed e after e' after' := by
  cases outcome : program state with
  | ok a after =>
      cases outcome' : program' state' with
      | ok a' after' =>
          exact Or.inl ⟨a, after, a', after', rfl, rfl, (Ends.of_ok agree outcome).of_ok outcome'⟩
      | error e' after' => exact ((Ends.of_ok agree outcome).of_error outcome').elim
  | error e after =>
      cases outcome' : program' state' with
      | ok a' after' => exact ((Ends.of_error agree outcome).of_ok outcome').elim
      | error e' after' =>
          exact Or.inr ⟨e, after, e', after', rfl, rfl,
            (Ends.of_error agree outcome).of_error outcome'⟩

end Agree

end Rules

/-! ## Programs in parallel -/

/-- From related states, two programs bring back values that go together or fail alike, and leave
related states. -/
def Parallel (related : σ → σ → Prop) (program program' : EStateM ε σ α) (ok : α → α → Prop) :
    Prop :=
  ∀ state state', related state state' →
    Agree program state program' state' (fun a after a' after' => ok a a' ∧ related after after')
      (fun e after e' after' => e = e' ∧ related after after')

namespace Parallel

variable {related : σ → σ → Prop} {program program' : EStateM ε σ α} {ok ok' : α → α → Prop}

theorem imp (parallel : Parallel related program program' ok) (value : ∀ a a', ok a a' → ok' a a') :
    Parallel related program program' ok' :=
  fun state state' rel => (parallel state state' rel).imp
    (fun a _ a' _ ended => ended.imp_left (value a a')) fun _ _ _ _ ended => ended

theorem pure {a a' : α} (holds : ok a a') :
    Parallel related (Pure.pure a : EStateM ε σ α) (Pure.pure a') ok :=
  fun _ _ rel => ⟨holds, rel⟩

theorem throw {e : ε} :
    Parallel related (MonadExcept.throw e : EStateM ε σ α) (MonadExcept.throw e) ok :=
  fun _ _ rel => ⟨rfl, rel⟩

theorem bind {next next' : α → EStateM ε σ β} {done : β → β → Prop}
    (first : Parallel related program program' ok)
    (rest : ∀ a a', ok a a' → Parallel related (next a) (next' a') done) :
    Parallel related (program >>= next) (program' >>= next') done :=
  fun state state' rel => (first state state' rel).bind
    fun a after a' after' ended => rest a a' ended.1 after after' ended.2

theorem get_bind {next next' : σ → EStateM ε σ β} {done : β → β → Prop}
    (rest : ∀ state state', related state state' →
      Parallel related (next state) (next' state') done) :
    Parallel related (MonadState.get >>= next) (MonadState.get >>= next') done :=
  fun state state' rel => rest state state' rel state state' rel

theorem modify {change change' : σ → σ}
    (kept : ∀ state state', related state state' → related (change state) (change' state')) :
    Parallel related (modify change : EStateM ε σ PUnit) (modify change') fun _ _ => True :=
  fun state state' rel => ⟨trivial, kept state state' rel⟩

end Parallel

/-- From related states, the second program does what the first does, and brings back what the first
brings back, changed. -/
def Mirrored (related : σ → σ → Prop) (change : α → α) (program program' : EStateM ε σ α) : Prop :=
  Parallel related program program' fun a a' => change a = a'

namespace Mirrored

variable {related : σ → σ → Prop} {change : α → α} {change' : β → β}
  {program program' : EStateM ε σ α} {next next' : α → EStateM ε σ β}

theorem pure (a : α) :
    Mirrored related change (Pure.pure a : EStateM ε σ α) (Pure.pure (change a)) :=
  Parallel.pure rfl

theorem throw (e : ε) :
    Mirrored related change (MonadExcept.throw e : EStateM ε σ α) (MonadExcept.throw e) :=
  Parallel.throw

theorem bind (first : Mirrored related change program program')
    (rest : ∀ a, Mirrored related change' (next a) (next' (change a))) :
    Mirrored related change' (program >>= next) (program' >>= next') := by
  refine Parallel.bind first ?_
  rintro a _ rfl
  exact rest a

/-- What comes after a failure does not matter. -/
theorem throw_bind {e : ε} :
    Mirrored related change' (MonadExcept.throw e >>= next) (MonadExcept.throw e >>= next') :=
  fun _ _ rel => ⟨rfl, rel⟩

end Mirrored

/-! ## Two backends that are alike -/

namespace Simulator

/-- Two backends of one configuration, none of which has been told to fail. -/
structure Peers (sim sim' : Simulator) : Prop where
  config : sim'.config = sim.config
  unset : ∀ entryPoint, sim.failures.get? entryPoint = none
  unset' : ∀ entryPoint, sim'.failures.get? entryPoint = none

/-- Calls set no failures. -/
theorem Peers.of_did {sim sim' after after' : Simulator} {allowed allowed' : EntryPoint → Prop}
    (peers : Peers sim sim') (did : Did allowed sim after) (did' : Did allowed' sim' after') :
    Peers after after' :=
  ⟨(did'.config.trans peers.config).trans did.config.symm,
    fun entryPoint => did.unset (peers.unset entryPoint),
    fun entryPoint => did'.unset (peers.unset' entryPoint)⟩

end Simulator

open Simulator

/-- Two programs, which see a backend each, end alike from backends with the given stores, and leave
them alike; `ok` or `failed` holds of the stores at the end. -/
def Pairs (scene : σ → Simulator) (program program' : EStateM ε σ α) (store store' : Store)
    (ok : α → Store → α → Store → Prop) (failed : ε → Store → ε → Store → Prop) : Prop :=
  ∀ state state', Peers (scene state) (scene state') → (scene state).store = store →
    (scene state').store = store' →
    Agree program state program' state'
      (fun a after a' after' => Peers (scene after) (scene after') ∧
        ok a (scene after).store a' (scene after').store)
      (fun e after e' after' => Peers (scene after) (scene after') ∧
        failed e (scene after).store e' (scene after').store)

namespace Pairs

section Rules

variable {scene : σ → Simulator} {program program' : EStateM ε σ α} {store store' : Store}
  {ok ok' : α → Store → α → Store → Prop} {failed failed' : ε → Store → ε → Store → Prop}

theorem pure {a a' : α} (holds : ok a store a' store') :
    Pairs scene (Pure.pure a) (Pure.pure a') store store' ok failed := by
  rintro state state' peers rfl rfl
  exact ⟨peers, holds⟩

theorem throw {e e' : ε} (holds : failed e store e' store') :
    Pairs scene (MonadExcept.throw e) (MonadExcept.throw e') store store' ok failed := by
  rintro state state' peers rfl rfl
  exact ⟨peers, holds⟩

theorem imp (pairs : Pairs scene program program' store store' ok failed)
    (value : ∀ a after a' after', ok a after a' after' → ok' a after a' after')
    (failure : ∀ e after e' after', failed e after e' after' → failed' e after e' after') :
    Pairs scene program program' store store' ok' failed' :=
  fun state state' peers isStore isStore' => (pairs state state' peers isStore isStore').imp
    (fun _ _ _ _ ended => ⟨ended.1, value _ _ _ _ ended.2⟩)
    fun _ _ _ _ ended => ⟨ended.1, failure _ _ _ _ ended.2⟩

theorem bind {next next' : α → EStateM ε σ β} {done : β → Store → β → Store → Prop}
    (first : Pairs scene program program' store store' ok failed)
    (rest : ∀ a after a' after', ok a after a' after' →
      Pairs scene (next a) (next' a') after after' done failed) :
    Pairs scene (program >>= next) (program' >>= next') store store' done failed :=
  fun state state' peers isStore isStore' => (first state state' peers isStore isStore').bind
    fun _ _ _ _ ended => rest _ _ _ _ ended.2 _ _ ended.1 rfl rfl

/-- Two programs that cannot fail and do nothing with their backends. -/
theorem still {first second : α → Prop}
    (ends : ∀ state, Ends program state (fun a after => scene after = scene state ∧ first a)
      fun _ _ => False)
    (ends' : ∀ state, Ends program' state (fun a after => scene after = scene state ∧ second a)
      fun _ _ => False) :
    Pairs scene program program' store store'
      (fun a after a' after' => (after = store ∧ after' = store') ∧ first a ∧ second a')
      failed := by
  rintro state state' peers rfl rfl
  refine Agree.of_ok (ends state) (ends' state') ?_
  rintro a after a' after' ⟨same, holds⟩ ⟨same', holds'⟩
  rw [same, same']
  exact ⟨peers, ⟨rfl, rfl⟩, holds, holds'⟩

/-- What is known of either value by itself is known of both. -/
theorem and_ok (pairs : Pairs scene program program' store store' ok failed)
    (first second : α → Store → Prop)
    (ends : ∀ state, (scene state).store = store →
      Ends program state (fun a after => first a (scene after).store) fun _ _ => True)
    (ends' : ∀ state, (scene state).store = store' →
      Ends program' state (fun a after => second a (scene after).store) fun _ _ => True) :
    Pairs scene program program' store store'
      (fun a after a' after' => ok a after a' after' ∧ first a after ∧ second a' after') failed :=
  fun state state' peers isStore isStore' =>
    ((pairs state state' peers isStore isStore').and_ok (ends state isStore)
      (ends' state' isStore')).imp
      (fun _ _ _ _ ended => ⟨ended.1.1, ended.1.2, ended.2⟩) fun _ _ _ _ => id

end Rules

/-! ### Native calls -/

section Native

variable {store store' : Store} {ok : α → Store → α → Store → Prop}
  {failed : NativeError → Store → NativeError → Store → Prop} {body body' : Native α}

theorem onStore {step step' : StoreM α} (agree : Agree step store step' store' ok failed) :
    Pairs id (Simulator.onStore step) (Simulator.onStore step') store store' ok failed := by
  rintro sim sim' ⟨config, unset, unset'⟩ rfl rfl
  unfold Agree
  simp only [ends_onStore]
  exact agree.imp (fun _ _ _ _ ended => ⟨⟨config, unset, unset'⟩, ended⟩)
    fun _ _ _ _ ended => ⟨⟨config, unset, unset'⟩, ended⟩

theorem perform {call call' : Call} (pairs : Pairs id body body' store store' ok failed) :
    Pairs id (Simulator.perform call body) (Simulator.perform call' body') store store' ok
      failed := by
  rintro sim sim' ⟨config, unset, unset'⟩ rfl rfl
  have performs : ∀ (call : Call) (body : Native α) (sim : Simulator),
      (∀ entryPoint, sim.failures.get? entryPoint = none) →
      Simulator.perform call body sim = body { sim with calls := sim.calls ++ [call] } := by
    intro call body sim unset
    unfold Simulator.perform
    rw [unset]
  have recorded := pairs { sim with calls := sim.calls ++ [call] }
    { sim' with calls := sim'.calls ++ [call'] } ⟨config, unset, unset'⟩ rfl rfl
  unfold Agree Ends at recorded ⊢
  rw [performs call body sim unset, performs call' body' sim' unset']
  exact recorded

/-- A call for chosen devices, which both backends have or both lack. -/
theorem performFor {call call' : Call} {entryPoint : String}
    (pairs : Pairs id body body' store store' ok failed)
    (lacking : failed (.unsupportedFeature entryPoint) store (.unsupportedFeature entryPoint)
      store') :
    Pairs id (Simulator.performFor call entryPoint body)
      (Simulator.performFor call' entryPoint body') store store' ok failed := by
  apply Pairs.perform
  rintro sim sim' peers rfl rfl
  unfold Agree
  simp only [ends_bind, ends_get]
  have config : sim'.config = sim.config := peers.config
  rw [config]
  split
  · exact pairs sim sim' peers rfl rfl
  · exact ⟨peers, lacking⟩

theorem noteOptions {options options' : Option String} :
    Pairs id (Simulator.noteOptions options) (Simulator.noteOptions options') store store'
      (fun _ after _ after' => after = store ∧ after' = store') failed := by
  rintro sim sim' ⟨config, unset, unset'⟩ rfl rfl
  exact ⟨⟨config, unset, unset'⟩, rfl, rfl⟩

/-- New wrappers are the next ones, and start with as many references. -/
theorem wrapImported {data : WrapperData} {native native' : NativeHandle} {ownsNative : Bool}
    {failed : NativeError → Store → NativeError → Store → Prop} :
    Pairs id (Simulator.wrapImported data native ownsNative)
      (Simulator.wrapImported data native' ownsNative) store store'
      (fun handle after handle' after' => handle = ⟨store.nextWrapper⟩ ∧
        handle' = ⟨store'.nextWrapper⟩ ∧
        ∃ refs, after = store.wrapped data native ownsNative refs ∧
          after' = store'.wrapped data native' ownsNative refs) failed := by
  rintro sim sim' ⟨config, unset, unset'⟩ rfl rfl
  refine ⟨⟨config, unset, unset'⟩, rfl, rfl, initialRefs sim.config, rfl, ?_⟩
  have config : sim'.config = sim.config := config
  rw [← config]
  rfl

/-- Work that cannot fail at either backend. -/
theorem of_works {first second : α → Store → Prop}
    (works : ∀ sim : Simulator, sim.store = store → Works body sim first fun _ _ => False)
    (works' : ∀ sim : Simulator, sim.store = store' → Works body' sim second fun _ _ => False) :
    Pairs id body body' store store' (fun a after a' after' => first a after ∧ second a' after')
      failed := by
  rintro sim sim' ⟨config, unset, unset'⟩ rfl rfl
  refine Agree.of_ends (works sim rfl sim rfl rfl) (works' sim' rfl sim' rfl rfl) ?_ ?_ ?_ ?_
  · rintro a after a' after' ⟨only, done⟩ ⟨only', done'⟩
    refine ⟨⟨?_, ?_, ?_⟩, done, done'⟩
    · exact (only'.config.trans config).trans only.config.symm
    · exact fun entryPoint => (congrArg (Ledger.get? · entryPoint) only.failures).trans (unset _)
    · exact fun entryPoint => (congrArg (Ledger.get? · entryPoint) only'.failures).trans (unset' _)
  · exact fun _ _ _ _ stopped => stopped.2.elim
  · exact fun _ _ _ _ _ stopped => stopped.2
  · exact fun _ _ _ _ stopped => stopped.2.elim

/-- Calls that cannot fail at either backend. -/
theorem of_answers {call call' : Call} {first second : α → Store → Prop}
    (answers : ∀ sim : Simulator, sim.store = store → Answers call body sim first fun _ _ => False)
    (answers' : ∀ sim : Simulator, sim.store = store' →
      Answers call' body' sim second fun _ _ => False) :
    Pairs id body body' store store' (fun a after a' after' => first a after ∧ second a' after')
      failed := by
  have ends : ∀ {call : Call} {body : Native α} {sim : Simulator} {done : α → Store → Prop},
      Answers call body sim done (fun _ _ => False) →
      (∀ entryPoint, sim.failures.get? entryPoint = none) →
      Ends body sim (fun a after => Recorded call sim after ∧ done a after.store)
        (fun _ _ => False) := by
    intro call body sim done answers unset
    refine Ends.imp answers (fun a after ended => ⟨ended.1, ended.2.2⟩) ?_
    rintro e after ⟨-, ⟨told, -⟩ | ⟨-, ⟨⟩⟩⟩
    exact Option.some_ne_none e (told.symm.trans (unset _))
  rintro sim sim' peers rfl rfl
  refine Agree.of_ok (ends (answers sim rfl) peers.unset) (ends (answers' sim' rfl) peers.unset') ?_
  rintro a after a' after' ⟨recorded, done⟩ ⟨recorded', done'⟩
  have did : Did (fun _ => True) sim after := recorded.did trivial
  have did' : Did (fun _ => True) sim' after' := recorded'.did trivial
  exact ⟨peers.of_did did did', done, done'⟩

end Native

/-! ### Imports -/

section Import

variable {number : Nat} {store store' : Store} {ok : α → Store → α → Store → Prop}

/-- The backend that an import has to do with. -/
abbrev atNumber (number : Nat) (host : Host) : Simulator :=
  host.simulator number

section Table

variable {table : Table} {failed : NativeError → Store → NativeError → Store → Prop}

theorem call {step step' : Native α} (isNumber : table.simulator = number)
    (pairs : Pairs id step step' store store' ok failed) :
    Pairs (atNumber number) (table.call step) (table.call step') store store' ok failed := by
  subst isNumber
  rintro host host' peers rfl rfl
  unfold Agree
  simp only [ends_call, atNumber, Host.simulator_advance_self]
  exact pairs _ _ peers rfl rfl

/-- A call for chosen devices, which a table that delegates refuses. -/
theorem callFor {entryPoint : String} {step step' : Native α} (isNumber : table.simulator = number)
    (pairs : Pairs id step step' store store' ok failed)
    (lacking : failed (.unsupportedFeature entryPoint) store (.unsupportedFeature entryPoint)
      store') :
    Pairs (atNumber number) (table.callFor entryPoint step) (table.callFor entryPoint step') store
      store' ok failed := by
  unfold Table.callFor
  cases table.delegation with
  | some _ => exact .throw lacking
  | none => exact .call isNumber pairs

end Table

variable {failed failed' : ImportError → Store → ImportError → Store → Prop}

theorem native {call call' : TableM α}
    (pairs : Pairs (atNumber number) call call' store store' ok
      fun e after e' after' => failed (.native e) after (.native e') after') :
    Pairs (atNumber number) (ComputeImport.native call) (ComputeImport.native call') store store'
      ok failed := by
  intro host host' peers isStore isStore'
  unfold Agree
  simp only [ends_native]
  exact pairs host host' peers isStore isStore'

theorem attempt {call call' : TableM α} {ok : Except NativeError α → Store →
      Except NativeError α → Store → Prop}
    (pairs : Pairs (atNumber number) call call' store store'
      (fun a after a' after' => ok (.ok a) after (.ok a') after')
      fun e after e' after' => ok (.error e) after (.error e') after') :
    Pairs (atNumber number) (ComputeImport.attempt call) (ComputeImport.attempt call') store store'
      ok failed := by
  intro host host' peers isStore isStore'
  unfold Agree Ends ComputeImport.attempt
  rcases (pairs host host' peers isStore isStore').cases with
    ⟨a, after, a', after', outcome, outcome', ended⟩ |
    ⟨e, after, e', after', outcome, outcome', ended⟩
  · rw [outcome, outcome']
    exact ended
  · rw [outcome, outcome']
    exact ended

theorem notify_bind {notice notice' : Notice} {next next' : Unit → ImportM α}
    (rest : Pairs (atNumber number) (next ()) (next' ()) store store' ok failed) :
    Pairs (atNumber number) (notify notice >>= next) (notify notice' >>= next') store store' ok
      failed :=
  fun host host' peers isStore isStore' =>
    rest (host.notify notice) (host'.notify notice') peers isStore isStore'

/-- Both imports fall back alike, or fail alike with the error of the last call. -/
theorem withFallback {operation : BuildOperation} {device device' : DeviceHandle}
    {perDevice perDevice' whole whole' : TableM α} {ok : α → Store → α → Store → Prop}
    (first : Pairs (atNumber number) perDevice perDevice' store store' ok
      fun e after e' after' => (after = store ∧ after' = store') ∧ e' = e)
    (second : Pairs (atNumber number) whole whole' store store' ok
      fun e after e' after' => (after = store ∧ after' = store') ∧ e' = e) :
    Pairs (atNumber number) (ComputeImport.withFallback operation device perDevice whole)
      (ComputeImport.withFallback operation device' perDevice' whole') store store' ok
      (fun e after e' after' => (after = store ∧ after' = store') ∧
        ∃ cause, e = .buildFailed operation device cause ∧
          e' = .buildFailed operation device' cause) := by
  let outcomes (result : Except NativeError α) (after : Store) (result' : Except NativeError α)
      (after' : Store) : Prop :=
    (∃ a a', result = .ok a ∧ result' = .ok a' ∧ ok a after a' after') ∨
      ∃ e, result = .error e ∧ result' = .error e ∧ after = store ∧ after' = store'
  have attempts : ∀ {call call' : TableM α},
      Pairs (atNumber number) call call' store store' ok
        (fun e after e' after' => (after = store ∧ after' = store') ∧ e' = e) →
      Pairs (atNumber number) (ComputeImport.attempt call) (ComputeImport.attempt call') store
        store' outcomes (fun _ _ _ _ => False) := by
    intro call call' pairs
    refine .attempt (pairs.imp ?_ ?_)
    · exact fun a _ a' _ done => Or.inl ⟨a, a', rfl, rfl, done⟩
    · rintro _ _ e _ ⟨⟨rfl, rfl⟩, rfl⟩
      exact Or.inr ⟨e, rfl, rfl, rfl, rfl⟩
  refine ((attempts first).imp (fun _ _ _ _ => id) fun _ _ _ _ => False.elim).bind ?_
  rintro _ _ _ _ (⟨a, a', rfl, rfl, done⟩ | ⟨e, rfl, rfl, rfl, rfl⟩)
  · exact .pure done
  · dsimp only
    split
    · refine .notify_bind ?_
      refine ((attempts second).imp (fun _ _ _ _ => id) fun _ _ _ _ => False.elim).bind ?_
      rintro _ _ _ _ (⟨a, a', rfl, rfl, done⟩ | ⟨e, rfl, rfl, rfl, rfl⟩)
      · exact .pure done
      · exact .throw ⟨⟨rfl, rfl⟩, e, rfl, rfl⟩
    · exact .throw ⟨⟨rfl, rfl⟩, e, rfl, rfl⟩

/-- Should the imports fail, references are given back at both backends. -/
theorem orRelease {programs programs' : List ProgramRef} {body body' : ImportM α}
    (pairs : Pairs (atNumber number) body body' store store' ok failed)
    (released : ∀ e e' host host', Peers (host.simulator number) (host'.simulator number) →
      failed e (host.simulator number).store e' (host'.simulator number).store →
      Peers ((releasePrograms programs host).simulator number)
          ((releasePrograms programs' host').simulator number) ∧
        failed' e ((releasePrograms programs host).simulator number).store e'
          ((releasePrograms programs' host').simulator number).store) :
    Pairs (atNumber number) (ComputeImport.orRelease programs body)
      (ComputeImport.orRelease programs' body') store store' ok failed' := by
  intro host host' peers isStore isStore'
  unfold Agree
  simp only [ends_orRelease]
  exact (pairs host host' peers isStore isStore').imp (fun _ _ _ _ ended => ended)
    fun e after e' after' ended => released e e' after after' ended.1 ended.2

/-- A timer only adds to the journals. -/
theorem timed {operation : String} {body body' : ImportM α}
    (pairs : Pairs (atNumber number) body body' store store' ok failed) :
    Pairs (atNumber number) (ComputeImport.timed operation body)
      (ComputeImport.timed operation body') store store' ok failed := by
  intro host host' peers isStore isStore'
  unfold Agree Ends ComputeImport.timed
  rcases (pairs host host' peers isStore isStore').cases with
    ⟨a, after, a', after', outcome, outcome', ended⟩ |
    ⟨e, after, e', after', outcome, outcome', ended⟩
  · rw [outcome, outcome']
    dsimp only
    split <;> split <;> exact ended
  · rw [outcome, outcome']
    dsimp only
    split <;> split <;> exact ended

end Import

end Pairs

end ComputeImport
