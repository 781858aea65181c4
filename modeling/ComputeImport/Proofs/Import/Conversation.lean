import ComputeImport.Proofs.Import.Uses

/-!
# Conversations with a function table

What an import asks of a function table, and what it is told, is a list of exchanges: native calls
with their outcomes, each made in the state that the one before has left.  `Converses` says so of
two states of the host, and `Talks` of a program, for every state in which it may begin.  The
backend behind the table sees the calls of a conversation and no others.
-/

namespace ComputeImport

/-- A native call, with what it has brought back. -/
structure Exchange where
  call : Call
  outcome : Except NativeError Answer

/-- Whether a call is one of an entry point for chosen devices. -/
def Call.isForDevices : Call → Bool
  | programCompileFor .. | programBuildFor .. | programLinkFor .. => true
  | _ => false

/-- Whether a table passes a call on to the backend behind it. -/
def Table.reaches (table : Table) (call : Call) : Bool :=
  table.delegation.isNone || !call.isForDevices

/-- What exchanges are for the backend behind a table: the calls that reach it, as a history. -/
def Table.history (table : Table) (exchanges : List Exchange) : List Simulator.Operation :=
  ((exchanges.map Exchange.call).filter table.reaches).map .call

theorem Table.history_append (table : Table) (first second : List Exchange) :
    table.history (first ++ second) = table.history first ++ table.history second := by
  simp [history]

/-- Whether an exchange takes the host from one state to another. -/
def Exchange.Happens (table : Table) (exchange : Exchange) (host next : Host) : Prop :=
  match exchange.outcome with
  | .ok reply => table.answer exchange.call host = .ok reply next
  | .error e => table.answer exchange.call host = .error e next

namespace Exchange.Happens

variable {table : Table} {exchange : Exchange} {host next : Host}

/-- What is known of where a call ends is known after an exchange. -/
theorem of_ends (happens : exchange.Happens table host next)
    (holds : Except NativeError Answer → Host → Prop)
    (ends : Ends (table.answer exchange.call) host (fun reply => holds (.ok reply))
      (fun e => holds (.error e))) : holds exchange.outcome next := by
  obtain ⟨call, outcome⟩ := exchange
  cases outcome with
  | ok reply => exact ends.of_ok happens
  | error e => exact ends.of_error happens

theorem stateAfter_eq (happens : exchange.Happens table host next) :
    stateAfter (table.answer exchange.call) host = next :=
  (happens.of_ends (fun _ after => after = _) (ends_same _ _)).symm

end Exchange.Happens

/-- The exchanges with a table that lead from one state of the host to another.  In between, the
journal may grow and identities may be given, but no backend takes a step. -/
inductive Converses (table : Table) : Host → List Exchange → Host → Prop
  | done (host : Host) : Converses table host [] host
  | aside {host next after : Host} {exchanges : List Exchange}
      (same : next.simulators = host.simulators) (rest : Converses table next exchanges after) :
      Converses table host exchanges after
  | said {host next after : Host} {exchange : Exchange} {exchanges : List Exchange}
      (happens : exchange.Happens table host next) (rest : Converses table next exchanges after) :
      Converses table host (exchange :: exchanges) after

namespace Converses

variable {table : Table} {host middle after : Host} {exchanges more : List Exchange}

theorem trans (first : Converses table host exchanges middle)
    (second : Converses table middle more after) :
    Converses table host (exchanges ++ more) after := by
  induction first with
  | done => exact second
  | aside same _ ih => exact .aside same (ih second)
  | said happens _ ih => exact .said happens (ih second)

theorem quiet (same : after.simulators = host.simulators) : Converses table host [] after :=
  .aside same (.done after)

/-- A conversation can be cut anywhere. -/
theorem split {first second : List Exchange}
    (converses : Converses table host (first ++ second) after) :
    ∃ middle, Converses table host first middle ∧ Converses table middle second after := by
  generalize whole : first ++ second = exchanges at converses
  induction converses generalizing first with
  | done host =>
      obtain ⟨rfl, rfl⟩ := List.append_eq_nil_iff.mp whole
      exact ⟨host, .done host, .done host⟩
  | aside same _ ih =>
      obtain ⟨middle, before, rest⟩ := ih whole
      exact ⟨middle, .aside same before, rest⟩
  | @said host _ _ _ _ happens rest ih =>
      rcases List.append_eq_cons_iff.mp whole with ⟨rfl, rfl⟩ | ⟨others, rfl, rfl⟩
      · exact ⟨host, .done host, .said happens rest⟩
      · obtain ⟨middle, before, rest⟩ := ih rfl
        exact ⟨middle, .said happens before, rest⟩

/-- A conversation that is not empty begins with its first exchange. -/
theorem uncons {exchange : Exchange}
    (converses : Converses table host (exchange :: exchanges) after) :
    ∃ before next, before.simulators = host.simulators ∧ exchange.Happens table before next ∧
      Converses table next exchanges after := by
  generalize whole : exchange :: exchanges = said at converses
  induction converses with
  | done => contradiction
  | aside same _ ih =>
      obtain ⟨before, next, same', happens, rest⟩ := ih whole
      exact ⟨before, next, same'.trans same, happens, rest⟩
  | @said host next _ _ _ happens rest =>
      cases whole
      exact ⟨host, next, rfl, happens, rest⟩

/-- The state after a call through a table: the backend has taken the call, if it reaches it. -/
theorem stateAfter_answer (table : Table) (call : Call) (host : Host) :
    stateAfter (table.answer call) host =
      if table.reaches call then
        host.advance table.simulator ((host.simulator table.simulator).after (.call call))
      else host := by
  have forDevices : ∀ {α : Type} {entryPoint : String} {step : Native α} (shape : α → Answer)
      {call : Call}, IsCall step call → call.isForDevices = true →
      stateAfter (do return shape (← table.callFor entryPoint step)) host =
        if table.reaches call then
          host.advance table.simulator ((host.simulator table.simulator).after (.call call))
        else host := by
    intro α entryPoint step shape call isCall chosen
    rw [stateAfter_bind_pure, Table.callFor, Table.reaches, chosen]
    cases table.delegation with
    | some _ => rfl
    | none =>
        rw [stateAfter_call, isCall]
        rfl
  cases call with
  | programCompileFor program devices options =>
      exact forDevices (fun _ => .done)
        (.of_done (.programCompileFor program devices options) rfl) rfl
  | programBuildFor program devices options =>
      exact forDevices (fun _ => .done)
        (.of_done (.programBuildFor program devices options) rfl) rfl
  | programLinkFor context devices programs options =>
      exact forDevices (fun handle => .handle handle.id)
        (.of_answer (.programLinkFor context devices programs options) rfl) rfl
  | programNumDevices program =>
      have isCall : IsCall (Simulator.programNumDevices program) (.programNumDevices program) :=
        .of_answer _ rfl
      rw [Table.answer, stateAfter_bind_pure, Table.programNumDevices, stateAfter_bind_pure,
        stateAfter_call, isCall]
      simp [Table.reaches, Call.isForDevices]
  | _ =>
      rw [Table.answer, stateAfter_call]
      · simp [Table.reaches, Call.isForDevices, Simulator.after]
      all_goals simp

/-- Other backends than the one behind the table have no part in a conversation. -/
theorem simulator_ne (converses : Converses table host exchanges after) {number : Nat}
    (other : number ≠ table.simulator) : after.simulator number = host.simulator number := by
  induction converses with
  | done => rfl
  | aside same _ ih => rw [ih, Host.simulator_of_simulators same]
  | said happens _ ih =>
      rw [ih, ← happens.stateAfter_eq, stateAfter_answer]
      split
      · rw [Host.simulator_advance, if_neg (Ne.symm other)]
      · rfl

/-- The backend behind a table goes through the calls that reach it. -/
theorem simulator_eq (converses : Converses table host exchanges after) :
    after.simulator table.simulator =
      (host.simulator table.simulator).replay (table.history exchanges) := by
  induction converses with
  | done => rfl
  | aside same _ ih => rw [ih, Host.simulator_of_simulators same]
  | @said host next _ exchange exchanges happens _ ih =>
      have went : next.simulator table.simulator =
          (host.simulator table.simulator).replay (table.history [exchange]) := by
        rw [← happens.stateAfter_eq, stateAfter_answer]
        cases reached : table.reaches exchange.call with
        | true => simp [Table.history, reached, Simulator.replay]
        | false => simp [Table.history, reached, Simulator.replay]
      rw [ih, went, ← Simulator.replay_append, ← Table.history_append]
      rfl

/-- A conversation is made of calls. -/
theorem did (converses : Converses table host exchanges after) :
    Simulator.Did (fun _ => True) (host.simulator table.simulator)
      (after.simulator table.simulator) := by
  induction converses with
  | done => exact .refl _
  | aside same _ ih => rwa [Host.simulator, same] at ih
  | @said host next _ exchange _ happens _ ih =>
      refine Simulator.Did.trans ?_ ih
      rw [← happens.stateAfter_eq, stateAfter_answer]
      split
      · rw [Host.simulator_advance_self]
        exact (Simulator.recorded_answer exchange.call).did trivial
      · exact .refl _

/-- The backend behind a table has seen the calls of a conversation that have reached it. -/
theorem calls_eq (converses : Converses table host exchanges after) :
    (after.simulator table.simulator).calls = (host.simulator table.simulator).calls ++
      (exchanges.map Exchange.call).filter table.reaches := by
  rw [converses.simulator_eq, Table.history, Simulator.calls_replay]

end Converses

/-! ## Programs that talk to a table -/

/-- From every state, a program ends after a conversation, of which something holds together with
what the program brings back or how it fails. -/
def Talks {ε α : Type} (table : Table) (program : EStateM ε Host α)
    (ok : α → List Exchange → Prop) (failed : ε → List Exchange → Prop) : Prop :=
  ∀ host, Ends program host
    (fun a after => ∃ exchanges, Converses table host exchanges after ∧ ok a exchanges)
    (fun e after => ∃ exchanges, Converses table host exchanges after ∧ failed e exchanges)

/-- A step does the work of a call through a table, in another shape. -/
def Table.Makes {α : Type} (table : Table) (call : Call) (shape : α → Answer) (step : TableM α) :
    Prop :=
  table.answer call = do return shape (← step)

namespace Talks

variable {ε α β : Type} {table : Table} {program : EStateM ε Host α}
  {ok ok' : α → List Exchange → Prop} {failed failed' : ε → List Exchange → Prop}

theorem imp (talks : Talks table program ok failed)
    (value : ∀ a exchanges, ok a exchanges → ok' a exchanges)
    (failure : ∀ e exchanges, failed e exchanges → failed' e exchanges) :
    Talks table program ok' failed' := by
  intro host
  apply (talks host).imp
  · rintro a after ⟨exchanges, converses, holds⟩
    exact ⟨exchanges, converses, value a exchanges holds⟩
  · rintro e after ⟨exchanges, converses, holds⟩
    exact ⟨exchanges, converses, failure e exchanges holds⟩

theorem pure {a : α} (holds : ok a []) :
    Talks table (Pure.pure a : EStateM ε Host α) ok failed :=
  fun host => ⟨[], .done host, holds⟩

theorem throw {e : ε} (holds : failed e []) :
    Talks table (MonadExcept.throw e : EStateM ε Host α) ok failed :=
  fun host => ⟨[], .done host, holds⟩

/-- Steps that leave the backends alone have no part in a conversation. -/
theorem silent_bind (holds : α → Prop) {next : α → EStateM ε Host β}
    {done : β → List Exchange → Prop}
    (silent : ∀ host, Ends program host
      (fun a after => holds a ∧ after.simulators = host.simulators) fun _ _ => False)
    (rest : ∀ a, holds a → Talks table (next a) done failed) :
    Talks table (program >>= next) done failed := by
  intro host
  apply ((silent host).imp (fun _ _ same => same) fun _ _ => False.elim).bind
  rintro a middle ⟨held, same⟩
  apply (rest a held middle).imp
  · rintro b after ⟨exchanges, converses, holds⟩
    exact ⟨exchanges, .aside same converses, holds⟩
  · rintro e after ⟨exchanges, converses, holds⟩
    exact ⟨exchanges, .aside same converses, holds⟩

theorem silent {holds : α → Prop}
    (silent : ∀ host, Ends program host
      (fun a after => holds a ∧ after.simulators = host.simulators) fun _ _ => False)
    (value : ∀ a, holds a → ok a []) : Talks table program ok failed := by
  intro host
  apply (silent host).imp
  · exact fun a _ ⟨held, same⟩ => ⟨[], .quiet same, value a held⟩
  · exact fun _ _ => False.elim

theorem notify_bind {notice : Notice} {next : Unit → EStateM ε Host β}
    {done : β → List Exchange → Prop} (rest : Talks table (next ()) done failed) :
    Talks table (ComputeImport.notify notice >>= next) done failed :=
  silent_bind (fun _ => True) (fun _ => ⟨trivial, rfl⟩) fun _ _ => rest

theorem freshIdentity_bind {next : Nat → EStateM ε Host β} {done : β → List Exchange → Prop}
    (rest : ∀ identity, Talks table (next identity) done failed) :
    Talks table (ComputeImport.freshIdentity >>= next) done failed :=
  silent_bind (fun _ => True) (fun _ => ⟨trivial, rfl⟩) fun a _ => rest a

/-- The conversation of a bind is that of its first part, and then that of the second. -/
theorem bind {next : α → EStateM ε Host β} {done : β → List Exchange → Prop}
    (first : Talks table program ok failed)
    (rest : ∀ a exchanges, ok a exchanges → Talks table (next a)
      (fun b more => done b (exchanges ++ more)) (fun e more => failed e (exchanges ++ more))) :
    Talks table (program >>= next) done failed := by
  intro host
  apply (first host).bind
  rintro a middle ⟨exchanges, converses, holds⟩
  apply (rest a exchanges holds middle).imp
  · rintro b after ⟨more, converses', holds'⟩
    exact ⟨exchanges ++ more, converses.trans converses', holds'⟩
  · rintro e after ⟨more, converses', holds'⟩
    exact ⟨exchanges ++ more, converses.trans converses', holds'⟩

/-- A step through a table is one exchange. -/
theorem step {call : Call} {shape : α → Answer} {program : TableM α}
    (makes : table.Makes call shape program) :
    Talks table program (fun a exchanges => exchanges = [⟨call, .ok (shape a)⟩])
      (fun e exchanges => exchanges = [⟨call, .error e⟩]) := by
  intro host
  have made : table.answer call host = _ := congrFun makes host
  rw [bind_apply] at made
  unfold Ends
  cases outcome : program host with
  | ok a after =>
      rw [outcome] at made
      exact ⟨[⟨call, .ok (shape a)⟩], .said made (.done after), rfl⟩
  | error e after =>
      rw [outcome] at made
      exact ⟨[⟨call, .error e⟩], .said made (.done after), rfl⟩

theorem native {program : TableM α} {failed : NativeError → List Exchange → Prop}
    (talks : Talks table program ok failed) :
    Talks table (ComputeImport.native program) ok
      (fun e exchanges => ∃ cause, e = .native cause ∧ failed cause exchanges) := by
  intro host
  apply ends_native.mpr
  apply (talks host).imp
  · exact fun _ _ ended => ended
  · rintro e after ⟨exchanges, converses, holds⟩
    exact ⟨exchanges, converses, e, rfl, holds⟩

theorem attempt {program : TableM α} {failed : NativeError → List Exchange → Prop}
    {failed' : ImportError → List Exchange → Prop} (talks : Talks table program ok failed) :
    Talks table (ComputeImport.attempt program)
      (fun outcome exchanges => match outcome with
        | .ok a => ok a exchanges
        | .error e => failed e exchanges) failed' := by
  intro host
  exact ends_attempt.mpr ((talks host).imp (fun _ _ ended => ended) fun _ _ ended => ended)

theorem timed {operation : String} {body : ImportM α}
    {failed : ImportError → List Exchange → Prop} (talks : Talks table body ok failed) :
    Talks table (ComputeImport.timed operation body) ok failed := by
  intro host
  have aside : ∀ {after : Host} {exchanges : List Exchange} (notice : Notice),
      Converses table host exchanges after →
        Converses table host exchanges (after.notify notice) := by
    intro after exchanges notice converses
    have quiet : Converses table after [] (after.notify notice) := .quiet rfl
    simpa using converses.trans quiet
  apply (talks host).timed
  · rintro a after notice ⟨exchanges, converses, holds⟩
    exact ⟨exchanges, aside notice converses, holds⟩
  · rintro e after notice ⟨exchanges, converses, holds⟩
    exact ⟨exchanges, aside notice converses, holds⟩

end Talks

/-! ### Calls as imports make them -/

namespace Table.Makes

variable {α : Type} {table : Table}

/-- A call that a table passes on as it is. -/
theorem call {call : Call} {shape : α → Answer} {step : Native α}
    (passed : table.answer call = table.call (Simulator.answer call))
    (answers : Simulator.answer call = do return shape (← step)) :
    table.Makes call shape (table.call step) := by
  unfold Makes
  rw [passed, answers]
  funext host
  rw [bind_apply, Table.call, Table.call, onSimulator, onSimulator, bind_apply]
  cases step (host.simulator table.simulator) <;> rfl

end Table.Makes

/-! ### Releases -/

/-- The exchanges are releases of the programs, one for each, in order. -/
def Releases (programs : List ProgramRef) (exchanges : List Exchange) : Prop :=
  exchanges.map Exchange.call = programs.map fun program => .programRelease program.handle

theorem converses_releasePrograms {table : Table} {programs : List ProgramRef}
    (through : ∀ program ∈ programs, program.provider.table = table) (host : Host) :
    ∃ exchanges, Converses table host exchanges (releasePrograms programs host) ∧
      Releases programs exchanges := by
  induction programs generalizing host with
  | nil => exact ⟨[], .done host, rfl⟩
  | cons program programs ih =>
      have makes : table.Makes (.programRelease program.handle) (fun _ => .done)
          (table.call (Simulator.programRelease program.handle)) := .call rfl rfl
      have released : ∃ exchange : Exchange, exchange.call = .programRelease program.handle ∧
          Converses table host [exchange] (program.release host) := by
        have talks := Talks.step makes host
        rw [ProgramRef.release, through program List.mem_cons_self]
        cases outcome : table.call (Simulator.programRelease program.handle) host with
        | ok a after =>
            obtain ⟨_, converses, rfl⟩ := talks.of_ok outcome
            exact ⟨_, rfl, converses.trans (.quiet rfl)⟩
        | error e after =>
            obtain ⟨_, converses, rfl⟩ := talks.of_error outcome
            exact ⟨_, rfl, converses.trans (.quiet rfl)⟩
      obtain ⟨exchange, isRelease, first⟩ := released
      obtain ⟨exchanges, rest, are⟩ :=
        ih (fun other member => through other (List.mem_cons_of_mem program member))
          (program.release host)
      exact ⟨exchange :: exchanges, first.trans rest, by
        simp [Releases, isRelease, show exchanges.map Exchange.call = _ from are]⟩

theorem Talks.orRelease {α : Type} {table : Table} {programs : List ProgramRef} {body : ImportM α}
    {ok : α → List Exchange → Prop} {failed : ImportError → List Exchange → Prop}
    (through : ∀ program ∈ programs, program.provider.table = table)
    (talks : Talks table body ok failed) :
    Talks table (ComputeImport.orRelease programs body) ok
      (fun e exchanges => ∃ said released, exchanges = said ++ released ∧ failed e said ∧
        Releases programs released) := by
  intro host
  apply ends_orRelease.mpr
  apply (talks host).imp
  · exact fun _ _ ended => ended
  · rintro e after ⟨said, converses, holds⟩
    obtain ⟨released, converses', releases⟩ := converses_releasePrograms through after
    exact ⟨said ++ released, converses.trans converses', said, released, rfl, holds, releases⟩

end ComputeImport
