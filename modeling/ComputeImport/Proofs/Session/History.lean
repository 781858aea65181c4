import ComputeImport.Proofs.Session.Tasks
import ComputeImport.Session.Opening

/-!
# The backends of a session

Whatever the steps of a session, every backend is one that a history has led to from its beginning,
so that its store is well formed.
-/

namespace ComputeImport

/-- A backend that a history has led to from its beginning. -/
def Simulator.Arises (sim : Simulator) : Prop :=
  ∃ config history, sim = ({ config } : Simulator).replay history

theorem Simulator.Arises.after {sim : Simulator} (arises : sim.Arises)
    (operation : Simulator.Operation) : (sim.after operation).Arises := by
  rcases arises with ⟨config, history, rfl⟩
  refine ⟨config, history ++ [operation], ?_⟩
  rw [Simulator.replay_append]
  rfl

theorem Simulator.Arises.wellFormed {sim : Simulator} (arises : sim.Arises) :
    sim.store.WellFormed := by
  rcases arises with ⟨config, history, rfl⟩
  exact Simulator.wellFormed_replay Store.wellFormed_empty history

/-- Every backend of a host is one that a history has led to. -/
def Host.Arises (host : Host) : Prop :=
  ∀ number, (host.simulator number).Arises

namespace Host

variable {host : Host}

theorem Arises.advance (arises : host.Arises) (number : Nat) (operation : Simulator.Operation) :
    (host.advance number ((host.simulator number).after operation)).Arises := by
  intro other
  rw [simulator_advance]
  split
  · exact (arises number).after operation
  · exact arises other

theorem respects_arises : Respects (fun _ => True) (fun _ => True) Host.Arises := by
  apply Respects.uncached
  case call => exact fun host number call _ _ arises => arises.advance number (.call call)
  case other =>
    intro host after same _ _ arises number
    rw [simulator_of_simulators same]
    exact arises number

theorem arises_empty : Host.Arises {} :=
  fun _ => ⟨.cuda, [], rfl⟩

/-- What holds of a host is kept when a backend is set up, and does not depend on anything but the
backends, what is held, the caches and which kernels are remembered. -/
structure Begins (holds : Host → Prop) : Prop where
  setUp : ∀ host config, holds host →
    holds { host with simulators := host.simulators.set host.simulators.size { config } }
  other : ∀ host after : Host, after.simulators = host.simulators → after.held = host.held →
    after.caches = host.caches → after.kernelLists = host.kernelLists → holds host → holds after

/-- Setting up a backend begins its history. -/
theorem begins_arises : Begins Host.Arises := by
  constructor
  case setUp =>
    intro host config arises number
    rw [simulator, Ledger.get?_set]
    split
    · exact ⟨config, [], rfl⟩
    · exact arises number
  case other =>
    intro host after same _ _ _ arises number
    rw [simulator_of_simulators same]
    exact arises number

/-- An opening is where the backends have been set up and the registries filled. -/
theorem exists_opening {configs : List SimulatorConfig} {plans : List RegistryPlan}
    {environment : Text.Environment} {filled : Ledger Nat Registry → Host → Prop}
    (fills : Ends (do
        Session.setUpAll configs
        Session.fillAll environment 0 plans : EStateM Empty Host (Ledger Nat Registry)) {}
      filled (fun _ _ => False)) :
    ∃ registries host, filled registries host ∧
      Session.opening configs plans environment =
        { host, given := configs.length, registries, environment } := by
  obtain ⟨registries, host, outcome, holds⟩ := fills.exists_ok
  refine ⟨registries, host, holds, ?_⟩
  unfold Session.opening
  dsimp only
  rw [outcome]

namespace Begins

variable {ε : Type} {holds : Host → Prop}

theorem keeps_notify (begins : Begins holds) (notice : Notice) :
    Keeps holds (ComputeImport.notify notice : EStateM ε Host Unit) :=
  ⟨fun host kept => begins.other host (host.notify notice) rfl rfl rfl rfl kept⟩

theorem keeps_freshIdentity (begins : Begins holds) :
    Keeps holds (freshIdentity : EStateM ε Host Nat) :=
  ⟨fun host kept =>
    begins.other host { host with nextIdentity := host.nextIdentity + 1 } rfl rfl rfl rfl kept⟩

theorem keeps_setUp (begins : Begins holds) (config : SimulatorConfig) :
    Keeps holds (ComputeImport.setUp config : EStateM ε Host Nat) :=
  ⟨fun host kept => begins.setUp host config kept⟩

theorem keeps_registerAll (begins : Begins holds) (registry : Registry)
    (registrations : List Registration) :
    Keeps holds (registerAll registry registrations : EStateM ε Host Registry) := by
  induction registrations generalizing registry with
  | nil => exact Keeps.pure registry
  | cons registration registrations ih =>
      apply Keeps.bind begins.keeps_freshIdentity
      intro identity
      dsimp only
      split
      · exact Keeps.bind (begins.keeps_notify _) fun _ => ih _
      · exact ih _

theorem keeps_setUpReferences (begins : Begins holds) (backends : List Backend) :
    Keeps holds (setUpReferences backends : EStateM ε Host (List Registration)) := by
  induction backends with
  | nil => exact Keeps.pure _
  | cons backend backends ih =>
      unfold setUpReferences
      split
      · apply Keeps.bind (begins.keeps_setUp _)
        intro number
        apply Keeps.bind ih
        exact fun _ => Keeps.pure _
      · exact ih

theorem keeps_referenceRegistry (begins : Begins holds) (environment : Text.Environment) :
    Keeps holds (referenceRegistry environment : EStateM ε Host Registry) :=
  Keeps.bind (begins.keeps_setUpReferences _) fun _ => begins.keeps_registerAll _ _

theorem keeps_setUpAll (begins : Begins holds) (configs : List SimulatorConfig) :
    Keeps holds (Session.setUpAll configs : EStateM ε Host Unit) := by
  induction configs with
  | nil => exact Keeps.pure _
  | cons config configs ih => exact Keeps.bind (begins.keeps_setUp config) fun _ => ih

theorem keeps_fillAll (begins : Begins holds) (environment : Text.Environment) (next : Nat)
    (plans : List RegistryPlan) :
    Keeps holds
      (Session.fillAll environment next plans : EStateM ε Host (Ledger Nat Registry)) := by
  induction plans generalizing next with
  | nil => exact Keeps.pure _
  | cons plan plans ih =>
      have filled : Keeps holds (plan.fill environment : EStateM ε Host Registry) := by
        cases plan with
        | reference => exact begins.keeps_referenceRegistry environment
        | listed registrations options => exact begins.keeps_registerAll _ registrations
      exact Keeps.bind filled fun _ => Keeps.bind (ih (next + 1)) fun _ => Keeps.pure _

/-- What holds of an opening. -/
theorem opening (begins : Begins holds) (empty : holds {}) (configs : List SimulatorConfig)
    (plans : List RegistryPlan) (environment : Text.Environment) :
    holds (Session.opening configs plans environment).host := by
  have fills : Keeps holds (do
      Session.setUpAll configs
      Session.fillAll environment 0 plans : EStateM Empty Host (Ledger Nat Registry)) :=
    Keeps.bind (begins.keeps_setUpAll configs) fun _ => begins.keeps_fillAll environment 0 plans
  obtain ⟨registries, host, filled, isOpening⟩ :=
    exists_opening ((fills.ends {} empty).imp (fun _ _ kept => kept) fun e => e.elim)
  rw [isOpening]
  exact filled

end Begins

end Host

/-- A session starts with nothing held. -/
theorem Session.held_opening {configs : List SimulatorConfig} {plans : List RegistryPlan}
    {environment : Text.Environment} : (opening configs plans environment).host.held = {} := by
  have begins : Host.Begins fun host => host.held = {} :=
    ⟨fun _ _ held => held, fun _ _ _ same _ _ held => same.trans held⟩
  exact begins.opening rfl configs plans environment

namespace Session

/-! ## The parts of a command -/

/-- The backends of a session are those that histories have led to. -/
def Arises (session : Session) : Prop :=
  session.host.Arises

/-- The backends after one more has been set up. -/
def withBackend (host : Host) (number : Nat) (config : SimulatorConfig) : Host :=
  { host with simulators := host.simulators.set number { config } }

theorem simulator_withBackend {host : Host} {number : Nat} {config : SimulatorConfig}
    (other : Nat) :
    (withBackend host number config).simulator other =
      if number = other then { config } else host.simulator other := by
  rw [withBackend, Host.simulator, Ledger.get?_set]
  split <;> rfl

/-- Whether a backend was given is told without changing anything. -/
theorem ends_checkSimulator {number : Nat} {session : Session} :
    Ends (checkSimulator number) session
      (fun _ after => after = session ∧ number < session.given)
      (fun _ after => after = session ∧ ¬ number < session.given) := by
  unfold checkSimulator
  rw [ends_bind, ends_get]
  split
  · rename_i unknown
    exact ⟨rfl, Nat.not_lt.mpr unknown⟩
  · rename_i isGiven
    exact ⟨rfl, Nat.lt_of_not_le isGiven⟩

theorem keeps_checkSimulator {holds : Session → Prop} (number : Nat) :
    Keeps holds (checkSimulator number) := by
  refine Keeps.bind Keeps.get fun session => ?_
  split
  · exact Keeps.throw _
  · exact Keeps.pure _

/-- A table answers any call by a call of its backend, or by none. -/
theorem uses_answer {reached : Nat → Prop} (asked : Table) (known : reached asked.simulator)
    (call : Call) : Uses reached (fun _ => True) (asked.answer call) := by
  cases call with
  | programCompileFor program devices options =>
      exact Uses.bind (Uses.callFor (.of_done (.programCompileFor program devices options) rfl)
        known trivial) fun _ => Uses.pure _
  | programBuildFor program devices options =>
      exact Uses.bind (Uses.callFor (.of_done (.programBuildFor program devices options) rfl)
        known trivial) fun _ => Uses.pure _
  | programLinkFor context devices programs options =>
      exact Uses.bind (Uses.callFor (.of_answer (.programLinkFor context devices programs options)
        rfl) known trivial) fun _ => Uses.pure _
  | programNumDevices program =>
      exact Uses.bind (Uses.bind (Uses.call (.of_answer (.programNumDevices program) rfl) known
        trivial) fun _ => Uses.pure _) fun _ => Uses.pure _
  | _ => exact Uses.call (fun _ => rfl) known trivial

theorem onlyCalls_answer (asked : Table) (call : Call) : OnlyCalls (asked.answer call) :=
  uses_answer asked trivial call

/-- What the caller does directly shows no managed object and no registry. -/
theorem ends_act_bare (action : CallerAction) (sim : Simulator) :
    Ends (act action) sim (fun reply _ => reply.isBare = true) (fun _ _ => True) := by
  cases action with
  | stage | nativeRefs | wrapperRefs | programNative | queueFlags | lastOptions =>
      exact Reply.isBare_ofOption (fun _ => rfl) _
  | isAlive | liveWrappers | callCount | config => exact rfl
  | _ => exact Ends.trivial.bind fun _ _ _ => rfl

theorem keeps_managed {α : Type} {holds : Host → Prop} {body : ImportM α}
    (kept : Keeps holds body) : Keeps (fun session => holds session.host) (managed body) :=
  ⟨fun session holds => ends_managed.mpr (kept.ends session.host holds)⟩

theorem ends_lookupNumbered {session : Session} {number : Nat} :
    Ends (lookupRegistry (some number)) session
      (fun registry after => after = session ∧ session.registries.get? number = some registry)
      (fun _ after => after = session) := by
  unfold lookupRegistry
  rw [ends_bind, ends_get]
  cases found : session.registries.get? number with
  | none => rfl
  | some registry => exact ⟨rfl, rfl⟩

section Beginning

variable {holds : Host → Prop} (begins : Host.Begins holds)

include begins

/-- The process-wide registry may have to be set up before it is used. -/
theorem keeps_lookupRegistry (number : Option Nat) :
    Keeps (fun session => holds session.host) (lookupRegistry number) := by
  cases number with
  | some number =>
      refine Keeps.bind Keeps.get fun session => ?_
      split
      · exact Keeps.pure _
      · exact Keeps.throw _
  | none =>
      have makes : ∀ environment, Keeps holds (do
          notify .registryInitialised
          referenceRegistry environment : ImportM Registry) := fun environment =>
        (begins.keeps_notify _).bind fun _ => begins.keeps_referenceRegistry environment
      refine Keeps.bind Keeps.get fun session => ?_
      split
      · exact Keeps.pure _
      · refine Keeps.bind Keeps.get fun session => ?_
        refine Keeps.bind (keeps_managed (makes session.environment)) fun registry => ?_
        exact Keeps.bind (Keeps.modify fun _ kept => kept) fun _ => Keeps.pure _

/-- Finding a function table may set up the process-wide registry, and does nothing else. -/
theorem keeps_targetTable (target : TableTarget) :
    Keeps (fun session => holds session.host) (targetTable target) := by
  cases target with
  | simulator number => exact Keeps.bind (keeps_checkSimulator number) fun _ => Keeps.pure _
  | registered registry backend =>
      refine Keeps.bind (keeps_lookupRegistry begins registry) fun registry => ?_
      refine ⟨fun session kept => ?_⟩
      rw [ends_bind, ends_managed]
      apply ends_resolve.imp
      · rintro provider _ ⟨-, notice, rfl⟩
        exact begins.other session.host _ rfl rfl rfl rfl kept
      · rintro e _ ⟨-, rfl⟩
        exact kept

end Beginning

/-! ## Histories of the backends -/

section Keeping

variable {α : Type}

theorem keeps_import {body : ImportM α} (uses : OnlyCalls body) : Keeps Arises (managed body) :=
  keeps_managed (uses Host.Arises Host.respects_arises)

theorem keeps_table {body : TableM α} (uses : OnlyCalls body) : Keeps Arises (table body) :=
  ⟨fun session arises =>
    ends_table.mpr ((uses Host.Arises Host.respects_arises).ends session.host arises)⟩

theorem keeps_setup {body : SetupM Filter α} : Keeps Arises (setup body) :=
  ⟨fun _ arises => ends_setup fun _ number => arises number⟩

theorem keeps_keep (name : Option String) (value : Managed) : Keeps Arises (keep name value) := by
  have letGo : ∀ value : Managed, Keeps Arises (modify fun session =>
      { session with host := session.host.letGo value } : SessionM Unit) :=
    fun value => Keeps.modify fun session arises =>
      callsOnly_letGo value Host.Arises Host.respects_arises session.host arises
  cases name with
  | none => exact Keeps.bind (letGo value) fun _ => Keeps.pure _
  | some name =>
      refine Keeps.bind Keeps.get fun session => ?_
      refine Keeps.bind (Keeps.modify fun _ arises => arises) fun _ => ?_
      dsimp only
      split
      · exact Keeps.bind (letGo _) fun _ => Keeps.pure _
      · exact Keeps.pure _

theorem arises_forget (name : String) {session : Session} (arises : session.Arises) :
    (session.forget name).Arises := by
  unfold forget
  split
  · rename_i value _
    exact callsOnly_letGo value Host.Arises Host.respects_arises _ arises
  · exact arises

theorem keeps_ask (target : TableTarget) (request : TableRequest) :
    Keeps Arises (ask target request) := by
  refine Keeps.bind (keeps_targetTable Host.begins_arises target) fun asked => ?_
  cases request with
  | name => exact Keeps.bind Keeps.get fun _ => Keeps.pure _
  | call call => exact Keeps.bind (keeps_table (onlyCalls_answer asked call)) fun _ => Keeps.pure _

theorem keeps_install (number : Nat) : Keeps Arises (install number) := by
  refine Keeps.bind Keeps.get fun session => ?_
  split
  · exact Keeps.throw _
  · refine Keeps.bind (Keeps.modify fun _ arises => arises) fun _ => ?_
    refine Keeps.bind Keeps.get fun session => ?_
    split
    · exact Keeps.throw _
    · exact Keeps.bind (Keeps.modify fun _ arises => arises) fun _ => Keeps.pure _

theorem keeps_make (name : Option String) {body : ImportM α} {value : α → Managed}
    (uses : OnlyCalls body) :
    Keeps Arises (do keep name (value (← managed body))) :=
  Keeps.bind (keeps_import uses) fun _ => keeps_keep name _

end Keeping

theorem keeps_execute (name : Option String) (command : Command) :
    Keeps Arises (execute name command) := by
  refine ⟨fun session arises => ends_execute fun task comes => ?_⟩
  suffices kept : Keeps Arises task from kept.ends session arises
  cases comes with
  | refused failure => exact Keeps.throw failure
  | told | shown => exact Keeps.pure _
  | kept => exact keeps_keep name _
  | asked inquires => exact keeps_import inquires.onlyCalls
  | obtained obtains =>
      exact Keeps.bind (keeps_lookupRegistry Host.begins_arises _) fun registry =>
        keeps_make name (obtains.onlyCalls registry)
  | found => exact keeps_make name (Uses.findOrMakeDevice _ _ [])
  | dropped =>
      exact Keeps.bind (Keeps.modify fun _ arises => arises_forget _ arises) fun _ => Keeps.pure _
  | inspected =>
      exact Keeps.bind (keeps_lookupRegistry Host.begins_arises _) fun _ => Keeps.pure _
  | installed => exact keeps_install _
  | printed => exact Keeps.bind keeps_setup fun _ => Keeps.bind Keeps.get fun _ => Keeps.pure _
  | @acted number action =>
      refine Keeps.bind (keeps_checkSimulator number) fun _ => ?_
      refine ⟨fun session arises => ends_table.mpr (ends_onSimulator.mpr ?_)⟩
      exact ends_stateAfter.mpr (Host.Arises.advance arises number (.caller action))
  | asksTable => exact keeps_ask _ _

/-! ## Runs -/

/-- What is known of where a command ends is known of the step. -/
theorem step_of_ends {session : Session} {next : Step}
    {holds : Except Failure Reply → Session → Prop}
    (ended : Ends (execute next.name next.command) session (fun reply => holds (.ok reply))
      (fun failure => holds (.error failure))) :
    holds (session.step next).1 (session.step next).2 := by
  unfold step
  unfold Ends at ended
  cases outcome : execute next.name next.command session with
  | ok reply after =>
      rw [outcome] at ended
      exact ended
  | error failure after =>
      rw [outcome] at ended
      exact ended

/-- The values that the outcome of a step shows. -/
def shownValues : Except Failure Reply → List Managed
  | .ok reply => reply.values
  | .error _ => []

theorem arises_step {session : Session} (arises : session.Arises) (next : Step) :
    (session.step next).2.Arises := by
  have kept := (keeps_execute next.name next.command).ends session arises
  exact @step_of_ends session next (fun _ after => after.Arises) kept

theorem arises_run {session : Session} (arises : session.Arises) (steps : List Step) :
    (session.run steps).2.Arises := by
  induction steps generalizing session with
  | nil => exact arises
  | cons next steps ih => exact ih (arises_step arises next)

theorem arises_opening (configs : List SimulatorConfig) (plans : List RegistryPlan)
    (environment : Text.Environment) : (opening configs plans environment).Arises :=
  Host.begins_arises.opening Host.arises_empty configs plans environment

/-- A session that steps have led to from an opening. -/
def Reachable (session : Session) : Prop :=
  ∃ configs plans environment steps,
    session = ((opening configs plans environment).run steps).2

theorem Reachable.run {session : Session} (reachable : session.Reachable) (steps : List Step) :
    (session.run steps).2.Reachable := by
  rcases reachable with ⟨configs, plans, environment, before, rfl⟩
  exact ⟨configs, plans, environment, before ++ steps, by rw [run_append]⟩

theorem Reachable.step {session : Session} (reachable : session.Reachable) (next : Step) :
    (session.step next).2.Reachable :=
  reachable.run [next]

/-- In every session, the store of every backend is well formed. -/
theorem Reachable.wellFormed {session : Session} (reachable : session.Reachable) (number : Nat) :
    (session.host.simulator number).store.WellFormed := by
  rcases reachable with ⟨configs, plans, environment, steps, rfl⟩
  exact (arises_run (arises_opening configs plans environment) steps number).wellFormed

end Session

end ComputeImport
