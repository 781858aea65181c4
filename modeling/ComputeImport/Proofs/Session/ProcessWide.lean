import ComputeImport.Proofs.Session.Consulting

/-!
# The process-wide registry

A session has one process-wide registry from the first command on that comes to it: the one that
the command installs, or else a registry of reference backends with the options that the environment
gives at that moment.  An installation that comes later fails, and any other command does with the
process-wide registry what it does with the same registry under a number.
-/

namespace ComputeImport

open Text

/-! ## The options that an environment gives -/

/-- Options are the texts of the two variables, as far as these are set and not blank. -/
structure BuildOptions.GivenBy (environment : Environment) (options : BuildOptions) : Prop where
  compile : ∀ text, options.compile = some text ↔
    environment.text? "HOLOGRAM_PROGRAM_COMPILE_OPTIONS" = some text ∧ isBlankText text = false
  link : ∀ text, options.link = some text ↔
    environment.text? "HOLOGRAM_PROGRAM_LINK_OPTIONS" = some text ∧ isBlankText text = false

theorem nonBlank?_eq_some {environment : Environment} {key text : String} :
    environment.nonBlank? key = some text ↔
      environment.text? key = some text ∧ isBlankText text = false := by
  rw [Environment.nonBlank?, Option.filter_eq_some_iff, Bool.not_eq_true']

theorem BuildOptions.givenBy_ofEnvironment (environment : Environment) :
    GivenBy environment (.ofEnvironment environment) :=
  ⟨fun _ => nonBlank?_eq_some, fun _ => nonBlank?_eq_some⟩

namespace Session

variable {session : Session} {name : Option String} {command : Command}

/-! ## Making the registry -/

theorem ends_setUpReferencesOk {ε : Type} {backends : List Backend} {host : Host} :
    Ends (setUpReferences backends : EStateM ε Host (List Registration)) host (fun _ _ => True)
      (fun _ _ => False) := by
  induction backends generalizing host with
  | nil => exact True.intro
  | cons backend backends ih =>
      unfold setUpReferences
      split
      · rw [ends_bind, setUp, ends_modifyGet, ends_bind]
        exact ih.imp (fun _ _ _ => True.intro) fun _ _ failed => failed
      · exact ih

/-- Reference backends can always be set up and registered. -/
theorem ends_registerReferences {ε : Type} (options : BuildOptions) (backends : List Backend)
    (host : Host) :
    Ends (do registerAll { options } (← setUpReferences backends) : EStateM ε Host Registry) host
      (fun registry _ => registry.options = options) (fun _ _ => False) := by
  refine ends_setUpReferencesOk.bind fun registrations after _ => ?_
  exact (ends_registerAllLastWins options registrations after).imp (fun _ _ ended => ended.2)
    fun _ _ failed => failed

theorem ends_referenceOptions {ε : Type} (environment : Environment) (host : Host) :
    Ends (referenceRegistry environment : EStateM ε Host Registry) host
      (fun registry after => registry.options = .ofEnvironment environment ∧
        after.held = host.held)
      (fun _ _ => False) := by
  have begins : Host.Begins fun after => after.held = host.held :=
    ⟨fun _ _ held => held, fun _ _ _ same _ _ held => same.trans held⟩
  have keeps : Keeps (fun after : Host => after.held = host.held)
      (referenceRegistry environment : EStateM ε Host Registry) :=
    begins.keeps_referenceRegistry environment
  unfold referenceRegistry at keeps ⊢
  -- The registry of reference backends is not to be evaluated.
  generalize Backend.linked = backends at keeps ⊢
  exact (Ends.and (ends_registerReferences _ backends host) (keeps.ends host rfl)).imp
    (fun _ _ ended => ended) fun _ _ failed => failed.1

theorem processWideRegistry_of_some {registry : Registry}
    (settled : session.processWide = some registry) :
    processWideRegistry session = .ok registry session := by
  unfold processWideRegistry
  rw [bind_apply]
  dsimp only [get, getThe, MonadStateOf.get, EStateM.get]
  rw [settled]
  rfl

theorem processWideRegistry_of_none (unset : session.processWide = none) :
    ∃ registry host, (do
        notify .registryInitialised
        referenceRegistry session.environment : ImportM Registry) session.host =
          .ok registry host ∧
      registry.options = .ofEnvironment session.environment ∧
      host.held = session.host.held ∧
      processWideRegistry session =
        .ok registry { session with host, processWide := some registry } := by
  have makes := @ends_referenceOptions ImportError session.environment
  unfold processWideRegistry
  -- The registry of reference backends is not to be evaluated.
  generalize (referenceRegistry : Environment → ImportM Registry) = making at makes ⊢
  have initialises : Ends (do
      notify .registryInitialised
      making session.environment) session.host
      (fun registry after => registry.options = .ofEnvironment session.environment ∧
        after.held = session.host.held) (fun _ _ => False) := by
    rw [ends_bind, ends_notify]
    exact makes _
  obtain ⟨registry, host, made, options, held⟩ := initialises.exists_ok
  refine ⟨registry, host, made, options, held, ?_⟩
  rw [bind_apply]
  dsimp only [get, getThe, MonadStateOf.get, EStateM.get]
  rw [unset]
  change (managed _ >>= _) session = _
  rw [bind_apply, managed, made]
  rfl

/-! ## Installing a registry -/

variable {number : Nat} {given : Registry}

theorem execute_install_of_none (found : session.registries.get? number = some given)
    (unset : session.processWide = none) :
    execute name (.install number) session = .ok (.backends given.backends)
      { session with
        registries := session.registries.erase number
        processWide := some given } := by
  have ends : Ends (install number) session (fun reply after => reply = .backends given.backends ∧
      after = { session with
        registries := session.registries.erase number
        processWide := some given }) (fun _ _ => False) := by
    unfold install
    rw [ends_bind, ends_get, found]
    dsimp only
    rw [ends_bind, ends_modify, ends_bind, ends_get]
    dsimp only
    rw [unset]
    exact ⟨rfl, rfl⟩
  obtain ⟨_, _, outcome, rfl, rfl⟩ := ends.exists_ok
  exact outcome

theorem execute_install_of_some {registry : Registry}
    (found : session.registries.get? number = some given)
    (settled : session.processWide = some registry) :
    execute name (.install number) session = .error (.managed .registryInstalled)
      { session with registries := session.registries.erase number } := by
  have ends : Ends (install number) session (fun _ _ => False) (fun e after =>
      e = .managed .registryInstalled ∧
        after = { session with registries := session.registries.erase number }) := by
    unfold install
    rw [ends_bind, ends_get, found]
    dsimp only
    rw [ends_bind, ends_modify, ends_bind, ends_get]
    dsimp only
    rw [settled]
    exact ⟨rfl, rfl⟩
  obtain ⟨_, _, outcome, rfl, rfl⟩ := ends.exists_error
  exact outcome

theorem execute_install_missing (missing : session.registries.get? number = none) :
    execute name (.install number) session = .error (.missing "registry") session := by
  have ends : Ends (install number) session (fun _ _ => False) (fun e after =>
      e = .missing "registry" ∧ after = session) := by
    unfold install
    rw [ends_bind, ends_get, missing]
    exact ⟨rfl, rfl⟩
  obtain ⟨_, _, outcome, rfl, rfl⟩ := ends.exists_error
  exact outcome

/-! ## Asking for the registry -/

theorem lookupRegistry_of_some {registry : Registry}
    (found : session.registries.get? number = some registry) :
    lookupRegistry (some number) session = .ok registry session := by
  change ((get : SessionM Session) >>= _) session = _
  rw [bind_apply]
  dsimp only [get, getThe, MonadStateOf.get, EStateM.get]
  rw [found]
  rfl

/-- A command that asks for the process-wide registry works with it from where the registry is
there. -/
theorem execute_of_entered {entered : Session} {registry : Registry}
    {body : Registry → SessionM Reply}
    (consults : ∀ given (session' : Session), session'.host.held = session.host.held →
      execute name (command.withRegistry given) session' = (lookupRegistry given >>= body) session')
    (takes : command.registry? = some none)
    (entering : processWideRegistry session = .ok registry entered) :
    execute name command session = body registry entered := by
  have direct := consults none session rfl
  have entering : lookupRegistry none session = .ok registry entered := entering
  rw [Command.withRegistry_self takes] at direct
  rw [direct, bind_apply, entering]

/-- A command that is given the process-wide registry does what it does with that registry under a
number, from where the registry is there. -/
theorem execute_eq_numbered {entered : Session} {registry : Registry}
    (takes : command.registry? = some none) (known : session.knows command = true)
    (entering : processWideRegistry session = .ok registry entered)
    (held : entered.host.held = session.host.held)
    (registriesKept : entered.registries = session.registries)
    {registries : Ledger Nat Registry} (found : registries.get? number = some registry) :
    execute name command session =
      inState (fun after => { after with registries := session.registries })
        (execute name (command.withRegistry (some number)) { entered with registries }) := by
  obtain ⟨body, apart, consults⟩ : session.Consults name command := consults_of_knows takes known
  have numbered : execute name (command.withRegistry (some number)) { entered with registries } =
      inState (fun after => withRegistries after registries entered.processWide)
        (body registry entered) := by
    have found' : lookupRegistry (some number) { entered with registries } = .ok registry _ :=
      lookupRegistry_of_some found
    rw [consults (some number) { entered with registries } held, bind_apply, found']
    exact apart registry entered registries entered.processWide
  have kept := (apart registry).ends entered
  rw [execute_of_entered consults takes entering, numbered]
  cases outcome : body registry entered with
  | ok reply after =>
      obtain ⟨registriesSame, processWideSame⟩ := kept.of_ok outcome
      change _ = EStateM.Result.ok reply
        (withRegistries after session.registries entered.processWide)
      rw [withRegistries, ← registriesKept, ← registriesSame, ← processWideSame]
  | error e after =>
      obtain ⟨registriesSame, processWideSame⟩ := kept.of_error outcome
      change _ = EStateM.Result.error e
        (withRegistries after session.registries entered.processWide)
      rw [withRegistries, ← registriesKept, ← registriesSame, ← processWideSame]

/-- A command that asks for the process-wide registry leaves it there. -/
theorem ends_execute_asked {entered : Session} {registry : Registry}
    (takes : command.registry? = some none) (known : session.knows command = true)
    (entering : processWideRegistry session = .ok registry entered) :
    Ends (execute name command) session
      (fun _ after => after.processWide = entered.processWide)
      (fun _ after => after.processWide = entered.processWide) := by
  obtain ⟨body, apart, consults⟩ : session.Consults name command := consults_of_knows takes known
  have kept := (apart registry).ends entered
  unfold Ends at kept ⊢
  rw [execute_of_entered consults takes entering]
  cases outcome : body registry entered with
  | ok reply after =>
      rw [outcome] at kept
      exact kept.2
  | error e after =>
      rw [outcome] at kept
      exact kept.2

/-- A command that does not ask for the process-wide registry, and installs none, leaves it as it
is. -/
theorem ends_execute_unasked
    (unasked : command.registry? = some none → session.knows command = false)
    (uninstalled : ∀ number, command = .install number → session.registries.get? number = none) :
    Ends (execute name command) session
      (fun _ after => after.processWide = session.processWide)
      (fun _ after => after.processWide = session.processWide) := by
  cases takes : command.registry? with
  | none =>
      by_cases installs : ∃ number, command = .install number
      · obtain ⟨number, rfl⟩ := installs
        exact (ends_iff_of_error (execute_install_missing (uninstalled number rfl))).mpr rfl
      · have apart : Apart (execute name command) :=
          apart_execute takes fun number isInstall => installs ⟨number, isInstall⟩
        exact (apart.ends session).imp (fun _ _ kept => kept.2) fun _ _ kept => kept.2
  | some registry =>
      cases known : session.knows command with
      | false =>
          obtain ⟨e, refused⟩ : ∃ e, execute name command session = .error e session :=
            refused_of_not_knows known
          exact (ends_iff_of_error refused).mpr rfl
      | true =>
          cases registry with
          | none => exact absurd (unasked takes) (by rw [known]; exact Bool.noConfusion)
          | some number =>
              obtain ⟨body, apart, consults⟩ : session.Consults name command :=
                consults_of_knows takes known
              have direct := consults (some number) session rfl
              rw [Command.withRegistry_self takes] at direct
              have ends : Ends (lookupRegistry (some number) >>= body) session
                  (fun _ after => after.processWide = session.processWide)
                  (fun _ after => after.processWide = session.processWide) := by
                refine (ends_lookupNumbered.imp (fun _ _ found => found.1) ?_).bind ?_
                · rintro e _ rfl
                  rfl
                · rintro registry after rfl
                  exact ((apart registry).ends after).imp (fun _ _ kept => kept.2)
                    fun _ _ kept => kept.2
              unfold Ends at ends ⊢
              rw [direct]
              exact ends

/-! ## Runs in changing environments -/

/-- A moment of a run: the session, in the environment of the moment, and the step that is next. -/
structure Moment where
  session : Session
  step : Step

/-- The moments of a run of steps, each of which has an environment of its own. -/
def moments (session : Session) : List (Environment × Step) → List Moment
  | [] => []
  | (environment, next) :: steps =>
      let now : Moment := ⟨{ session with environment }, next⟩
      now :: moments (now.session.step next).2 steps

namespace Moment

/-- Whether the step asks for the process-wide registry. -/
def asks (now : Moment) : Bool :=
  now.step.command.registry? = some none && now.session.knows now.step.command

/-- Whether the step installs a registry, or tries to. -/
def installs (now : Moment) : Bool :=
  match now.step.command with
  | .install number => now.session.registries.contains number
  | _ => false

/-- Whether the step comes to the process-wide registry. -/
def comes (now : Moment) : Bool :=
  now.asks || now.installs

/-- The registry that is there after a moment, when it is the first one to come to it. -/
inductive Settles (now : Moment) (registry : Registry) : Prop
  | installed {number : Nat} (installs : now.step.command = .install number)
      (found : now.session.registries.get? number = some registry)
  | made {host : Host} (asks : now.asks = true)
      (made : (do
        notify .registryInitialised
        referenceRegistry now.session.environment : ImportM Registry) now.session.host =
          .ok registry host)
      (options : BuildOptions.GivenBy now.session.environment registry.options)

/-- What a step does with the process-wide registry, after some earlier moments of the run. -/
structure Obeys (registry : Registry) (earlier : List Moment) (now : Moment) : Prop where
  /-- The registry is there just when an earlier step has come to it. -/
  settled : now.session.processWide = if earlier.any comes then some registry else none
  /-- A registry is installed when no earlier step has come; otherwise that fails and changes
  nothing, but the registry that was to be installed is gone. -/
  install : ∀ number given, now.step.command = .install number →
    now.session.registries.get? number = some given →
    now.session.step now.step =
      if earlier.any comes then
        (.error (.managed .registryInstalled),
          { now.session with registries := now.session.registries.erase number })
      else
        (.ok (.backends given.backends),
          { now.session with
            registries := now.session.registries.erase number
            processWide := some given })
  /-- A step that asks for the registry does what it does with the same registry under a number,
  from where the registry is there. -/
  ask : now.asks = true → ∃ entered, processWideRegistry now.session = .ok registry entered ∧
    (earlier.any comes = true → entered = now.session) ∧
    ∀ number registries, registries.get? number = some registry →
      now.session.step now.step =
        let ended := ({ entered with registries } : Session).step
          { now.step with command := now.step.command.withRegistry (some number) }
        (ended.1, { ended.2 with registries := now.session.registries })

end Moment

namespace Moment

variable {now : Moment} {registry : Registry}

/-- The session after the step. -/
def after (now : Moment) : Session :=
  (now.session.step now.step).2

theorem after_eq_stateAfter (now : Moment) :
    now.after = stateAfter (execute now.step.name now.step.command) now.session := by
  unfold after Session.step stateAfter
  cases execute now.step.name now.step.command now.session <;> rfl

theorem asks_iff : now.asks = true ↔
    now.step.command.registry? = some none ∧ now.session.knows now.step.command = true := by
  rw [asks, Bool.and_eq_true, decide_eq_true_eq]

theorem installs_iff : now.installs = true ↔ ∃ number given,
    now.step.command = .install number ∧ now.session.registries.get? number = some given := by
  unfold installs
  split
  · rename_i number isInstall
    rw [Ledger.contains, Option.isSome_iff_exists, isInstall]
    constructor
    · rintro ⟨given, found⟩
      exact ⟨number, given, rfl, found⟩
    · rintro ⟨_, given, ⟨⟩, found⟩
      exact ⟨given, found⟩
  · rename_i other
    constructor
    · exact fun impossible => absurd impossible Bool.false_ne_true
    · rintro ⟨number, given, isInstall, -⟩
      exact absurd isInstall (other number)

/-- A step that does not come to the registry leaves it as it is. -/
theorem processWide_after_of_not_comes (away : now.comes = false) :
    now.after.processWide = now.session.processWide := by
  obtain ⟨unasked, uninstalled⟩ := Bool.or_eq_false_iff.mp away
  rw [after_eq_stateAfter]
  refine ends_stateAfter.mp (ends_execute_unasked ?_ ?_)
  · intro takes
    rw [asks, takes, decide_eq_true rfl, Bool.true_and] at unasked
    exact unasked
  · intro number isInstall
    cases found : now.session.registries.get? number with
    | none => rfl
    | some given =>
        rw [installs_iff.mpr ⟨number, given, isInstall, found⟩] at uninstalled
        contradiction

/-- A registry that is there stays there. -/
theorem processWide_after_of_some (settled : now.session.processWide = some registry) :
    now.after.processWide = some registry := by
  cases asked : now.asks with
  | true =>
      obtain ⟨takes, known⟩ := asks_iff.mp asked
      rw [after_eq_stateAfter]
      refine (ends_stateAfter.mp (ends_execute_asked takes known
        (processWideRegistry_of_some settled))).trans settled
  | false =>
      cases installed : now.installs with
      | true =>
          obtain ⟨number, given, isInstall, found⟩ := installs_iff.mp installed
          rw [after_eq_stateAfter, isInstall, stateAfter, execute_install_of_some found settled]
          exact settled
      | false =>
          rw [processWide_after_of_not_comes (by rw [comes, asked, installed]; rfl)]
          exact settled

/-- The first step that comes to the registry settles it. -/
theorem exists_settles (unset : now.session.processWide = none) (isComing : now.comes = true) :
    ∃ registry, now.Settles registry ∧ now.after.processWide = some registry := by
  rcases Bool.or_eq_true_iff.mp isComing with asked | installed
  · obtain ⟨takes, known⟩ := asks_iff.mp asked
    obtain ⟨registry, host, made, options, -, entering⟩ := processWideRegistry_of_none unset
    have given := BuildOptions.givenBy_ofEnvironment now.session.environment
    rw [← options] at given
    refine ⟨registry, .made asked made given, ?_⟩
    rw [after_eq_stateAfter]
    exact ends_stateAfter.mp (ends_execute_asked takes known entering)
  · obtain ⟨number, given, isInstall, found⟩ := installs_iff.mp installed
    refine ⟨given, .installed isInstall found, ?_⟩
    rw [after_eq_stateAfter, isInstall, stateAfter, execute_install_of_none found unset]

end Moment

namespace Moment

/-! ## One registry for a run -/

variable {now : Moment} {registry : Registry} {earlier : List Moment}

theorem step_eq (now : Moment) : now.session.step now.step =
    match execute now.step.name now.step.command now.session with
    | .ok reply after => (.ok reply, after)
    | .error failure after => (.error failure, after) := by
  unfold Session.step
  cases execute now.step.name now.step.command now.session <;> rfl

/-- A step that asks for the registry settles the options to be those that its environment gives. -/
theorem Settles.options_of_asks (settles : now.Settles registry) (asked : now.asks = true) :
    BuildOptions.GivenBy now.session.environment registry.options := by
  cases settles with
  | installed isInstall _ =>
      have takes := (asks_iff.mp asked).1
      rw [isInstall] at takes
      cases takes
  | made _ _ options => exact options

/-- A step that asks for the registry gets the one that is there, or that it settles itself. -/
theorem exists_entered
    (settled : now.session.processWide = if earlier.any comes then some registry else none)
    (settles : earlier.any comes = false → now.comes = true → now.Settles registry)
    (asked : now.asks = true) :
    ∃ entered, processWideRegistry now.session = .ok registry entered ∧
      (earlier.any comes = true → entered = now.session) ∧
      entered.host.held = now.session.host.held ∧
      entered.registries = now.session.registries := by
  cases come : earlier.any comes with
  | true =>
      rw [come, if_pos rfl] at settled
      exact ⟨now.session, processWideRegistry_of_some settled, fun _ => rfl, rfl, rfl⟩
  | false =>
      rw [come, if_neg Bool.false_ne_true] at settled
      obtain ⟨registry', host, made, -, held, entering⟩ := processWideRegistry_of_none settled
      have isComing : now.comes = true := by
        rw [comes, asked]
        rfl
      cases settles come isComing with
      | installed isInstall _ =>
          have takes := (asks_iff.mp asked).1
          rw [isInstall] at takes
          cases takes
      | made _ made' _ =>
          rw [made] at made'
          cases made'
          exact ⟨_, entering, fun impossible => absurd impossible Bool.false_ne_true, held, rfl⟩

/-- What a step does follows from which registry is there. -/
theorem obeys_of_settled
    (settled : now.session.processWide = if earlier.any comes then some registry else none)
    (settles : earlier.any comes = false → now.comes = true → now.Settles registry) :
    now.Obeys registry earlier := by
  constructor
  case settled => exact settled
  case install =>
    intro number given isInstall found
    rw [step_eq, isInstall]
    cases come : earlier.any comes with
    | true =>
        rw [come, if_pos rfl] at settled
        rw [execute_install_of_some found settled]
        rfl
    | false =>
        rw [come, if_neg Bool.false_ne_true] at settled
        rw [execute_install_of_none found settled]
        rfl
  case ask =>
    intro asked
    obtain ⟨takes, known⟩ := asks_iff.mp asked
    obtain ⟨entered, entering, same, held, registriesKept⟩ :=
      exists_entered settled settles asked
    refine ⟨entered, entering, same, fun number registries found => ?_⟩
    rw [step_eq, execute_eq_numbered takes known entering held registriesKept found]
    dsimp only [Session.step]
    cases execute now.step.name (now.step.command.withRegistry (some number))
      { entered with registries } <;> rfl

end Moment

/-- The moments of a run of one step more. -/
theorem moments_cons (session : Session) (environment : Environment) (next : Step)
    (steps : List (Environment × Step)) :
    session.moments ((environment, next) :: steps) =
      ⟨{ session with environment }, next⟩ ::
        moments (Moment.after ⟨{ session with environment }, next⟩) steps :=
  rfl

variable {registry : Registry}

/-- A registry that is there at the start is there at every moment. -/
theorem processWide_of_mem_moments (settled : session.processWide = some registry)
    (history : List (Environment × Step)) :
    ∀ now ∈ session.moments history, now.session.processWide = some registry := by
  induction history generalizing session with
  | nil => exact fun now member => absurd member List.not_mem_nil
  | cons first history ih =>
      obtain ⟨environment, next⟩ := first
      intro now member
      rw [moments_cons] at member
      rcases List.mem_cons.mp member with rfl | member
      · exact settled
      · exact ih (Moment.processWide_after_of_some settled) now member

/-- Some registry is the one that is there after the first moment that comes to it. -/
theorem exists_settled (unset : session.processWide = none) (history : List (Environment × Step)) :
    ∃ registry, ∀ earlier now later, session.moments history = earlier ++ now :: later →
      (now.session.processWide = if earlier.any Moment.comes then some registry else none) ∧
      (earlier.any Moment.comes = false → now.comes = true → now.Settles registry) := by
  induction history generalizing session with
  | nil =>
      refine ⟨{}, fun earlier now later split => ?_⟩
      cases earlier <;> contradiction
  | cons first history ih =>
      obtain ⟨environment, next⟩ := first
      rw [moments_cons]
      generalize isFirst : (⟨{ session with environment }, next⟩ : Moment) = first
      have unset' : first.session.processWide = none := by
        rw [← isFirst]
        exact unset
      cases isComing : first.comes with
      | true =>
          obtain ⟨registry, settles, settled⟩ := Moment.exists_settles unset' isComing
          refine ⟨registry, fun earlier now later split => ?_⟩
          cases earlier with
          | nil =>
              obtain ⟨rfl, -⟩ := List.cons.inj split
              exact ⟨unset', fun _ _ => settles⟩
          | cons head earlier =>
              obtain ⟨rfl, rest⟩ := List.cons.inj split
              have come : List.any (first :: earlier) Moment.comes = true := by
                rw [List.any_cons, isComing, Bool.true_or]
              rw [come, if_pos rfl]
              refine ⟨processWide_of_mem_moments settled history now ?_,
                fun impossible => absurd impossible.symm Bool.false_ne_true⟩
              rw [rest]
              exact List.mem_append_right _ List.mem_cons_self
      | false =>
          have unset'' : first.after.processWide = none :=
            (Moment.processWide_after_of_not_comes isComing).trans unset'
          obtain ⟨registry, holds⟩ := ih unset''
          refine ⟨registry, fun earlier now later split => ?_⟩
          cases earlier with
          | nil =>
              obtain ⟨rfl, -⟩ := List.cons.inj split
              refine ⟨unset', fun _ impossible => ?_⟩
              rw [isComing] at impossible
              contradiction
          | cons head earlier =>
              obtain ⟨rfl, rest⟩ := List.cons.inj split
              rw [List.any_cons, isComing, Bool.false_or]
              exact holds earlier now later rest

/-- A run has one process-wide registry: the first moment that comes to it settles it, and every
moment has to do with that one. -/
def HasOne (start : Session) (history : List (Environment × Step)) : Prop :=
  ∃ registry,
    (∀ earlier first later, start.moments history = earlier ++ first :: later →
      earlier.any Moment.comes = false → first.comes = true → first.Settles registry) ∧
    ∀ earlier now later, start.moments history = earlier ++ now :: later →
      Moment.Obeys registry earlier now

theorem hasOne_of_unset (unset : session.processWide = none)
    (history : List (Environment × Step)) : session.HasOne history := by
  obtain ⟨registry, holds⟩ := exists_settled unset history
  refine ⟨registry, ?_, ?_⟩
  · exact fun earlier first later split => (holds earlier first later split).2
  · intro earlier now later split
    obtain ⟨settled, settles⟩ := holds earlier now later split
    exact Moment.obeys_of_settled settled settles

end Session

/-- Registries resolve what the last registrations say.  A session without a process-wide registry
has one from the first command on that comes to it, whatever commands are run in whatever
environments. -/
theorem lastWins_and_hasOne {ε : Type} (options : BuildOptions) (registrations : List Registration)
    (host : Host) (start : Session) (unset : start.processWide = none)
    (history : List (Environment × Step)) :
    (∃ registry after,
      (registerAll { options } registrations : EStateM ε Host Registry) host = .ok registry after ∧
        registry.LastWins registrations ∧ registry.options = options) ∧
    start.HasOne history :=
  ⟨(ends_registerAllLastWins options registrations host).exists_ok,
    Session.hasOne_of_unset unset history⟩

/-- A backend that is refused settles the registry all the same, with the options that the
environment gives at that moment. -/
theorem lastWins_and_hasOne_refused :
    let start := Session.opening [] [] {}
    let environment : Environment := ⟨[("HOLOGRAM_PROGRAM_COMPILE_OPTIONS", "-O3".toUTF8)]⟩
    let first : Session.Moment := ⟨{ start with environment }, { command := .resolve none .any }⟩
    let second : Session.Moment :=
      ⟨{ first.after with environment := {} }, { command := .inspectRegistry none }⟩
    ∃ registry entered, registry.options.compile = some "-O3" ∧ registry.options.link = none ∧
      Session.processWideRegistry second.session = .ok registry entered := by
  intro start environment first second
  have unset : start.processWide = none := rfl
  have split : start.moments [(environment, { command := .resolve none .any }),
      ({}, { command := .inspectRegistry none })] = [first, second] := by
    rw [Session.moments_cons, Session.moments_cons]
    rfl
  obtain ⟨-, registry, settles, obeys⟩ := @lastWins_and_hasOne Empty {} [] {} start unset
    [(environment, { command := .resolve none .any }), ({}, { command := .inspectRegistry none })]
  have settled : first.Settles registry := settles [] first [second] split rfl rfl
  obtain ⟨entered, entering, -⟩ := (obeys [first] second [] split).ask rfl
  have given : BuildOptions.GivenBy environment registry.options := settled.options_of_asks rfl
  refine ⟨registry, entered, (given.compile "-O3").mpr ⟨?_, ?_⟩, ?_, entering⟩
  · decide +kernel
  · decide +kernel
  · rw [Option.eq_none_iff_forall_ne_some]
    intro text isLink
    have unset : environment.text? "HOLOGRAM_PROGRAM_LINK_OPTIONS" = none := by decide +kernel
    exact Option.some_ne_none text (((given.link text).mp isLink).1.symm.trans unset)

end ComputeImport
