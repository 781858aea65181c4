import ComputeImport.Proofs.Session.Registration

/-!
# Commands and the registry that they consult

A command that works with a registry finds the managed objects that it names, looks the registry up
once, and from there on has nothing to do with registries.  All other commands but an installation
have nothing to do with registries at all.
-/

namespace ComputeImport

open Text

namespace Command

/-- The registry that a command is given, if it works with one. -/
def registry? : Command → Option (Option Nat)
  | .ask (.registered registry _) _ | .resolve registry _ | .inspectRegistry registry
  | .makePlatform registry _ _ | .makeDevice registry _ _ | .makeContext registry _ _
  | .makeQueue registry _ _ _ _ _ _ _ | .makeEvent registry _ _ _ _
  | .importProgram registry _ _ _ _ _ | .importKernel registry _ _ _ _ _
  | .makeKernel registry _ _ _ => some registry
  | _ => none

/-- The same command, with another registry where it works with one. -/
def withRegistry (registry : Option Nat) : Command → Command
  | .ask (.registered _ backend) request => .ask (.registered registry backend) request
  | .resolve _ backend => .resolve registry backend
  | .inspectRegistry _ => .inspectRegistry registry
  | .makePlatform _ native backend => .makePlatform registry native backend
  | .makeDevice _ native backend => .makeDevice registry native backend
  | .makeContext _ native backend => .makeContext registry native backend
  | .makeQueue _ native descriptor context device keeps properties backend =>
      .makeQueue registry native descriptor context device keeps properties backend
  | .makeEvent _ native context keeps backend => .makeEvent registry native context keeps backend
  | .importProgram _ native context keeps target backend =>
      .importProgram registry native context keeps target backend
  | .importKernel _ native context bundle keeps backend =>
      .importKernel registry native context bundle keeps backend
  | .makeKernel _ native context backend => .makeKernel registry native context backend
  | command => command

theorem withRegistry_self {command : Command} {registry : Option Nat}
    (takes : command.registry? = some registry) : command.withRegistry registry = command := by
  unfold registry? at takes
  split at takes <;> cases takes <;> rfl

end Command

namespace Session

variable {α β : Type} {session : Session}

/-- The same session with other registries. -/
def withRegistries (session : Session) (registries : Ledger Nat Registry)
    (processWide : Option Registry) : Session :=
  { session with registries, processWide }

/-! ## Programs that have nothing to do with registries -/

/-- A program leaves the registries alone, and does the same whatever they are. -/
def Apart (program : SessionM α) : Prop :=
  ∀ session registries processWide,
    program (withRegistries session registries processWide) =
      inState (fun after => withRegistries after registries processWide) (program session)

namespace Apart

variable {program : SessionM α} {next : α → SessionM β}

theorem pure (a : α) : Apart (Pure.pure a) :=
  fun _ _ _ => rfl

theorem throw (failure : Failure) : Apart (MonadExcept.throw failure : SessionM α) :=
  fun _ _ _ => rfl

theorem bind (first : Apart program) (rest : ∀ a, Apart (next a)) : Apart (program >>= next) := by
  intro session registries processWide
  rw [bind_apply, bind_apply, first]
  cases program session with
  | ok a after => exact rest a after registries processWide
  | error e after => rfl

/-- A program may look at the rest of the session. -/
theorem get_bind {next : Session → SessionM α} (rest : ∀ session, Apart (next session))
    (same : ∀ session registries processWide,
      next (withRegistries session registries processWide) = next session) :
    Apart (get >>= next) := by
  intro session registries processWide
  change next (withRegistries session registries processWide) _ = _
  rw [same]
  exact rest session session registries processWide

theorem modify {change : Session → Session} (same : ∀ session registries processWide,
      change (withRegistries session registries processWide) =
        withRegistries (change session) registries processWide) :
    Apart (modify change : SessionM Unit) :=
  fun session registries processWide =>
    congrArg (EStateM.Result.ok ()) (same session registries processWide)

theorem managed (body : ImportM α) : Apart (managed body) := by
  intro session registries processWide
  unfold Session.managed withRegistries
  dsimp only
  cases body session.host <;> rfl

theorem table (body : TableM α) : Apart (table body) := by
  intro session registries processWide
  unfold Session.table withRegistries
  dsimp only
  cases body session.host <;> rfl

theorem setup (body : SetupM Filter α) : Apart (setup body) := by
  intro session registries processWide
  unfold Session.setup withRegistries
  dsimp only
  cases body session.host.output <;> rfl

/-- A program that has nothing to do with registries leaves them as they are. -/
theorem ends (apart : Apart program) (session : Session) :
    Ends program session
      (fun _ after => after.registries = session.registries ∧
        after.processWide = session.processWide)
      (fun _ after => after.registries = session.registries ∧
        after.processWide = session.processWide) := by
  have same := apart session session.registries session.processWide
  change program session = _ at same
  unfold Ends
  cases outcome : program session with
  | ok a after =>
      rw [outcome] at same
      rw [(EStateM.Result.ok.inj same).2]
      exact ⟨rfl, rfl⟩
  | error e after =>
      rw [outcome] at same
      rw [(EStateM.Result.error.inj same).2]
      exact ⟨rfl, rfl⟩

end Apart

theorem apart_keep (name : Option String) (value : Managed) : Apart (keep name value) := by
  have letGo : ∀ value : Managed, Apart (modify fun session =>
      { session with host := session.host.letGo value } : SessionM Unit) :=
    fun value => .modify fun _ _ _ => rfl
  cases name with
  | none => exact (letGo value).bind fun _ => .pure _
  | some name =>
      refine .get_bind (fun session => ?_) fun _ _ _ => rfl
      refine Apart.bind (.modify fun _ _ _ => rfl) fun _ => ?_
      dsimp only
      split
      · exact (letGo _).bind fun _ => .pure _
      · exact .pure _

/-- What is made is held. -/
theorem apart_keep_managed (name : Option String) (value : α → Managed) (body : ImportM α) :
    Apart (do keep name (value (← managed body))) :=
  Apart.bind (.managed body) fun a => apart_keep name (value a)

/-! ## Finding managed objects -/

/-- A program only looks at what is held. -/
def Looks (look : SessionM α) : Prop :=
  ∀ session session' : Session, session'.host.held = session.host.held →
    look session' = inState (fun _ => session') (look session)

namespace Looks

variable {look : SessionM α} {next : α → SessionM β}

theorem pure (a : α) : Looks (Pure.pure a) :=
  fun _ _ _ => rfl

theorem throw (failure : Failure) : Looks (MonadExcept.throw failure : SessionM α) :=
  fun _ _ _ => rfl

theorem bind (first : Looks look) (rest : ∀ a, Looks (next a)) : Looks (look >>= next) := by
  intro session session' held
  have unchanged := first session session rfl
  rw [bind_apply, bind_apply, first session session' held]
  cases found : look session with
  | ok a after =>
      rw [found] at unchanged
      obtain ⟨-, rfl⟩ := EStateM.Result.ok.inj unchanged
      exact rest a after session' held
  | error e after => rfl

theorem lookup (name : String) : Looks (lookup name) := by
  intro session session' held
  unfold Session.lookup
  rw [bind_apply, bind_apply]
  dsimp only [get, getThe, MonadStateOf.get, EStateM.get]
  rw [held]
  cases session.host.held.get? name <;> rfl

theorem apart (looks : Looks look) : Apart look := by
  intro session registries processWide
  have unchanged := looks session session rfl
  rw [looks session (withRegistries session registries processWide) rfl]
  cases found : look session with
  | ok a after =>
      rw [found] at unchanged
      obtain ⟨-, rfl⟩ := EStateM.Result.ok.inj unchanged
      rfl
  | error e after =>
      rw [found] at unchanged
      obtain ⟨-, rfl⟩ := EStateM.Result.error.inj unchanged
      rfl

theorem lookupContext (name : String) : Looks (lookupContext name) := by
  refine (lookup name).bind fun value => ?_
  cases value with
  | context context => exact .pure context
  | _ => exact .throw _

theorem lookupDevice (name : String) : Looks (lookupDevice name) := by
  refine (lookup name).bind fun value => ?_
  cases value with
  | device device => exact .pure device
  | _ => exact .throw _

theorem lookupPlatform (name : String) : Looks (lookupPlatform name) := by
  refine (lookup name).bind fun value => ?_
  cases value with
  | platform platform => exact .pure platform
  | _ => exact .throw _

theorem lookupQueue (name : String) : Looks (lookupQueue name) := by
  refine (lookup name).bind fun value => ?_
  cases value with
  | queue queue => exact .pure queue
  | _ => exact .throw _

theorem lookupBundle (name : String) : Looks (lookupBundle name) := by
  refine (lookup name).bind fun value => ?_
  cases value with
  | bundle bundle => exact .pure bundle
  | _ => exact .throw _

theorem lookupKernel (name : String) : Looks (lookupKernel name) := by
  refine (lookup name).bind fun value => ?_
  cases value with
  | kernel kernel => exact .pure kernel
  | _ => exact .throw _

theorem lookupBundles (names : List String) : Looks (lookupBundles names) := by
  induction names with
  | nil => exact .pure _
  | cons name names ih =>
      exact (lookupBundle name).bind fun _ => ih.bind fun _ => .pure _

end Looks

/-- What is found is found wherever the same is held. -/
theorem exists_of_finds {look : SessionM α} (looks : Looks look)
    (found : (session.finds look).isSome = true) :
    ∃ a, ∀ session' : Session, session'.host.held = session.host.held →
      look session' = .ok a session' := by
  unfold finds at found
  cases outcome : look session with
  | ok a after =>
      refine ⟨a, fun session' held => ?_⟩
      rw [looks session session' held, outcome]
      rfl
  | error e after =>
      rw [outcome] at found
      contradiction

/-- Where something is not found, a program that needs it ends. -/
theorem exists_error_of_not_finds {look : SessionM α} {next : α → SessionM β} (looks : Looks look)
    (missing : (session.finds look).isSome = false) :
    ∃ e, (look >>= next) session = .error e session := by
  have unchanged := looks session session rfl
  unfold finds at missing
  cases outcome : look session with
  | ok a after =>
      rw [outcome] at missing
      contradiction
  | error e after =>
      rw [outcome] at unchanged
      obtain ⟨-, rfl⟩ := EStateM.Result.error.inj unchanged
      exact ⟨e, by rw [bind_apply, outcome]⟩

/-! ## Every command -/

/-- Whether the managed objects are held that a command needs before its registry. -/
def knows (session : Session) : Command → Bool
  | .makeQueue _ _ _ context device _ _ _ =>
      (session.finds (lookupContext context)).isSome &&
        device.all fun device => (session.finds (lookupDevice device)).isSome
  | .makeEvent _ _ context _ _ | .importProgram _ _ context _ _ _ | .makeKernel _ _ context _ =>
      (session.finds (lookupContext context)).isSome
  | .importKernel _ _ context bundle _ _ =>
      (session.finds (lookupContext context)).isSome && (session.finds (lookupBundle bundle)).isSome
  | _ => true

variable {name : Option String} {command : Command}

/-- From a session on, a command looks its registry up and has nothing to do with registries
otherwise, whichever one it is given. -/
def Consults (session : Session) (name : Option String) (command : Command) : Prop :=
  ∃ body : Registry → SessionM Reply, (∀ registry, Apart (body registry)) ∧
    ∀ registry (session' : Session), session'.host.held = session.host.held →
      execute name (command.withRegistry registry) session' =
        (lookupRegistry registry >>= body) session'

/-- Ask the function table that a registry resolves for a backend. -/
def askResolved (backend : Backend) (request : TableRequest) (registry : Registry) :
    SessionM Reply := do
  let asked := (← managed (registry.resolve backend)).table
  match request with
  | .name => return .text (asked.name (← get).host)
  | .call call => return .answer (← table (asked.answer call))

theorem consults_ask {backend : Backend} {registry : Option Nat} {request : TableRequest} :
    session.Consults name (.ask (.registered registry backend) request) := by
  refine ⟨askResolved backend request, fun registry => ?_, ?_⟩
  · refine Apart.bind (.managed _) fun provider => ?_
    cases request with
    | name => exact .get_bind (fun _ => .pure _) fun _ _ _ => rfl
    | call call => exact Apart.bind (.table _) fun _ => .pure _
  · intro registry session' _
    change ((lookupRegistry registry >>= _) >>= _) session' = _
    rw [bind_assoc]
    refine congrFun (bind_congr fun registry => ?_) session'
    rw [bind_assoc]
    rfl

/-- A command consults a registry that begins by looking its context up, where this is held. -/
theorem consults_in_context {context : String} {body : Context → Registry → SessionM Reply}
    (known : (session.finds (lookupContext context)).isSome = true)
    (apart : ∀ context' registry, Apart (body context' registry))
    (begins : ∀ registry session', execute name (command.withRegistry registry) session' =
      (lookupContext context >>= fun context' => lookupRegistry registry >>= body context')
        session') : session.Consults name command := by
  obtain ⟨context', isContext⟩ := exists_of_finds (.lookupContext context) known
  refine ⟨body context', apart context', fun registry session' held => ?_⟩
  rw [begins, bind_apply, isContext session' held]

/-- A command that works with a registry consults it, if the managed objects are held that it
needs. -/
theorem consults_of_knows {registry : Option Nat} (takes : command.registry? = some registry)
    (known : session.knows command = true) : session.Consults name command := by
  cases command with
  | ask target request =>
      cases target with
      | simulator _ => cases takes
      | registered registry backend => exact consults_ask
  | resolve _ backend =>
      exact ⟨_, fun registry => apart_keep_managed name .provider (registry.resolve backend),
        fun _ _ _ => rfl⟩
  | inspectRegistry _ => exact ⟨_, fun registry => .pure (.registry registry), fun _ _ _ => rfl⟩
  | makePlatform _ native backend =>
      exact ⟨_, fun registry => apart_keep_managed name .platform
        (ComputeImport.makePlatform registry native backend), fun _ _ _ => rfl⟩
  | makeDevice _ native backend =>
      exact ⟨_, fun registry => apart_keep_managed name .device
        (ComputeImport.makeDevice registry native backend), fun _ _ _ => rfl⟩
  | makeContext _ native backend =>
      exact ⟨_, fun registry => apart_keep_managed name .context
        (ComputeImport.makeContext registry native backend), fun _ _ _ => rfl⟩
  | makeQueue _ native descriptor context device keeps properties backend =>
      obtain ⟨knowsContext, knowsDevice⟩ := Bool.and_eq_true_iff.mp known
      obtain ⟨context', isContext⟩ := exists_of_finds (.lookupContext context) knowsContext
      cases device with
      | none =>
          refine ⟨_, fun registry => apart_keep_managed name .queue
            (ComputeImport.makeQueue registry native descriptor context' none keeps properties
              backend), fun registry session' held => ?_⟩
          change (lookupContext context >>= _) session' = _
          rw [bind_apply, isContext session' held]
          rfl
      | some device =>
          obtain ⟨device', isDevice⟩ := exists_of_finds (.lookupDevice device) knowsDevice
          refine ⟨_, fun registry => apart_keep_managed name .queue
            (ComputeImport.makeQueue registry native descriptor context' (some device') keeps
              properties backend), fun registry session' held => ?_⟩
          change (lookupContext context >>= _) session' = _
          rw [bind_apply, isContext session' held]
          change ((some <$> lookupDevice device) >>= _) session' = _
          rw [bind_map_left, bind_apply, isDevice session' held]
  | makeEvent _ native context keeps backend =>
      exact consults_in_context known (fun context' registry => apart_keep_managed name .event
        (ComputeImport.makeEvent registry native context' keeps backend)) fun _ _ => rfl
  | importProgram _ native context keeps target backend =>
      exact consults_in_context known (fun context' registry => apart_keep_managed name .bundle
        (ComputeImport.importProgram registry native context' keeps target backend)) fun _ _ => rfl
  | importKernel _ native context bundle keeps backend =>
      obtain ⟨knowsContext, knowsBundle⟩ := Bool.and_eq_true_iff.mp known
      obtain ⟨context', isContext⟩ := exists_of_finds (.lookupContext context) knowsContext
      obtain ⟨bundle', isBundle⟩ := exists_of_finds (.lookupBundle bundle) knowsBundle
      refine ⟨_, fun registry => apart_keep_managed name .kernel
        (ComputeImport.importKernel registry context' bundle' native keeps backend),
        fun registry session' held => ?_⟩
      change (lookupContext context >>= _) session' = _
      rw [bind_apply, isContext session' held]
      change (lookupBundle bundle >>= _) session' = _
      rw [bind_apply, isBundle session' held]
  | makeKernel _ native context backend =>
      exact consults_in_context known (fun context' registry => apart_keep_managed name .kernel
        (ComputeImport.makeKernel registry native context' backend)) fun _ _ => rfl
  | _ => cases takes

/-- A command that works with a registry fails without one, if a managed object is missing that it
needs. -/
theorem refused_of_not_knows (missing : session.knows command = false) :
    ∃ e, execute name command session = .error e session := by
  cases command with
  | makeQueue _ native descriptor context device keeps properties backend =>
      cases found : (session.finds (lookupContext context)).isSome with
      | false => exact exists_error_of_not_finds (.lookupContext context) found
      | true =>
          have missing :
              device.all (fun device => (session.finds (lookupDevice device)).isSome) = false := by
            rw [knows, found, Bool.true_and] at missing
            exact missing
          obtain ⟨context', isContext⟩ := exists_of_finds (.lookupContext context) found
          cases device with
          | none => cases missing
          | some device =>
              change ∃ e, (lookupContext context >>= _) session = _
              rw [bind_apply, isContext session rfl]
              change ∃ e, ((some <$> lookupDevice device) >>= _) session = _
              rw [bind_map_left]
              exact exists_error_of_not_finds (.lookupDevice device) missing
  | makeEvent _ _ context _ _ | importProgram _ _ context _ _ _ | makeKernel _ _ context _ =>
      exact exists_error_of_not_finds (.lookupContext context) missing
  | importKernel _ native context bundle keeps backend =>
      cases found : (session.finds (lookupContext context)).isSome with
      | false => exact exists_error_of_not_finds (.lookupContext context) found
      | true =>
          rw [knows, found, Bool.true_and] at missing
          obtain ⟨context', isContext⟩ := exists_of_finds (.lookupContext context) found
          change ∃ e, (lookupContext context >>= _) session = _
          rw [bind_apply, isContext session rfl]
          exact exists_error_of_not_finds (.lookupBundle bundle) missing
  | _ => cases missing

theorem apart_checkSimulator (number : Nat) : Apart (checkSimulator number) := by
  refine .get_bind (fun session => ?_) fun _ _ _ => rfl
  split
  · exact .throw _
  · exact .pure _

theorem apart_nativeHandle (value : String) : Apart (nativeHandle value) := by
  refine (Looks.lookup value).apart.bind fun found => ?_
  cases found with
  | platform platform => exact Apart.bind (.managed _) fun _ => .pure _
  | device device => exact Apart.bind (.managed _) fun _ => .pure _
  | context context => exact Apart.bind (.managed _) fun _ => .pure _
  | queue queue => exact Apart.bind (.managed _) fun _ => .pure _
  | event event => exact Apart.bind (.managed _) fun _ => .pure _
  | kernel kernel => exact Apart.bind (.managed _) fun _ => .pure _
  | image _ | bundle _ | provider _ => exact .throw _

/-- A command that works with no registry, and installs none, has nothing to do with registries. -/
theorem apart_execute (takes : command.registry? = none)
    (installs : ∀ number, command ≠ .install number) : Apart (execute name command) := by
  cases command with
  | caller number action => exact (apart_checkSimulator number).bind fun _ => .table _
  | ask target request =>
      cases target with
      | simulator number =>
          have asked : Apart (targetTable (.simulator number)) :=
            (apart_checkSimulator number).bind fun _ => .pure _
          refine asked.bind fun table => ?_
          cases request with
          | name => exact .get_bind (fun _ => .pure _) fun _ _ _ => rfl
          | call call => exact Apart.bind (.table _) fun _ => .pure _
      | registered registry backend => cases takes
  | install number => exact absurd rfl (installs number)
  | emptyBundle context state =>
      exact (Looks.lookupContext context).apart.bind fun _ => apart_keep _ _
  | join bundles =>
      refine (Looks.lookupBundles bundles).apart.bind fun found => ?_
      cases KernelBundle.join found with
      | ok bundle => exact apart_keep _ _
      | error e => exact .throw _
  | image bundle index =>
      refine (Looks.lookupBundle bundle).apart.bind fun found => ?_
      cases found.images[index]? with
      | some image => exact apart_keep _ _
      | none => exact .throw _
  | kernelNames value =>
      refine (Looks.lookup value).apart.bind fun found => ?_
      cases found with
      | bundle bundle => exact Apart.bind (.managed _) fun _ => .pure _
      | image image => exact Apart.bind (.managed _) fun _ => .pure _
      | _ => exact .throw _
  | hasKernel value kernel =>
      refine (Looks.lookup value).apart.bind fun found => ?_
      cases found with
      | bundle bundle => exact Apart.bind (.managed _) fun _ => .pure _
      | image image => exact Apart.bind (.managed _) fun _ => .pure _
      | _ => exact .throw _
  | part value part =>
      refine (Looks.lookup value).apart.bind fun found => ?_
      cases part? part found with
      | some found => exact apart_keep _ _
      | none => exact .throw _
  | deviceOfPlatform platform device =>
      exact (Looks.lookupPlatform platform).apart.bind fun _ => apart_keep_managed _ _ _
  | platformBackend platform =>
      exact (Looks.lookupPlatform platform).apart.bind fun _ =>
        Apart.bind (.managed _) fun _ => .pure _
  | nativeHandle value => exact apart_nativeHandle value
  | describe value => exact (Looks.lookup value).apart.bind fun _ => .pure _
  | bundleOf kernel => exact (Looks.lookupKernel kernel).apart.bind fun _ => .pure _
  | inspect value spread =>
      refine (Looks.lookup value).apart.bind fun found => ?_
      exact .get_bind (fun _ => .pure _) fun _ _ _ => rfl
  | same first second =>
      refine (Looks.lookup first).apart.bind fun a => (Looks.lookup second).apart.bind fun b => ?_
      cases same? a b with
      | some same => exact .pure _
      | none => exact .throw _
  | copy value => exact (Looks.lookup value).apart.bind fun _ => apart_keep _ _
  | drop value =>
      refine (Looks.lookup value).apart.bind fun _ => Apart.bind (.modify ?_) fun _ => .pure _
      intro session registries processWide
      unfold forget withRegistries
      cases session.host.held.get? value <;> rfl
  | access queue memory questions =>
      exact (Looks.lookupQueue queue).apart.bind fun _ => Apart.bind (.managed _) fun _ => .pure _
  | setThreshold limit =>
      exact Apart.bind (.setup _) fun _ => .get_bind (fun _ => .pure _) fun _ _ _ => rfl
  | getThreshold => exact .get_bind (fun _ => .pure _) fun _ _ _ => rfl
  | initialiseJournal settings =>
      refine .get_bind (fun session => ?_) fun _ _ _ => rfl
      exact Apart.bind (.setup _) fun _ => .get_bind (fun _ => .pure _) fun _ _ _ => rfl
  | initialiseTestJournal =>
      refine .get_bind (fun session => ?_) fun _ _ _ => rfl
      exact Apart.bind (.setup _) fun _ => .pure _
  | emit event => exact .get_bind (fun _ => .pure _) fun _ _ _ => rfl
  | _ => cases takes

end Session

end ComputeImport
