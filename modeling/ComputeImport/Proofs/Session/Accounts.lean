import ComputeImport.Proofs.Session.Imported

/-!
# Accounts of sessions

A command sets backends up, imports objects and holds them, asks them, and lets them go.  An account of
what has been imported, and of what is held or about to be, that withstands each of these is kept by
every command; `Accounting` lists what it has to withstand.  The least that an account has to say is
that backends are numbered, and that nothing reaches any others: then direct calls keep it, too.
-/

namespace ComputeImport

/-- Commands that make no call of a function table directly. -/
def Command.isIndirect : Command → Bool
  | .ask _ (.call _) => false
  | _ => true

theorem Host.imported_of_plain {host : Host} {command : Command} (plain : command.isImport = false)
    (reply : Reply) : host.imported command reply = [] := by
  unfold imported
  split
  case h_10 => rfl
  all_goals contradiction

namespace Session

variable {account : List Origin → List Managed → Session → Prop} {imports : List Origin}
  {session : Session} {host : Host} {value : Managed} {name : Option String}

/-! ## Accounts -/

/-- What an account of a session withstands: values that are held, let go and brought back, calls that
end no wrappers but those of programs, backends that are set up, and registries that reach no others. -/
structure Accounting (account : List Origin → List Managed → Session → Prop) : Prop where
  grounded : ∀ {imports pending session}, account imports pending session → session.Grounded pending
  pend : ∀ {imports session value}, account imports [] session → session.host.Has value →
    account imports [value] session
  hold : ∀ {imports pending pending' session} {held : Ledger String Managed},
    account imports pending session →
    (∀ value ∈ pending' ++ held.values, value ∈ pending ++ session.host.held.values) →
    account imports pending' { session with host := { session.host with held } }
  letGo : ∀ {imports session value}, account imports [value] session →
    account imports [] { session with host := session.host.letGo value }
  spare : ∀ {imports session host}, account imports [] session →
    session.host.Spares Token.IsProgram host → account imports [] { session with host }
  bring : ∀ {imports news session value host}, account imports [] session →
    session.host.Brings news value host → account (imports ++ news) [value] { session with host }
  adds : ∀ {imports session host}, account imports [] session → session.host.Adds host →
    account imports [] { session with host }
  register : ∀ {imports session registries processWide}, account imports [] session →
    (∀ number registry, registries.get? number = some registry →
      registry.Within fun number => number ∈ session.host.simulators.keys) →
    (∀ registry, processWide = some registry →
      registry.Within fun number => number ∈ session.host.simulators.keys) →
    account imports [] { session with registries, processWide }

/-- A program of a session keeps an account, and adds to it what its reply tells. -/
def Gains (account : List Origin → List Managed → Session → Prop) (imports : List Origin)
    (news : Reply → List Origin) (body : SessionM Reply) (session : Session) : Prop :=
  Ends body session (fun reply after => account (imports ++ news reply) [] after)
    (fun _ after => account imports [] after)

/-- A program of a session keeps an account. -/
def Retains {α : Type} (account : List Origin → List Managed → Session → Prop)
    (imports : List Origin) (body : SessionM α) (session : Session) : Prop :=
  Ends body session (fun _ after => account imports [] after) (fun _ after => account imports [] after)

section Parts

variable {α : Type}

theorem Retains.gains {news : Reply → List Origin} {body : SessionM Reply}
    (retains : Retains account imports body session) (plain : ∀ reply, news reply = []) :
    Gains account imports news body session := by
  apply retains.imp
  · intro reply after kept
    rw [plain, List.append_nil]
    exact kept
  · exact fun _ _ kept => kept

/-- What a command imports depends on the native objects alone. -/
theorem imported_of_stores (same : ∀ number, (host.simulator number).store =
    (session.host.simulator number).store) : host.imported = session.host.imported := by
  have ofDevice : host.importedDevice = session.host.importedDevice := by
    funext device native
    rw [Host.importedDevice, Host.importedDevice, same]
  have ofTarget : host.importedTarget = session.host.importedTarget := by
    funext native device
    rw [Host.importedTarget, Host.importedTarget, same, ofDevice]
  have ofImage : host.importedImage = session.host.importedImage := by
    funext native image
    rw [Host.importedImage, Host.importedImage, Simulator.program?, Simulator.program?, same, ofDevice]
  have ofWrapper : ∀ number (handle : DeviceHandle), (host.simulator number).wrapper? handle =
      (session.host.simulator number).wrapper? handle := by
    intro number handle
    rw [Simulator.wrapper?, Simulator.wrapper?, same]
  funext command reply
  unfold Host.imported
  simp only [ofDevice, ofTarget, ofImage, ofWrapper]

/-- A platform finds or makes a device for a handle, which stands for what is behind that. -/
theorem brings_findOrMakeDevice {platform : Platform} {handle : DeviceHandle}
    (formed : ∀ number, (host.simulator number).store.WellFormed)
    (has : host.Has (.platform platform)) :
    Ends (findOrMakeDevice platform handle [] : ImportM Device) host
      (fun made after => host.Brings
        [⟨.device made, ((host.simulator made.platform.provider.table.simulator).wrapper?
          handle).map fun wrapper => .handle wrapper.native⟩] (.device made) after)
      (fun _ after => host.Spares Token.IsProgram after) := by
  have still : host.Spares Token.IsProgram host := .refl formed
  have finds : Ends (findOrMakeDevice platform handle [] : ImportM Device) host _ _ :=
    Ends.and (still.uses (Uses.findOrMakeDevice _ _ _)) ends_findOrMakeDevice
  apply finds.imp
  · rintro made after ⟨spares, ⟨rfl, rfl⟩, same⟩
    constructor
    case spares => exact spares
    case knows => exact has.knows
    case backed =>
      rw [List.forall_mem_singleton]
      intro reply accessor isReply isAccessor
      obtain ⟨wrapper, isWrapper, rfl⟩ := Option.map_eq_some_iff.mp isReply
      obtain ⟨found, isDevice⟩ := Option.filter_eq_some_iff.mp isWrapper
      obtain rfl := Option.some.inj isAccessor
      have kind := of_decide_eq_true isDevice
      have backs : host.Backs (made.platform.provider.token made.handle) (.handle wrapper.native) :=
        Host.backs_of_behind (by decide) ⟨wrapper, found, kind, rfl⟩
      exact backs.of_simulators same
    case accounts =>
      refine Host.accounts_objects rfl ?_ (List.forall_mem_nil _)
      intro device member
      obtain rfl := List.mem_singleton.mp member
      constructor
      · exact Or.inr ⟨_, List.mem_singleton_self _, rfl, fun _ => ⟨_, rfl⟩⟩
      · exact Or.inl (has.objects List.mem_cons_self)
    case owners => exact ⟨none, fun _ => nofun, List.forall_mem_nil _⟩
  · exact fun _ _ ended => ended.1

end Parts

/-! ## The parts of a command -/

namespace Accounting

variable {α : Type} (accounting : Accounting account) (kept : account imports [] session)

include accounting kept

theorem has (held : value ∈ session.host.held.values) : session.host.Has value :=
  (accounting.grounded kept).has held

/-- What is derived from what is held leads to nothing new. -/
theorem derived (derived : value.DerivedFrom session.host.held.values) : session.host.Has value :=
  .ofLed (fun _ held => accounting.has kept held) derived.ledBy

theorem formed (number : Nat) : (session.host.simulator number).store.WellFormed :=
  (accounting.grounded kept).formed number

theorem forget (name : String) : account imports [] (session.forget name) := by
  unfold Session.forget
  split
  · rename_i value found
    refine accounting.letGo (accounting.hold kept ?_)
    intro other member
    rcases List.mem_cons.mp member with rfl | member
    · exact Ledger.mem_values_of_get? found
    · exact Ledger.mem_of_mem_erase member
  · exact kept

omit kept in
/-- A pending value is held, or let go. -/
theorem keep (kept : account imports [value] session) :
    Ends (keep name value) session
      (fun reply after => reply = .object value ∧ account imports [] after)
      (fun _ _ => False) := by
  cases name with
  | none => exact ⟨rfl, accounting.letGo kept⟩
  | some name =>
      unfold Session.keep
      dsimp only
      rw [ends_bind, ends_get, ends_bind, ends_modify]
      cases found : session.host.held.get? name with
      | none => exact ⟨rfl, accounting.hold kept fun _ member =>
          List.mem_cons.mpr (Ledger.eq_or_mem_of_mem_set member)⟩
      | some old =>
          refine ⟨rfl, accounting.letGo (accounting.hold kept ?_)⟩
          intro other member
          rcases List.mem_cons.mp member with rfl | member
          · exact List.mem_cons_of_mem _ (Ledger.mem_values_of_get? found)
          · exact List.mem_cons.mpr (Ledger.eq_or_mem_of_mem_set member)

/-- What is alive already is held, or let go. -/
theorem keepPart (has : session.host.Has value) :
    Retains account imports (Session.keep name value) session :=
  (accounting.keep (accounting.pend kept has)).imp (fun _ _ kept => kept.2) fun _ _ => False.elim

/-- What an import brings back is held, or let go. -/
theorem make {body : ImportM α} {make : α → Managed} {news : Reply → List Origin}
    (makes : Ends body session.host
      (fun a after => session.host.Brings (news (.object (make a))) (make a) after)
      (fun _ after => session.host.Spares Token.IsProgram after)) :
    Gains account imports news (do Session.keep name (make (← managed body))) session := by
  unfold Gains
  rw [ends_bind, ends_managed]
  apply makes.imp
  · intro a after brings
    apply (accounting.keep (accounting.bring kept brings)).imp
    · rintro _ _ ⟨rfl, kept⟩
      exact kept
    · exact fun _ _ => False.elim
  · exact fun _ _ spares => accounting.spare kept spares

/-- What asks backends that have been set up for nothing but what there is. -/
theorem quiet {body : ImportM α}
    (uses : Uses (fun number => number ∈ session.host.simulators.keys) EntryPoint.IsQuiet body) :
    Retains account imports (managed body) session := by
  have spares := (accounting.grounded kept).still.uses (.of_quiet uses)
  exact ends_managed.mpr (spares.imp (fun _ _ spares => accounting.spare kept spares)
    fun _ _ spares => accounting.spare kept spares)

/-- The registry that is used reaches backends that have been set up. -/
theorem ends_lookupRegistry {number : Option Nat} :
    Ends (lookupRegistry number) session
      (fun registry after => account imports [] after ∧ session.host.Adds after.host ∧
        registry.Within fun number => number ∈ after.host.simulators.keys)
      (fun _ after => after = session) := by
  have grounded := accounting.grounded kept
  obtain ⟨size, keys, given⟩ := grounded.numbered
  have still : session.host.Adds session.host := .refl ⟨size, keys⟩
  cases number with
  | some number =>
      apply ends_lookupNumbered.imp
      · rintro registry _ ⟨rfl, found⟩
        exact ⟨kept, still, grounded.registries number registry found⟩
      · exact fun _ _ same => same
  | none =>
      -- The registry of reference backends is not to be evaluated.
      have makes : ∀ environment host, (∃ size, host.simulators.keys = List.range size) →
          Ends (referenceRegistry environment : ImportM Registry) host
            (fun registry after => host.Adds after ∧
              registry.Within fun number => number ∈ after.simulators.keys)
            (fun _ _ => False) :=
        fun environment host => @ends_referenceRegistryAdds host ImportError environment
      unfold lookupRegistry processWideRegistry
      rw [ends_bind, ends_get]
      cases known : session.processWide with
      | some registry => exact ⟨kept, still, grounded.processWide registry known⟩
      | none =>
          dsimp only
          rw [ends_bind, ends_get, ends_bind, ends_managed, ends_bind, ends_notify]
          generalize (referenceRegistry : Text.Environment → ImportM Registry) = making at makes ⊢
          apply (makes _ (session.host.notify .registryInitialised) ⟨size, keys⟩).imp
          · rintro registry after ⟨adds, within⟩
            have noticed : session.host.Adds (session.host.notify .registryInitialised) :=
              still.of_simulators rfl rfl
            have adds := noticed.trans adds
            have added := accounting.adds kept adds
            rw [ends_bind, ends_modify, ends_pure]
            refine ⟨accounting.register added (accounting.grounded added).registries ?_, adds, within⟩
            rintro _ ⟨⟩
            exact within
          · exact fun _ _ => False.elim

theorem lookRegistry {number : Option Nat} {next : Registry → SessionM Reply} {command : Command}
    (rest : ∀ registry after, account imports [] after → after.host.held = session.host.held →
      (registry.Within fun number => number ∈ after.host.simulators.keys) →
      Gains account imports (after.host.imported command) (next registry) after) :
    Gains account imports (session.host.imported command) (lookupRegistry number >>= next) session := by
  apply ((accounting.ends_lookupRegistry kept).imp (fun _ _ ended => ended) fun _ _ same =>
    same ▸ kept).bind
  rintro registry after ⟨kept, adds, within⟩
  rw [← imported_of_stores adds.stores]
  exact rest registry after kept adds.held within

/-- The table that a command asks is that of a backend that has been set up. -/
theorem ends_targetTable (target : TableTarget) :
    Ends (targetTable target) session
      (fun asked after => account imports [] after ∧ asked.simulator ∈ after.host.simulators.keys)
      (fun _ after => account imports [] after) := by
  cases target with
  | simulator number =>
      apply (ends_checkSimulator.imp (fun _ _ checked => checked) fun _ _ same => same.1 ▸ kept).bind
      rintro _ _ ⟨rfl, isGiven⟩
      exact ⟨kept, (accounting.grounded kept).given_known isGiven⟩
  | registered registry backend =>
      apply ((accounting.ends_lookupRegistry kept).imp (fun _ _ ended => ended) fun _ _ same =>
        same ▸ kept).bind
      rintro registry after ⟨kept, -, within⟩
      rw [ends_bind, ends_managed]
      apply (ends_resolveSpares within (accounting.grounded kept).still).imp
      · rintro provider later ⟨known, spares, -⟩
        refine ⟨accounting.spare kept spares, ?_⟩
        show provider.table.simulator ∈ later.simulators.keys
        rw [spares.keys]
        exact known
      · exact fun _ _ spares => accounting.spare kept spares

/-- Setting up what is printed touches no backend. -/
theorem setUp {news : Reply → List Origin} {body : SetupM Filter α} {rest : α → SessionM Reply}
    (followed : ∀ a after, account imports [] after → Gains account imports news (rest a) after) :
    Gains account imports news (setup body >>= rest) session := by
  have prints : ∀ output, account imports []
      { session with host := { session.host with output } } := fun output =>
    accounting.spare kept ((accounting.grounded kept).still.of_simulators rfl rfl)
  exact (ends_setup prints).bind followed

/-- What the caller does with a backend releases no wrappers. -/
theorem acted (number : Nat) (action : CallerAction) :
    Retains account imports (do
      checkSimulator number
      table (onSimulator number (act action))) session := by
  apply (ends_checkSimulator.imp (fun _ _ checked => checked) fun _ _ same => same.1 ▸ kept).bind
  rintro _ session ⟨rfl, isGiven⟩
  have grounded := accounting.grounded kept
  have spares : session.host.Spares Token.IsProgram
      (session.host.advance number ((session.host.simulator number).after (.caller action))) :=
    grounded.still.step (grounded.given_known isGiven) fun _ _ _ => nofun
  apply ends_table.mpr
  apply ends_onSimulator.mpr
  apply (ends_same (act action) _).imp
  · rintro _ _ rfl
    exact accounting.spare kept spares
  · rintro _ _ rfl
    exact accounting.spare kept spares

theorem install (number : Nat) : Retains account imports (Session.install number) session := by
  have grounded := accounting.grounded kept
  unfold Retains Session.install
  rw [ends_bind, ends_get]
  cases found : session.registries.get? number with
  | none => exact kept
  | some registry =>
      have others : ∀ other registry, (session.registries.erase number).get? other = some registry →
          registry.Within fun number => number ∈ session.host.simulators.keys := by
        intro other registry found
        rw [Ledger.get?_erase] at found
        split at found
        · contradiction
        · exact grounded.registries other registry found
      dsimp only
      rw [ends_bind, ends_modify, ends_bind, ends_get]
      have erased := accounting.register kept others grounded.processWide
      cases known : session.processWide with
      | some wide =>
          rw [known] at erased
          exact erased
      | none =>
          apply accounting.register kept others
          rintro _ ⟨⟩
          exact grounded.registries number registry found

/-- What is obtained through a registry is held, or let go, and is told what it is imported from. -/
theorem obtained {command : Command} {number : Option Nat} {make : α → Managed}
    {body : Registry → ImportM α} {registry : Registry}
    (within : registry.Within fun number => number ∈ session.host.simulators.keys)
    (obtains : Obtains session.host.held command number make body) :
    Gains account imports (session.host.imported command)
      (do Session.keep name (make (← managed (body registry)))) session := by
  have formed := accounting.formed kept
  have has : ∀ {label : String} {value : Managed}, session.host.held.get? label = some value →
      session.host.Has value := fun found => accounting.has kept (Ledger.mem_values_of_get? found)
  apply accounting.make kept
  cases obtains with
  | provider =>
      apply (ends_resolveSpares within (accounting.grounded kept).still).imp
      · rintro provider later ⟨known, spares, -⟩
        constructor
        case spares => exact spares
        case knows =>
          intro other member
          obtain rfl := List.mem_singleton.mp member
          exact known
        case backed => exact List.forall_mem_nil _
        case accounts => exact List.forall_mem_nil _
        case owners => exact ⟨none, fun _ => nofun, List.forall_mem_nil _⟩
      · exact fun _ _ spares => spares
  | platform => exact Host.brings_makePlatform within formed
  | device => exact Host.brings_makeDevice within formed
  | context => exact Host.brings_makeContext within formed
  | queue found isGiven =>
      have hasDevice := fun device same => accounting.has kept (held_of_isGiven isGiven device same)
      -- What a queue tells of its device depends on whether one has been named.
      cases isGiven <;> exact Host.brings_makeQueue within formed (has found) hasDevice
  | event found => exact Host.brings_makeEvent within formed (has found)
  | program found => exact Host.brings_importProgram within formed (has found)
  | kernel found isWhole => exact Host.brings_importKernel within formed (has found) (has isWhole)
  | loneKernel found =>
      have isHeld := Ledger.mem_values_of_get? found
      exact Host.brings_importKernel within formed (has found)
        (accounting.derived kept (.empty isHeld))

/-! ## Commands -/

/-- A command keeps what has been imported, and adds what it has imported itself. -/
theorem execute {command : Command} (indirect : command.isIndirect = true) :
    Gains account imports (session.host.imported command) (Session.execute name command) session := by
  apply ends_execute
  intro task comes
  cases comes with
  | refused failure => exact kept
  | told plain | shown plain => exact Retains.gains kept (Host.imported_of_plain plain)
  | kept plain derived =>
      have has := accounting.derived kept derived
      exact (accounting.keepPart kept has).gains (Host.imported_of_plain plain)
  | asked inquires =>
      have has := accounting.has kept inquires.isHeld
      exact (accounting.quiet kept (inquires.uses has.knows)).gains
        (Host.imported_of_plain inquires.plain)
  | obtained obtains =>
      apply accounting.lookRegistry kept
      intro registry after kept same within
      rw [← same] at obtains
      exact accounting.obtained kept within obtains
  | found isHeld =>
      have has := accounting.has kept (Ledger.mem_values_of_get? isHeld)
      exact accounting.make kept (brings_findOrMakeDevice (accounting.formed kept) has)
  | dropped => exact Retains.gains (accounting.forget kept _) fun _ => rfl
  | inspected =>
      apply accounting.lookRegistry kept
      exact fun _ _ kept _ _ => Retains.gains kept fun _ => rfl
  | installed => exact (accounting.install kept _).gains fun _ => rfl
  | printed plain =>
      apply accounting.setUp kept
      exact fun _ _ kept => Retains.gains kept (Host.imported_of_plain plain)
  | acted => exact (accounting.acted kept _ _).gains fun _ => rfl
  | @asksTable target request =>
      cases request with
      | call call => contradiction
      | name =>
          have asked := (accounting.ends_targetTable kept target).imp (fun _ _ ended => ended.1)
            fun _ _ kept => kept
          exact Retains.gains (asked.bind fun _ _ kept => kept) fun _ => rfl

end Accounting

/-! ## Runs -/

/-- That a session is grounded is an account of it. -/
theorem accounting_grounded : Accounting fun _ => Grounded := by
  constructor
  case grounded => exact fun grounded => grounded
  case pend => exact fun grounded has => grounded.pend has
  case hold => exact fun grounded known => grounded.hold known
  case letGo => exact fun grounded => grounded.letGo
  case spare => exact fun grounded spares => grounded.since spares
  case bring => exact fun grounded brings => grounded.bring brings.spares brings.knows brings.within
  case adds => exact fun grounded adds => grounded.adds adds
  case register => exact fun grounded within wide => grounded.register within wide

namespace Grounded

variable (grounded : session.Grounded [])

include grounded

/-- Direct calls, too, are those of backends that have been set up. -/
theorem executeAsk (target : TableTarget) (call : Call) :
    Ends (execute name (.ask target (.call call))) session (fun _ after => after.Grounded [])
      (fun _ after => after.Grounded []) := by
  apply (@Accounting.ends_targetTable _ [] session accounting_grounded grounded target).bind
  rintro asked session ⟨grounded, known⟩
  have respects : Respects (fun number => number ∈ session.host.simulators.keys) (fun _ => True)
      (session.host.Spares fun _ => True) := Host.respects_spared fun _ _ _ _ _ _ => trivial
  have spares := (uses_answer asked known call _ respects).ends session.host grounded.still
  apply Ends.bind (ends_table.mpr (spares.imp ?_ ?_))
  · exact fun _ _ grounded => grounded
  · exact fun _ _ spares => grounded.since spares
  · exact fun _ _ spares => grounded.since spares

theorem step (next : Step) : (session.step next).2.Grounded [] := by
  refine @step_of_ends session next (fun _ after => after.Grounded []) ?_
  obtain ⟨command, name⟩ := next
  cases indirect : command.isIndirect with
  | true =>
      have gains : Gains (fun _ => Grounded) [] (session.host.imported command)
          (execute name command) session := accounting_grounded.execute grounded indirect
      exact gains.imp (fun _ _ grounded => grounded) fun _ _ grounded => grounded
  | false =>
      cases command with
      | ask target request =>
          cases request with
          | name => contradiction
          | call call => exact grounded.executeAsk target call
      | _ => contradiction

theorem run (steps : List Step) : (session.run steps).2.Grounded [] := by
  induction steps generalizing session with
  | nil => exact grounded
  | cons next steps ih => exact ih (grounded.step next)

end Grounded

/-- Sessions over backends that were given, whatever the steps were. -/
def Founded (session : Session) : Prop :=
  ∃ configs plans environment steps, (∀ plan ∈ plans, plan.Reaches configs.length) ∧
    session = ((opening configs plans environment).run steps).2

theorem Founded.grounded (founded : session.Founded) : session.Grounded [] := by
  obtain ⟨configs, plans, environment, steps, reaches, rfl⟩ := founded
  exact (grounded_opening environment reaches).run steps

theorem single_reaches : ∀ plan ∈ [RegistryPlan.listed
    [{ backend := .openCl, table := { simulator := 0 } }] {}],
    plan.Reaches [SimulatorConfig.openCl].length := by
  rw [List.forall_mem_singleton]
  exact List.forall_mem_singleton.mpr Nat.zero_lt_one

theorem founded_single (steps : List Step) : (single.run steps).2.Founded :=
  ⟨_, _, _, steps, single_reaches, rfl⟩

end Session

end ComputeImport
