import ComputeImport.Proofs.Session.Sharing

/-!
# Platforms and devices in a session

A session over one function table finds its platforms and devices by their handles, since its caches
lead to all that is alive.  `Identified` carries over from imports to commands, which hold what an import
brings back, copy it, join it with others and let it go, and so to runs.  An object that is gone does not
come back: whatever a step shows has been alive before the step or is new.
-/

namespace ComputeImport

/-- Commands that use no registry but the numbered ones, and that ask no platform for a device with a
handle of the caller's own. -/
def Command.isRegular : Command → Bool
  | .deviceOfPlatform _ _ => false
  | .ask (.registered registry _) _ => registry.isSome
  | .resolve registry _ => registry.isSome
  | .inspectRegistry registry => registry.isSome
  | .makePlatform registry _ _ => registry.isSome
  | .makeDevice registry _ _ => registry.isSome
  | .makeContext registry _ _ => registry.isSome
  | .makeQueue registry _ _ _ _ _ _ _ => registry.isSome
  | .makeEvent registry _ _ _ _ => registry.isSome
  | .importProgram registry _ _ _ _ _ => registry.isSome
  | .importKernel registry _ _ _ _ _ => registry.isSome
  | .makeKernel registry _ _ _ => registry.isSome
  | _ => true

/-- The provider of a table that is registered, by its identity. -/
def Registration.provider (registration : Registration) (identity : Nat) : Provider :=
  ⟨identity, registration.backend,
    registration.demands.getD registration.backend.demands, registration.table⟩

/-- A value leads only to what was alive at the start, and to what has been made since then until
now. -/
structure Managed.LivesBetween (value : Managed) (start now : Host) : Prop where
  devices : ∀ device ∈ value.devices,
    (device ∈ start.devices ∨ start.nextIdentity ≤ device.identity) ∧
      device.identity < now.nextIdentity
  platforms : ∀ platform ∈ value.platforms,
    (platform ∈ start.platforms ∨ start.nextIdentity ≤ platform.identity) ∧
      platform.identity < now.nextIdentity

theorem Managed.LivesBetween.mono {value : Managed} {start now later : Host}
    (lives : value.LivesBetween start now) (le : now.nextIdentity ≤ later.nextIdentity) :
    value.LivesBetween start later := by
  constructor
  case devices =>
    exact fun device member => (lives.devices device member).imp_right fun isGiven =>
      Nat.lt_of_lt_of_le isGiven le
  case platforms =>
    exact fun platform member => (lives.platforms platform member).imp_right fun isGiven =>
      Nat.lt_of_lt_of_le isGiven le

namespace Session

/-- The platforms and devices that pending values and the held ones lead to are identified, and the
registries resolve to one provider only. -/
structure Identified (provider : Provider) (start : Host) (pending : List Managed)
    (session : Session) : Prop where
  host : start.Identified provider pending session.host
  sole : ∀ number registry backend, session.registries.get? number = some registry →
    registry.ResolvesTo backend provider

/-- A program of a session keeps all that is alive identified, and what it shows too. -/
def Shows (provider : Provider) (start : Host) (body : SessionM Reply) (session : Session) : Prop :=
  Ends body session (fun reply after => Identified provider start reply.values after)
    (fun _ after => Identified provider start [] after)

variable {provider : Provider} {start : Host} {session : Session} {pending pending' : List Managed}
  {value whole : Managed} {name : Option String}

namespace Identified

theorem sub (identified : Identified provider start pending session) (fewer : pending' ⊆ pending) :
    Identified provider start pending' session :=
  ⟨identified.host.sub fewer, identified.sole⟩

/-- What is derived from what is held leads to nothing but what is alive. -/
theorem derived (identified : Identified provider start [] session)
    (derived : value.DerivedFrom session.host.held.values) :
    Identified provider start [value] session :=
  ⟨identified.host.cons derived.ledBy.devices derived.ledBy.platforms, identified.sole⟩

theorem pendHeld (identified : Identified provider start [] session)
    (held : value ∈ session.host.held.values) : Identified provider start [value] session :=
  identified.derived (.whole held)

/-- Something that leads to no platforms. -/
theorem pendNone (identified : Identified provider start [] session) (devices : value.devices = [])
    (platforms : value.platforms = []) : Identified provider start [value] session := by
  refine ⟨identified.host.cons ?_ ?_, identified.sole⟩
  · exact devices ▸ List.nil_subset _
  · exact platforms ▸ List.nil_subset _

theorem only {α : Type} {body : ImportM α} (identified : Identified provider start pending session)
    (uses : OnlyCalls body) :
    Ends (managed body) session (fun _ after => Identified provider start pending after)
      (fun _ after => Identified provider start pending after) := by
  apply ends_managed.mpr
  apply (identified.host.only uses).imp
  · exact fun _ _ ended => ⟨ended, identified.sole⟩
  · exact fun _ _ ended => ⟨ended, identified.sole⟩

theorem letGo (identified : Identified provider start pending session) (value : Managed) :
    Identified provider start pending { session with host := session.host.letGo value } :=
  ⟨callsOnly_letGo value _ Host.respects_identified _ identified.host, identified.sole⟩

/-- Holding nothing but what has been held or is pending. -/
theorem hold (identified : Identified provider start pending session)
    {held : Ledger String Managed}
    (known : ∀ value ∈ held.values, value ∈ pending ++ session.host.held.values) :
    Identified provider start pending
      { session with host := { session.host with held := held } } := by
  have known' : ∀ value ∈ pending ++ held.values, value ∈ pending ++ session.host.held.values := by
    intro value member
    rcases List.mem_append.mp member with isPending | isHeld
    · exact List.mem_append_left _ isPending
    · exact known value isHeld
  refine ⟨identified.host.fewer rfl (Nat.le_refl _) ?_ ?_, identified.sole⟩
  · intro device member
    obtain ⟨value, isValue, isDevice⟩ := Host.mem_livingDevices.mp member
    exact Host.mem_livingDevices.mpr ⟨value, known' value isValue, isDevice⟩
  · intro platform member
    obtain ⟨value, isValue, isPlatform⟩ := Host.mem_livingPlatforms.mp member
    exact Host.mem_livingPlatforms.mpr ⟨value, known' value isValue, isPlatform⟩

theorem forget (identified : Identified provider start [] session) (name : String) :
    Identified provider start [] (session.forget name) := by
  unfold Session.forget
  split
  · exact (identified.hold fun _ member => Ledger.mem_of_mem_erase member).letGo _
  · exact identified

end Identified

/-- What is pending has been alive at the start or has been made since. -/
theorem Identified.livesBetween (identified : Identified provider start pending session)
    (member : value ∈ pending) : value.LivesBetween start session.host := by
  have isValue : value ∈ pending ++ session.host.held.values := List.mem_append_left _ member
  constructor
  case devices =>
    intro device isDevice
    have living := Host.mem_livingDevices.mpr ⟨value, isValue, isDevice⟩
    exact ⟨identified.host.devices.since device living,
      identified.host.devices.given device living⟩
  case platforms =>
    intro platform isPlatform
    have living := Host.mem_livingPlatforms.mpr ⟨value, isValue, isPlatform⟩
    exact ⟨identified.host.platforms.since platform living,
      identified.host.platforms.given platform living⟩

/-! ## The parts of a command -/

/-- A pending value is held, or let go. -/
theorem shows_keep (identified : Identified provider start [value] session) :
    Shows provider start (keep name value) session := by
  cases name with
  | none => exact identified.letGo value
  | some name =>
      have held : Identified provider start [value] { session with
          host := { session.host with held := session.host.held.set name value } } :=
        identified.hold fun _ member => List.mem_cons.mpr (Ledger.eq_or_mem_of_mem_set member)
      unfold Shows keep
      dsimp only
      rw [ends_bind, ends_get, ends_bind, ends_modify]
      cases session.host.held.get? name with
      | none => exact held
      | some old => exact held.letGo old

/-- What an import brings back is held, or let go. -/
theorem shows_make {α : Type} {body : ImportM α} {make : α → Managed}
    (identified : Identified provider start pending session) (covered : session.host.Covered)
    (makes : Makes provider start pending make body) :
    Shows provider start (do keep name (make (← managed body))) session := by
  unfold Shows
  rw [ends_bind, ends_managed]
  apply (makes session.host identified.host covered).imp
  · exact fun a after made => shows_keep ⟨made, identified.sole⟩
  · exact fun _ after kept => ⟨kept, identified.sole⟩

/-- An import of something that leads to no platforms. -/
theorem shows_plain {α : Type} {body : ImportM α} {make : α → Managed}
    (identified : Identified provider start [] session) (uses : OnlyCalls body)
    (plain : ∀ a, (make a).devices = [] ∧ (make a).platforms = []) :
    Shows provider start (do keep name (make (← managed body))) session := by
  apply (identified.only uses).bind
  intro a after identified
  exact shows_keep (identified.pendNone (plain a).1 (plain a).2)

theorem Identified.lookRegistry {number : Option Nat} {next : Registry → SessionM Reply}
    (identified : Identified provider start [] session) (given : number.isSome = true)
    (rest : ∀ registry, (∀ backend, registry.ResolvesTo backend provider) →
      Shows provider start (next registry) session) :
    Shows provider start (lookupRegistry number >>= next) session := by
  obtain ⟨number, rfl⟩ := Option.isSome_iff_exists.mp given
  unfold Shows
  rw [ends_bind]
  apply ends_lookupNumbered.imp
  · rintro registry _ ⟨rfl, found⟩
    exact rest registry fun backend => identified.sole number registry backend found
  · rintro failure _ rfl
    exact identified

/-- Setting up what is printed touches no object. -/
theorem shows_setup {α : Type} {body : SetupM Filter α} {rest : α → SessionM Reply}
    (identified : Identified provider start [] session)
    (followed : ∀ a after, Identified provider start [] after →
      Shows provider start (rest a) after) :
    Shows provider start (setup body >>= rest) session := by
  have prints : ∀ output, Identified provider start []
      { session with host := { session.host with output } } :=
    fun _ => ⟨identified.host.replay [] rfl (Nat.le_refl _) rfl, identified.sole⟩
  exact (ends_setup prints).bind followed

theorem shows_acted (identified : Identified provider start [] session) (number : Nat)
    (action : CallerAction) :
    Shows provider start (do
      checkSimulator number
      table (onSimulator number (act action))) session := by
  have looked : Ends (checkSimulator number) session
      (fun _ after => Identified provider start [] after)
      (fun _ after => Identified provider start [] after) :=
    (keeps_checkSimulator number).ends session identified
  apply looked.bind
  intro _ session identified
  have advanced := identified.host.advance number (.caller action)
  apply ends_table.mpr
  apply ends_onSimulator.mpr
  apply (Ends.and (ends_same (act action) _) (ends_act_bare action _)).imp
  · rintro reply after ⟨rfl, bare⟩
    rw [Reply.values_of_isBare bare]
    exact ⟨advanced, identified.sole⟩
  · rintro e after ⟨rfl, -⟩
    exact ⟨advanced, identified.sole⟩

theorem shows_ask (identified : Identified provider start [] session) {target : TableTarget}
    {request : TableRequest}
    (regular : (Command.ask target request).isRegular = true) :
    Shows provider start (ask target request) session := by
  have asked : Ends (targetTable target) session
      (fun _ after => Identified provider start [] after)
      (fun _ after => Identified provider start [] after) := by
    cases target with
    | simulator number =>
        exact Keeps.ends (Keeps.bind (keeps_checkSimulator number) fun _ => Keeps.pure _)
          session identified
    | registered registry backend =>
        obtain ⟨number, rfl⟩ := Option.isSome_iff_exists.mp regular
        apply (ends_lookupNumbered.imp (fun _ _ found => found) ?_).bind
        · rintro registry _ ⟨rfl, -⟩
          rw [ends_bind]
          exact identified.only (Uses.resolve registry backend)
        · rintro e _ rfl
          exact identified
  apply asked.bind
  intro asked session identified
  cases request with
  | name => exact identified
  | call call =>
      have answered := identified.host.only (onlyCalls_answer asked call)
      apply Ends.bind (ends_table.mpr (answered.imp ?_ ?_))
      · exact fun _ _ identified => identified
      · exact fun _ _ ended => ⟨ended, identified.sole⟩
      · exact fun _ _ ended => ⟨ended, identified.sole⟩

theorem shows_install (identified : Identified provider start [] session) (number : Nat) :
    Shows provider start (install number) session := by
  unfold Shows install
  rw [ends_bind, ends_get]
  cases found : session.registries.get? number with
  | none => exact identified
  | some registry =>
      have others : ∀ other registry backend,
          (session.registries.erase number).get? other = some registry →
            registry.ResolvesTo backend provider := by
        intro other registry backend found
        rw [Ledger.get?_erase] at found
        split at found
        · contradiction
        · exact identified.sole other registry backend found
      dsimp only
      rw [ends_bind, ends_modify, ends_bind, ends_get]
      cases session.processWide with
      | some wide => exact ⟨identified.host, others⟩
      | none => exact ⟨identified.host, others⟩

/-- What is obtained through a registry that resolves to one provider. -/
theorem shows_obtained {α : Type} {command : Command} {number : Option Nat} {make : α → Managed}
    {body : Registry → ImportM α} {registry : Registry}
    (identified : Identified provider start [] session) (covered : session.host.Covered)
    (sole : ∀ backend, registry.ResolvesTo backend provider)
    (obtains : Obtains session.host.held command number make body) :
    Shows provider start (do keep name (make (← managed (body registry)))) session := by
  have plain := @shows_plain provider start session name _ _ make identified
    (obtains.onlyCalls registry)
  cases obtains with
  | provider | context | event => exact plain fun _ => ⟨rfl, rfl⟩
  | platform => exact shows_make identified covered (makes_makePlatform (sole _))
  | device => exact shows_make identified covered (makes_makeDevice (sole _))
  | queue _ isGiven =>
      cases isGiven with
      | none => exact shows_make identified covered (makes_makeQueue (sole _) none)
      | some found =>
          have pending := identified.pendHeld (Ledger.mem_values_of_get? found)
          exact shows_make pending covered (makes_makeQueue (sole _) (some _))
  | program => exact shows_make identified covered (makes_importProgram (sole _))
  | kernel _ isWhole =>
      have pending := identified.pendHeld (Ledger.mem_values_of_get? isWhole)
      exact shows_make pending covered (makes_importKernel (sole _))
  | loneKernel => exact shows_make (identified.pendNone rfl rfl) covered (makes_importKernel (sole _))

/-! ## Commands -/

theorem Obtains.isSome_number {α : Type} {held : Ledger String Managed} {command : Command}
    {number : Option Nat} {make : α → Managed} {body : Registry → ImportM α}
    (obtains : Obtains held command number make body) (regular : command.isRegular = true) :
    number.isSome = true := by
  cases obtains <;> exact regular

/-- A command keeps all that is alive identified, and what it shows too. -/
theorem shows_execute (identified : Identified provider start [] session)
    (covered : session.host.Covered) {command : Command} (regular : command.isRegular = true) :
    Shows provider start (execute name command) session := by
  apply ends_execute
  intro task comes
  have plain : ∀ {reply : Reply} {after : Session}, Identified provider start [] after →
      reply.values = [] → Identified provider start reply.values after := by
    intro reply after identified plain
    rw [plain]
    exact identified
  cases comes with
  | refused failure => exact identified
  | told _ bare => exact plain identified (Reply.values_of_isBare bare)
  | shown _ derived => exact identified.derived derived
  | kept _ derived => exact shows_keep (identified.derived derived)
  | asked inquires =>
      apply ((identified.only inquires.onlyCalls).and inquires.ends_plain).imp
      · exact fun reply after ended => plain ended.1 ended.2
      · exact fun _ _ ended => ended.1
  | obtained obtains =>
      apply identified.lookRegistry (obtains.isSome_number regular)
      exact fun registry sole => shows_obtained identified covered sole obtains
  | found => contradiction
  | dropped => exact identified.forget _
  | inspected => exact identified.lookRegistry regular fun _ _ => identified
  | installed => exact shows_install identified _
  | printed _ bare =>
      apply shows_setup identified
      exact fun _ after identified => plain identified (Reply.values_of_isBare (bare after))
  | acted => exact shows_acted identified _ _
  | asksTable => exact shows_ask identified regular

/-! ## Runs -/

theorem identified_step (identified : Identified provider start [] session)
    (reachable : session.Reachable) {next : Step} (regular : next.command.isRegular = true) :
    Identified provider start (shownValues (session.step next).1) (session.step next).2 :=
  @step_of_ends session next (fun outcome => Identified provider start (shownValues outcome))
    (shows_execute identified reachable.covered regular)

/-- From here on, what is alive now is what was alive at the start. -/
theorem Identified.rebase (identified : Identified provider start [] session) :
    Identified provider session.host [] session :=
  ⟨identified.host.rebase, identified.sole⟩

/-- A run keeps all that is alive identified, and shows nothing that was gone at the start. -/
theorem identified_run {steps : List Step} (identified : Identified provider start [] session)
    (reachable : session.Reachable) (regular : ∀ next ∈ steps, next.command.isRegular = true) :
    Identified provider start [] (session.run steps).2 ∧
      ∀ outcome ∈ (session.run steps).1, ∀ value ∈ shownValues outcome,
        value.LivesBetween start (session.run steps).2.host := by
  induction steps generalizing session start with
  | nil => exact ⟨identified, fun _ => nofun⟩
  | cons next steps ih =>
      obtain ⟨isRegular, areRegular⟩ := List.forall_mem_cons.mp regular
      have stepped := identified_step identified reachable isRegular
      have rest := stepped.sub (List.nil_subset _)
      have later := (ih rest.rebase (reachable.step next) areRegular).1.host.bound
      obtain ⟨identified, lives⟩ := ih rest (reachable.step next) areRegular
      refine ⟨identified, List.forall_mem_cons.mpr ⟨?_, lives⟩⟩
      exact fun value member => (stepped.livesBetween member).mono later

/-! ## Sessions over one table -/

section Opening

theorem resolvesTo_register (options : BuildOptions) (provider : Provider) (backend : Backend) :
    (({ options } : Registry).register provider).ResolvesTo backend provider := by
  intro found resolved
  rw [Registry.provider?] at resolved
  split at resolved
  · rw [Registry.register, Ledger.get?_set] at resolved
    split at resolved
    · exact (Option.some.inj resolved).symm
    · contradiction
  · contradiction

theorem ends_setUpAll_unheld {ε : Type} {host : Host} {configs : List SimulatorConfig} :
    Ends (setUpAll configs : EStateM ε Host Unit) host
      (fun _ after => after.held = host.held ∧ after.nextIdentity = host.nextIdentity)
      (fun _ _ => False) := by
  induction configs generalizing host with
  | nil => exact ⟨rfl, rfl⟩
  | cons config configs ih =>
      unfold setUpAll
      rw [ends_bind]
      exact ih

/-- A session over one table starts with nothing alive. -/
theorem identified_opening (configs : List SimulatorConfig) (registration : Registration)
    (options : BuildOptions) (environment : Text.Environment) :
    Identified (registration.provider 0)
      (opening configs [.listed [registration] options] environment).host []
      (opening configs [.listed [registration] options] environment) := by
  have formed := (arises_opening configs [.listed [registration] options] environment
    (registration.provider 0).table.simulator).wellFormed
  have fills : Ends (do
        setUpAll configs
        fillAll environment 0 [.listed [registration] options] :
          EStateM Empty Host (Ledger Nat Registry)) {}
      (fun registries after => after.held = {} ∧
        registries = ⟨[(0, ({ options } : Registry).register (registration.provider 0))]⟩)
      (fun _ _ => False) := by
    apply (@ends_setUpAll_unheld Empty {} configs).bind
    rintro _ middle ⟨held, isFirst⟩
    have registers : Ends
        (registerAll { options } [registration] : EStateM Empty Host Registry) middle
        (fun registry after => after.held = {} ∧
          registry = ({ options } : Registry).register (registration.provider 0))
        (fun _ _ => False) := by
      unfold registerAll
      rw [ends_bind, ends_freshIdentity]
      dsimp only
      rw [isFirst]
      split
      · rw [ends_bind, ends_notify]
        exact ⟨held, rfl⟩
      · exact ⟨held, rfl⟩
    apply registers.bind
    rintro registry after ⟨held, rfl⟩
    exact ⟨held, rfl⟩
  obtain ⟨registries, host, ⟨held, rfl⟩, isOpening⟩ := Host.exists_opening fills
  rw [isOpening] at formed ⊢
  refine ⟨Host.Identified.empty formed held, ?_⟩
  intro number registry backend found
  rw [Ledger.get?, Ledger.find] at found
  split at found
  · obtain rfl := Option.some.inj found
    exact resolvesTo_register options _ backend
  · contradiction

end Opening

/-! ## Two moments of a run -/

/-- What is alive later in a run is found by its handles, and what has gone since earlier is gone for
good.  In between, steps have had their outcomes. -/
structure KeepsIdentity (provider : Provider) (earlier : Session)
    (outcomes : List (Except Failure Reply)) (later : Session) : Prop where
  device_unique : ∀ a ∈ later.host.devices, ∀ b ∈ later.host.devices, a.handle = b.handle → a = b
  platform_unique : ∀ a ∈ later.host.platforms, ∀ b ∈ later.host.platforms,
    a.handle = b.handle → a = b
  /-- What a step shows is found among what is alive after it. -/
  device_shown : ∀ next : Step, next.command.isRegular = true →
    ∀ a ∈ (later.step next).2.host.livingDevices (shownValues (later.step next).1),
    ∀ b ∈ (later.step next).2.host.livingDevices (shownValues (later.step next).1),
    a.handle = b.handle → a = b
  platform_shown : ∀ next : Step, next.command.isRegular = true →
    ∀ a ∈ (later.step next).2.host.livingPlatforms (shownValues (later.step next).1),
    ∀ b ∈ (later.step next).2.host.livingPlatforms (shownValues (later.step next).1),
    a.handle = b.handle → a = b
  /-- Every device stands for a native one.  Devices of one native device have the same handle,
  whenever they have been made, and devices of two have different ones. -/
  handle_eq_iff : ∀ a ∈ earlier.host.devices, ∀ b ∈ later.host.devices, ∃ native other,
    (later.host.simulator provider.table.simulator).store.Behind a.handle native ∧
    (later.host.simulator provider.table.simulator).store.Behind b.handle other ∧
    (native = other ↔ a.handle = b.handle)
  /-- What is made of a native device stands for it. -/
  behind_made : ∀ registry backend native, registry.provider? backend = some provider →
    Ends (makeDevice registry native backend) later.host
      (fun made after =>
        (after.simulator provider.table.simulator).store.Behind made.handle native)
      (fun _ _ => True)
  /-- The platform of a device is the one that is made of the native platform that the native device
  was created on, as long as that is live. -/
  platform_made : ∀ device ∈ later.host.devices, ∀ native platform refs registry backend,
    (later.host.simulator provider.table.simulator).store.Behind device.handle native →
    (earlier.host.simulator provider.table.simulator).store.natives.get? native =
      some ⟨.device platform, refs⟩ →
    (later.host.simulator provider.table.simulator).store.HasNative .platform platform →
    registry.provider? backend = some provider →
    Ends (makePlatform registry platform backend) later.host
      (fun made _ => made = device.platform)
      (fun _ _ =>
        (later.host.simulator provider.table.simulator).failures.get? .platformCreate ≠ none)
  /-- A device that was alive earlier or has been shown since, and is not alive any more, is never
  alive again, and no step shows it. -/
  device_gone : ∀ device, (device ∈ earlier.host.devices ∨
      ∃ outcome ∈ outcomes, ∃ value ∈ shownValues outcome, device ∈ value.devices) →
    device ∉ later.host.devices →
    ∀ steps, (∀ next ∈ steps, next.command.isRegular = true) →
      device ∉ (later.run steps).2.host.devices ∧
      ∀ outcome ∈ (later.run steps).1, ∀ value ∈ shownValues outcome, device ∉ value.devices
  /-- Nor is a platform. -/
  platform_gone : ∀ platform, (platform ∈ earlier.host.platforms ∨
      ∃ outcome ∈ outcomes, ∃ value ∈ shownValues outcome, platform ∈ value.platforms) →
    platform ∉ later.host.platforms →
    ∀ steps, (∀ next ∈ steps, next.command.isRegular = true) →
      platform ∉ (later.run steps).2.host.platforms ∧
      ∀ outcome ∈ (later.run steps).1, ∀ value ∈ shownValues outcome, platform ∉ value.platforms

theorem keepsIdentity_of_identified {earlier later : Session}
    {outcomes : List (Except Failure Reply)} (before : Identified provider start [] earlier)
    (identified : Identified provider earlier.host [] later) (reachable : later.Reachable)
    (between : ∀ outcome ∈ outcomes, ∀ value ∈ shownValues outcome,
      value.LivesBetween earlier.host later.host) :
    KeepsIdentity provider earlier outcomes later := by
  have steps_later : ∀ steps, (∀ next ∈ steps, next.command.isRegular = true) →
      Identified provider later.host [] (later.run steps).2 ∧
      ∀ outcome ∈ (later.run steps).1, ∀ value ∈ shownValues outcome,
        value.LivesBetween later.host (later.run steps).2.host :=
    fun steps regular => identified_run identified.rebase reachable regular
  constructor
  case device_unique => exact identified.host.devices.unique
  case platform_unique => exact identified.host.platforms.unique
  case device_shown =>
    exact fun next regular => (identified_step identified reachable regular).host.devices.unique
  case platform_shown =>
    exact fun next regular => (identified_step identified reachable regular).host.platforms.unique
  case handle_eq_iff =>
    exact fun a isBefore b isNow => before.host.handle_eq_iff identified.host isBefore isNow
  case behind_made =>
    exact fun registry backend native resolved =>
      ends_makeDevice_known resolved identified.host.formed
  case platform_made =>
    intro device living native platform refs registry backend behind created isLive resolved
    apply (identified.host.ends_makePlatform reachable.covered resolved living behind created).imp
    · exact fun _ _ same => same
    · exact fun _ _ fails => fails.resolve_right fun dead => dead isLive
  case device_gone =>
    intro device wasAlive isGone steps regular
    obtain ⟨ended, lives⟩ := steps_later steps regular
    have isGiven : device.identity < later.host.nextIdentity := by
      rcases wasAlive with member | ⟨outcome, isOutcome, value, isValue, member⟩
      · exact Nat.lt_of_lt_of_le (before.host.devices.given device member) identified.host.bound
      · exact ((between outcome isOutcome value isValue).devices device member).2
    have excluded := not_or.mpr ⟨isGone, Nat.not_le.mpr isGiven⟩
    constructor
    · exact fun member => excluded (ended.host.devices.since device member)
    · exact fun outcome isOutcome value isValue member =>
        excluded ((lives outcome isOutcome value isValue).devices device member).1
  case platform_gone =>
    intro platform wasAlive isGone steps regular
    obtain ⟨ended, lives⟩ := steps_later steps regular
    have isGiven : platform.identity < later.host.nextIdentity := by
      rcases wasAlive with member | ⟨outcome, isOutcome, value, isValue, member⟩
      · exact Nat.lt_of_lt_of_le (before.host.platforms.given platform member)
          identified.host.bound
      · exact ((between outcome isOutcome value isValue).platforms platform member).2
    have excluded := not_or.mpr ⟨isGone, Nat.not_le.mpr isGiven⟩
    constructor
    · exact fun member => excluded (ended.host.platforms.since platform member)
    · exact fun outcome isOutcome value isValue member =>
        excluded ((lives outcome isOutcome value isValue).platforms platform member).1

/-- In every session over one table, platforms and devices are found by their handles as long as they
are alive: between any two moments of any run of regular commands, `KeepsIdentity` says how. -/
theorem keepsIdentity_run (configs : List SimulatorConfig) (registration : Registration)
    (options : BuildOptions) (environment : Text.Environment) {first second : List Step}
    (regular : ∀ next ∈ first ++ second, next.command.isRegular = true) :
    let earlier :=
      ((opening configs [.listed [registration] options] environment).run first).2
    KeepsIdentity (registration.provider 0) earlier (earlier.run second).1
      (earlier.run second).2 := by
  obtain ⟨areFirst, areSecond⟩ := List.forall_mem_append.mp regular
  have opened := identified_opening configs registration options environment
  have reachable : (opening configs [.listed [registration] options] environment).Reachable :=
    ⟨configs, _, environment, [], rfl⟩
  have before := (identified_run opened reachable areFirst).1
  have isEarlier := reachable.run first
  obtain ⟨identified, between⟩ := identified_run before.rebase isEarlier areSecond
  exact keepsIdentity_of_identified before identified (isEarlier.run second) between

/-- Two devices of one platform. -/
def managing : List Step :=
  [⟨.caller 0 .createPlatform, none⟩,
    ⟨.caller 0 (.createDevice ⟨4096⟩), none⟩,
    ⟨.caller 0 (.createDevice ⟨4096⟩), none⟩,
    ⟨.makeDevice (some 0) ⟨4097⟩ .openCl, some "first"⟩,
    ⟨.makeDevice (some 0) ⟨4098⟩ .openCl, some "second"⟩]

/-- Of the two devices the first is dropped, and both are made again. -/
def remaking : List Step :=
  [⟨.drop "first", none⟩,
    ⟨.makeDevice (some 0) ⟨4097⟩ .openCl, some "again"⟩,
    ⟨.makeDevice (some 0) ⟨4098⟩ .openCl, some "found"⟩]

/-- The device that has been dropped is made anew, and the other one is found. -/
theorem keepsIdentity_run_remade :
    (∀ next ∈ managing ++ remaking, next.command.isRegular = true) ∧
      let earlier := (single.run managing).2
      let later := (earlier.run remaking).2
      KeepsIdentity ⟨0, .openCl, Backend.openCl.demands, { simulator := 0 }⟩ earlier
        (earlier.run remaking).1 later ∧
      earlier.host.devices.map (fun device => (device.identity, device.handle)) =
        [(2, ⟨1⟩), (3, ⟨3⟩)] ∧
      later.host.devices.map (fun device => (device.identity, device.handle)) =
        [(3, ⟨3⟩), (4, ⟨1⟩), (3, ⟨3⟩)] := by
  have regular : ∀ next ∈ managing ++ remaking, next.command.isRegular = true := by
    decide +kernel
  refine ⟨regular, ?_, by decide +kernel, by decide +kernel⟩
  exact keepsIdentity_run [.openCl] { backend := .openCl, table := { simulator := 0 } } {} {} regular

end Session

end ComputeImport
