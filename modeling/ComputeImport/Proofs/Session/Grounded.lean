import ComputeImport.Proofs.Import.Export
import ComputeImport.Proofs.Session.Identity

/-!
# All that a session leads to

The objects that are alive are those that what is held leads to.  The backends of a session are
numbered, and neither the objects that are alive nor the registries reach any others: so every call
finds a backend that has been set up, and a backend that is set up takes the place of none.
-/

namespace ComputeImport

/-! ## Living objects -/

/-- An owner as a managed object. -/
def Owner.managed : Owner → Managed
  | context held => .context held
  | queue held => .queue held
  | event held => .event held
  | image held => .image held
  | kernel held => .kernel held

/-- The objects that a value leads to. -/
def Managed.objects (value : Managed) : List Managed :=
  value.platforms.map .platform ++ (value.devices.map .device ++ value.owners.map Owner.managed)

/-- The objects that pending values and the held ones lead to. -/
def Host.livingObjects (host : Host) (pending : List Managed) : List Managed :=
  (pending ++ host.held.values).flatMap Managed.objects

/-- The objects that are alive. -/
def Host.objects (host : Host) : List Managed :=
  host.livingObjects []

theorem Owner.managed_inj {owner other : Owner} (same : owner.managed = other.managed) :
    owner = other := by
  cases owner <;> cases other <;> cases same <;> rfl

namespace Managed

variable {value whole object : Managed} {owner : Owner}

theorem mem_objects : object ∈ value.objects ↔
    (∃ platform ∈ value.platforms, .platform platform = object) ∨
      (∃ device ∈ value.devices, .device device = object) ∨
      ∃ owner ∈ value.owners, owner.managed = object := by
  rw [objects, List.mem_append, List.mem_append, List.mem_map, List.mem_map, List.mem_map]

theorem managed_mem_objects : owner.managed ∈ value.objects ↔ owner ∈ value.owners := by
  rw [mem_objects]
  constructor
  · rintro (⟨platform, -, same⟩ | ⟨device, -, same⟩ | ⟨other, member, same⟩)
    · cases owner <;> cases same
    · cases owner <;> cases same
    · exact Owner.managed_inj same ▸ member
  · exact fun member => Or.inr (Or.inr ⟨owner, member, rfl⟩)

end Managed

namespace Host

variable {host : Host} {pending : List Managed} {value object : Managed} {owner : Owner}

theorem mem_livingObjects : object ∈ host.livingObjects pending ↔
    ∃ value ∈ pending ++ host.held.values, object ∈ value.objects :=
  List.mem_flatMap

theorem managed_mem_livingObjects : owner.managed ∈ host.livingObjects pending ↔
    ∃ value ∈ pending ++ host.held.values, owner ∈ value.owners := by
  rw [mem_livingObjects]
  simp only [Managed.managed_mem_objects]

/-- Values among others lead to no more than those. -/
theorem livingObjects_subset {pending' : List Managed} {held : Ledger String Managed}
    (known : ∀ value ∈ pending' ++ held.values, value ∈ pending ++ host.held.values) :
    ({ host with held } : Host).livingObjects pending' ⊆ host.livingObjects pending := by
  intro object member
  obtain ⟨value, isValue, isObject⟩ := mem_livingObjects.mp member
  exact mem_livingObjects.mpr ⟨value, known value isValue, isObject⟩

theorem objects_subset_of_held (held : value ∈ host.held.values) : value.objects ⊆ host.objects :=
  fun _ member => mem_livingObjects.mpr ⟨value, held, member⟩

/-- What a value leads to is alive, and the backends that it leads to have been set up. -/
structure Has (host : Host) (value : Managed) : Prop where
  objects : value.objects ⊆ host.objects
  knows : host.Knows value

theorem Has.owners (has : host.Has value) (member : owner ∈ value.owners) :
    owner.managed ∈ host.objects :=
  has.objects (Managed.managed_mem_objects.mpr member)

/-- What is alive leads to nothing else, while it is pending. -/
theorem Has.living (has : host.Has value) : host.livingObjects [value] ⊆ host.objects := by
  intro object member
  obtain ⟨other, isValue, isObject⟩ := mem_livingObjects.mp member
  rcases List.mem_cons.mp isValue with rfl | isHeld
  · exact has.objects isObject
  · exact mem_livingObjects.mpr ⟨other, isHeld, isObject⟩

/-- What leads to nothing but what leads to what is alive. -/
theorem Has.ofLed {values : List Managed} (has : ∀ whole ∈ values, host.Has whole)
    (led : value.LedBy values) : host.Has value := by
  constructor
  case objects =>
    intro object member
    rcases Managed.mem_objects.mp member with ⟨platform, isPlatform, rfl⟩ | ⟨device, isDevice, rfl⟩ |
      ⟨owner, isOwner, rfl⟩
    · obtain ⟨whole, isValue, isPart⟩ := List.mem_flatMap.mp (led.platforms isPlatform)
      exact (has whole isValue).objects (Managed.mem_objects.mpr (Or.inl ⟨platform, isPart, rfl⟩))
    · obtain ⟨whole, isValue, isPart⟩ := List.mem_flatMap.mp (led.devices isDevice)
      exact (has whole isValue).objects
        (Managed.mem_objects.mpr (Or.inr (Or.inl ⟨device, isPart, rfl⟩)))
    · obtain ⟨whole, isValue, isPart⟩ := List.mem_flatMap.mp (led.owners isOwner)
      exact (has whole isValue).owners isPart
  case knows =>
    intro provider member
    obtain ⟨whole, isValue, isPart⟩ := List.mem_flatMap.mp (led.providers member)
    exact (has whole isValue).knows provider isPart

end Host

/-! ## Letting go -/

namespace Host.Spares

variable {start host : Host} {exempt : Token → Prop}

theorem ownerRelease {owner : Owner} (spares : start.Spares exempt host)
    (within : owner.Within fun number => number ∈ start.simulators.keys)
    (ended : ∀ token ∈ owner.tokens, exempt token) : start.Spares exempt (owner.release host) := by
  have noted : ∀ after notice, start.Spares exempt after → start.Spares exempt (after.notify notice) :=
    fun _ notice spares => spares.notify notice
  cases owner with
  | context held =>
      refine Host.holds_releaseWith (.of_done (.contextRelease held.handle) rfl)
        (spares.step within ?_) noted
      rintro _ _ _ ⟨⟩ ⟨⟩
      exact Or.inl (ended _ (List.mem_singleton_self _))
  | queue held =>
      refine Host.holds_releaseWith (.of_done (.queueRelease held.handle) rfl)
        (spares.step within ?_) noted
      rintro _ _ _ ⟨⟩ ⟨⟩
      exact Or.inl (ended _ (List.mem_singleton_self _))
  | event held =>
      refine Host.holds_releaseWith (.of_done (.eventRelease held.handle) rfl)
        (spares.step within ?_) noted
      rintro _ _ _ ⟨⟩ ⟨⟩
      exact Or.inl (ended _ (List.mem_singleton_self _))
  | kernel held =>
      refine Host.holds_releaseWith (.of_done (.kernelRelease held.handle) rfl)
        (spares.step within ?_) noted
      rintro _ _ _ ⟨⟩ ⟨⟩
      exact Or.inl (ended _ (List.mem_singleton_self _))
  | image held =>
      change start.Spares exempt (releasePrograms (held.program :: held.superseded) host)
      replace within : ∀ program ∈ held.program :: held.superseded, _ := within
      replace ended : ∀ program ∈ held.program :: held.superseded, exempt program.token :=
        fun program member => ended _ (List.mem_map_of_mem member)
      unfold releasePrograms
      generalize held.program :: held.superseded = programs at within ended ⊢
      induction programs generalizing host with
      | nil => exact spares
      | cons program programs ih =>
          obtain ⟨first, rest⟩ := List.forall_mem_cons.mp within
          obtain ⟨isExempt, areExempt⟩ := List.forall_mem_cons.mp ended
          refine ih (program.holds_release (spares.step first ?_) noted) rest areExempt
          rintro _ _ _ ⟨⟩ ⟨⟩
          exact Or.inl isExempt

/-- Letting a value go releases what ends with it. -/
theorem letGo {value : Managed} (formed : ∀ number, (start.simulator number).store.WellFormed)
    (within : ∀ owner ∈ value.owners, owner.Within fun number => number ∈ start.simulators.keys) :
    start.Spares (fun token => ∃ owner ∈ value.ending start.held.values, token ∈ owner.tokens)
      (start.letGo value) := by
  have isOwner : ∀ owner ∈ value.ending start.held.values, owner ∈ value.owners :=
    fun owner member => (List.mem_filter.mp ((mem_lastOccurrences _ _).mp member)).1
  suffices ∀ owners : List Owner, (∀ owner ∈ owners, owner ∈ value.ending start.held.values) →
      ∀ host, start.Spares (fun token => ∃ owner ∈ value.ending start.held.values,
        token ∈ owner.tokens) host →
      start.Spares (fun token => ∃ owner ∈ value.ending start.held.values, token ∈ owner.tokens)
        (owners.foldl (fun host owner => owner.release host) host) from
    this _ (fun _ member => member) start (.refl formed)
  intro owners areEnding
  induction owners with
  | nil => exact fun _ spares => spares
  | cons owner owners ih =>
      obtain ⟨isEnding, areEnding⟩ := List.forall_mem_cons.mp areEnding
      intro host spares
      apply ih areEnding
      apply spares.ownerRelease (within owner (isOwner owner isEnding))
      exact fun token member => ⟨owner, isEnding, member⟩

end Host.Spares

/-! ## Setting backends up -/

/-- More backends have been set up, on which nothing has been made yet. -/
structure Host.Adds (start host : Host) : Prop where
  stores : ∀ number, (host.simulator number).store = (start.simulator number).store
  known : start.simulators.keys ⊆ host.simulators.keys
  held : host.held = start.held
  numbered : ∃ size, host.simulators.keys = List.range size

section Adds

variable {start middle host after : Host} {ε : Type}

theorem Host.Adds.refl (numbered : ∃ size, host.simulators.keys = List.range size) : host.Adds host :=
  ⟨fun _ => rfl, List.Subset.refl _, rfl, numbered⟩

theorem Host.Adds.trans (adds : start.Adds middle) (adds' : middle.Adds host) : start.Adds host :=
  ⟨fun number => (adds'.stores number).trans (adds.stores number),
    List.Subset.trans adds.known adds'.known, adds'.held.trans adds.held, adds'.numbered⟩

theorem Host.Adds.of_simulators (adds : start.Adds host) (same : after.simulators = host.simulators)
    (held : after.held = host.held) : start.Adds after := by
  constructor
  case stores =>
    intro number
    rw [Host.simulator_of_simulators same]
    exact adds.stores number
  case known => exact same ▸ adds.known
  case held => exact held.trans adds.held
  case numbered => exact same ▸ adds.numbered

theorem ends_setUpAdds {config : SimulatorConfig} {size : Nat}
    (keys : host.simulators.keys = List.range size) :
    Ends (setUp config : EStateM ε Host Nat) host
      (fun number after => host.Adds after ∧ number = size ∧
        after.simulators.keys = List.range (size + 1))
      (fun _ _ => False) := by
  have isSize : host.simulators.size = size := Ledger.size_of_keys keys
  have absent : size ∉ host.simulators.keys := by
    rw [keys]
    exact fun member => Nat.lt_irrefl size (List.mem_range.mp member)
  have keys' : (host.simulators.set size { config }).keys = List.range (size + 1) := by
    rw [List.range_succ, ← keys, Ledger.keys_set, if_neg absent]
  unfold setUp
  rw [ends_modifyGet, isSize]
  refine ⟨⟨?_, ?_, rfl, size + 1, keys'⟩, rfl, keys'⟩
  · intro number
    change ((Session.withBackend host size config).simulator number).store = _
    rw [Session.simulator_withBackend]
    split
    · rename_i same
      subst same
      rw [Host.simulator, Ledger.get?_eq_none_of_not_mem absent]
      rfl
    · rfl
  · intro number member
    change number ∈ (host.simulators.set size { config }).keys
    rw [keys', List.range_succ, ← keys]
    exact List.mem_append_left _ member

/-- Filling a registry sets no backends up, and resolves to what it is filled with. -/
theorem ends_registerAllWithin {reached : Nat → Prop} {registry : Registry}
    {registrations : List Registration} (within : registry.Within reached)
    (all : ∀ registration ∈ registrations, reached registration.table.simulator) :
    Ends (registerAll registry registrations : EStateM ε Host Registry) host
      (fun registry after => registry.Within reached ∧ after.simulators = host.simulators ∧
        after.held = host.held)
      (fun _ _ => False) := by
  induction registrations generalizing host registry with
  | nil => exact ⟨within, rfl, rfl⟩
  | cons registration registrations ih =>
      obtain ⟨first, rest⟩ := List.forall_mem_cons.mp all
      have registers : ∀ identity,
          (registry.register (registration.provider identity)).Within reached := by
        intro identity backend provider resolved
        rw [Registry.provider?] at resolved
        split at resolved
        · rename_i linked
          rw [Registry.register, Ledger.get?_set] at resolved
          split at resolved
          · obtain rfl := Option.some.inj resolved
            exact first
          · apply within backend provider
            rw [Registry.provider?, if_pos linked]
            exact resolved
        · contradiction
      unfold registerAll
      rw [ends_bind, ends_freshIdentity]
      dsimp only
      split
      · rw [ends_bind, ends_notify]
        exact ih (registers _) rest
      · exact ih (registers _) rest

/-- A registry that resolves nothing reaches no backend. -/
theorem within_empty (reached : Nat → Prop) (options : BuildOptions) :
    ({ options } : Registry).Within reached := by
  intro backend provider resolved
  rw [Registry.provider?] at resolved
  split at resolved <;> contradiction

theorem ends_setUpReferencesAdds {backends : List Backend}
    (numbered : ∃ size, host.simulators.keys = List.range size) :
    Ends (setUpReferences backends : EStateM ε Host (List Registration)) host
      (fun registrations after => host.Adds after ∧
        ∀ registration ∈ registrations, registration.table.simulator ∈ after.simulators.keys)
      (fun _ _ => False) := by
  induction backends generalizing host with
  | nil => exact ⟨.refl numbered, List.forall_mem_nil _⟩
  | cons backend backends ih =>
      unfold setUpReferences
      split
      · obtain ⟨size, keys⟩ := numbered
        apply (ends_setUpAdds keys).bind
        rintro number middle ⟨adds, rfl, keys⟩
        apply (ih ⟨_, keys⟩).bind
        rintro registrations after ⟨adds', reached⟩
        refine ⟨adds.trans adds', List.forall_mem_cons.mpr ⟨adds'.known ?_, reached⟩⟩
        rw [keys]
        exact List.mem_range.mpr (Nat.lt_succ_self number)
      · exact ih numbered

/-- The registry of reference backends reaches those that are set up for it. -/
theorem ends_referenceRegistryAdds {environment : Text.Environment}
    (numbered : ∃ size, host.simulators.keys = List.range size) :
    Ends (referenceRegistry environment : EStateM ε Host Registry) host
      (fun registry after => host.Adds after ∧
        registry.Within fun number => number ∈ after.simulators.keys)
      (fun _ _ => False) := by
  unfold referenceRegistry
  -- The list of backends is not to be evaluated.
  generalize Backend.linked = backends
  apply (ends_setUpReferencesAdds numbered).bind
  rintro registrations middle ⟨adds, reached⟩
  apply (ends_registerAllWithin (within_empty _ _) reached).imp
  · rintro registry after ⟨within, same, held⟩
    exact ⟨adds.of_simulators same held, same ▸ within⟩
  · exact fun _ _ => False.elim

end Adds

/-! ## What is grounded -/

namespace Session

/-- The backends of a session are numbered, and all that is alive and all registries reach no others. -/
structure Grounded (pending : List Managed) (session : Session) : Prop where
  formed : ∀ number, (session.host.simulator number).store.WellFormed
  numbered : ∃ size, session.host.simulators.keys = List.range size ∧ session.given ≤ size
  registries : ∀ number registry, session.registries.get? number = some registry →
    registry.Within fun number => number ∈ session.host.simulators.keys
  processWide : ∀ registry, session.processWide = some registry →
    registry.Within fun number => number ∈ session.host.simulators.keys
  knows : ∀ value ∈ pending ++ session.host.held.values, session.host.Knows value
  within : ∀ owner : Owner, owner.managed ∈ session.host.livingObjects pending →
    owner.Within fun number => number ∈ session.host.simulators.keys

namespace Grounded

variable {pending pending' : List Managed} {session : Session} {host : Host} {value : Managed}
  {exempt : Token → Prop}

theorem has (grounded : session.Grounded []) (held : value ∈ session.host.held.values) :
    session.host.Has value :=
  ⟨Host.objects_subset_of_held held, grounded.knows value held⟩

theorem given_known (grounded : session.Grounded pending) {number : Nat}
    (isGiven : number < session.given) : number ∈ session.host.simulators.keys := by
  obtain ⟨size, keys, given⟩ := grounded.numbered
  rw [keys, List.mem_range]
  exact Nat.lt_of_lt_of_le isGiven given

theorem still (grounded : session.Grounded pending) : session.host.Spares exempt session.host :=
  .refl grounded.formed

/-- Holding other values, which lead to nothing new. -/
theorem sub (grounded : session.Grounded pending) {held : Ledger String Managed}
    (knows : ∀ value ∈ pending' ++ held.values, session.host.Knows value)
    (living : ({ session.host with held } : Host).livingObjects pending' ⊆
      session.host.livingObjects pending) :
    Grounded pending' { session with host := { session.host with held } } :=
  ⟨grounded.formed, grounded.numbered, grounded.registries, grounded.processWide, knows,
    fun owner member => grounded.within owner (living member)⟩

/-- Something that leads to nothing but what is alive. -/
theorem pend (grounded : session.Grounded []) (has : session.host.Has value) :
    session.Grounded [value] :=
  grounded.sub (List.forall_mem_cons.mpr ⟨has.knows, grounded.knows⟩) has.living

/-- Holding nothing but what has been held or is pending. -/
theorem hold (grounded : session.Grounded pending) {held : Ledger String Managed}
    (known : ∀ value ∈ pending' ++ held.values, value ∈ pending ++ session.host.held.values) :
    Grounded pending' { session with host := { session.host with held } } :=
  grounded.sub (fun value member => grounded.knows value (known value member))
    (Host.livingObjects_subset known)

/-- Calls at backends that have been set up, whatever wrappers end with them. -/
theorem since (grounded : session.Grounded pending) (spares : session.host.Spares exempt host) :
    Grounded pending { session with host } := by
  have living : host.livingObjects pending = session.host.livingObjects pending := by
    rw [Host.livingObjects, spares.held]
    rfl
  constructor
  case formed => exact spares.formed
  case numbered =>
    rw [spares.keys]
    exact grounded.numbered
  case registries =>
    rw [spares.keys]
    exact grounded.registries
  case processWide =>
    rw [spares.keys]
    exact grounded.processWide
  case knows =>
    intro value member provider isProvider
    rw [spares.held] at member
    rw [spares.keys]
    exact grounded.knows value member provider isProvider
  case within =>
    rw [spares.keys, living]
    exact grounded.within

theorem letGo (grounded : session.Grounded [value]) :
    Grounded [] { session with host := session.host.letGo value } := by
  have rest : session.Grounded [] := grounded.hold fun _ member => List.mem_cons_of_mem _ member
  apply rest.since (.letGo grounded.formed fun owner member => grounded.within owner ?_)
  exact Host.managed_mem_livingObjects.mpr ⟨value, List.mem_cons_self, member⟩

/-- Something that leads to backends that have been set up. -/
theorem bring (grounded : session.Grounded []) (spares : session.host.Spares exempt host)
    (knows : session.host.Knows value)
    (within : ∀ owner ∈ value.owners,
      owner.Within (fun number => number ∈ session.host.simulators.keys) ∨
        owner.managed ∈ session.host.objects) :
    Grounded [value] { session with host } := by
  have since := grounded.since spares
  refine ⟨since.formed, since.numbered, since.registries, since.processWide, ?_, ?_⟩
  · refine List.forall_mem_cons.mpr ⟨?_, since.knows⟩
    intro provider member
    rw [spares.keys]
    exact knows provider member
  · intro owner member
    obtain ⟨other, isValue, isOwner⟩ := Host.managed_mem_livingObjects.mp member
    rcases List.mem_cons.mp isValue with rfl | isHeld
    · rw [spares.keys]
      exact (within owner isOwner).elim id (grounded.within owner)
    · exact since.within owner (Host.managed_mem_livingObjects.mpr ⟨other, isHeld, isOwner⟩)

theorem register (grounded : session.Grounded pending) {registries : Ledger Nat Registry}
    {processWide : Option Registry}
    (within : ∀ number registry, registries.get? number = some registry →
      registry.Within fun number => number ∈ session.host.simulators.keys)
    (wide : ∀ registry, processWide = some registry →
      registry.Within fun number => number ∈ session.host.simulators.keys) :
    Grounded pending { session with registries, processWide } :=
  ⟨grounded.formed, grounded.numbered, within, wide, grounded.knows, grounded.within⟩

/-- Setting more backends up. -/
theorem adds (grounded : session.Grounded pending) (adds : session.host.Adds host) :
    Grounded pending { session with host } := by
  have living : host.livingObjects pending = session.host.livingObjects pending := by
    rw [Host.livingObjects, adds.held]
    rfl
  constructor
  case formed =>
    intro number
    rw [adds.stores]
    exact grounded.formed number
  case numbered =>
    obtain ⟨size, keys, given⟩ := grounded.numbered
    obtain ⟨size', keys'⟩ := adds.numbered
    refine ⟨size', keys', Nat.le_trans given ?_⟩
    have known := adds.known
    rw [keys, keys'] at known
    exact Nat.le_of_not_lt fun fewer =>
      Nat.lt_irrefl size' (List.mem_range.mp (known (List.mem_range.mpr fewer)))
  case registries =>
    exact fun number registry found backend provider resolved =>
      adds.known (grounded.registries number registry found backend provider resolved)
  case processWide =>
    exact fun registry found backend provider resolved =>
      adds.known (grounded.processWide registry found backend provider resolved)
  case knows =>
    intro value member provider isProvider
    rw [adds.held] at member
    exact adds.known (grounded.knows value member provider isProvider)
  case within =>
    intro owner member
    exact (grounded.within owner (living ▸ member)).mono fun _ known => adds.known known

end Grounded

end Session

/-! ## Openings -/

/-- The tables that are registered are those of backends that were given. -/
def RegistryPlan.Reaches (given : Nat) : RegistryPlan → Prop
  | reference => True
  | listed registrations _ => ∀ registration ∈ registrations, registration.table.simulator < given

namespace Session

section Opening

variable {ε : Type} {host : Host} {given size : Nat} {configs : List SimulatorConfig}

theorem ends_setUpAllAdds (keys : host.simulators.keys = List.range size) :
    Ends (setUpAll configs : EStateM ε Host Unit) host
      (fun _ after => host.Adds after ∧
        after.simulators.keys = List.range (size + configs.length))
      (fun _ _ => False) := by
  induction configs generalizing host size with
  | nil => exact ⟨.refl ⟨size, keys⟩, keys⟩
  | cons config configs ih =>
      apply (ends_setUpAdds keys).bind
      rintro _ middle ⟨adds, -, keys⟩
      apply (ih keys).imp
      · rintro _ after ⟨adds', keys⟩
        refine ⟨adds.trans adds', keys.trans (congrArg List.range ?_)⟩
        rw [List.length_cons]
        omega
      · exact fun _ _ => False.elim

theorem ends_fillAdds {environment : Text.Environment} {plan : RegistryPlan}
    (numbered : ∃ size, host.simulators.keys = List.range size)
    (known : ∀ number < given, number ∈ host.simulators.keys) (reaches : plan.Reaches given) :
    Ends (plan.fill environment : EStateM ε Host Registry) host
      (fun registry after => host.Adds after ∧
        registry.Within fun number => number ∈ after.simulators.keys)
      (fun _ _ => False) := by
  -- The registry of reference backends is not to be evaluated.
  have makes : (∃ size, host.simulators.keys = List.range size) →
      Ends (referenceRegistry environment : EStateM ε Host Registry) host
        (fun registry after => host.Adds after ∧
          registry.Within fun number => number ∈ after.simulators.keys)
        (fun _ _ => False) :=
    @ends_referenceRegistryAdds host ε environment
  unfold RegistryPlan.fill
  generalize (referenceRegistry environment : EStateM ε Host Registry) = making at makes ⊢
  cases plan with
  | reference => exact makes numbered
  | listed registrations options =>
      have reached : ∀ registration ∈ registrations,
          registration.table.simulator ∈ host.simulators.keys :=
        fun registration member => known _ (reaches registration member)
      apply (ends_registerAllWithin (within_empty _ options) reached).imp
      · rintro registry after ⟨within, same, held⟩
        exact ⟨(Host.Adds.refl numbered).of_simulators same held, same ▸ within⟩
      · exact fun _ _ => False.elim

theorem ends_fillAllAdds {environment : Text.Environment} {next : Nat} {plans : List RegistryPlan}
    (numbered : ∃ size, host.simulators.keys = List.range size)
    (known : ∀ number < given, number ∈ host.simulators.keys)
    (reaches : ∀ plan ∈ plans, plan.Reaches given) :
    Ends (fillAll environment next plans : EStateM ε Host (Ledger Nat Registry)) host
      (fun registries after => host.Adds after ∧
        ∀ number registry, registries.get? number = some registry →
          registry.Within fun number => number ∈ after.simulators.keys)
      (fun _ _ => False) := by
  induction plans generalizing host next with
  | nil => exact ⟨.refl numbered, fun _ _ => nofun⟩
  | cons plan plans ih =>
      obtain ⟨isFirst, areRest⟩ := List.forall_mem_cons.mp reaches
      apply (ends_fillAdds numbered known isFirst).bind
      rintro registry middle ⟨adds, within⟩
      have known : ∀ number < given, number ∈ middle.simulators.keys :=
        fun number below => adds.known (known number below)
      apply (ih adds.numbered known areRest).bind
      rintro registries after ⟨adds', all⟩
      refine ⟨adds.trans adds', ?_⟩
      intro number other found
      rw [Ledger.get?, Ledger.find] at found
      split at found
      · obtain rfl := Option.some.inj found
        exact fun backend provider resolved => adds'.known (within backend provider resolved)
      · exact all number other found

/-- A session starts with its backends numbered and nothing held. -/
theorem grounded_opening {plans : List RegistryPlan} (environment : Text.Environment)
    (reaches : ∀ plan ∈ plans, plan.Reaches configs.length) :
    Grounded [] (opening configs plans environment) := by
  have fills : Ends (do
        setUpAll configs
        fillAll environment 0 plans : EStateM Empty Host (Ledger Nat Registry)) {}
      (fun registries after => ({} : Host).Adds after ∧
        (∃ size, after.simulators.keys = List.range size ∧ configs.length ≤ size) ∧
        ∀ number registry, registries.get? number = some registry →
          registry.Within fun number => number ∈ after.simulators.keys)
      (fun _ _ => False) := by
    have given : Ends (setUpAll configs : EStateM Empty Host Unit) {}
        (fun _ after => ({} : Host).Adds after ∧
          after.simulators.keys = List.range (0 + configs.length))
        (fun _ _ => False) := ends_setUpAllAdds rfl
    apply given.bind
    rintro _ middle ⟨adds, keys⟩
    rw [Nat.zero_add] at keys
    have known : ∀ number < configs.length, number ∈ middle.simulators.keys := by
      intro number below
      rw [keys]
      exact List.mem_range.mpr below
    have filled := @ends_fillAllAdds Empty middle configs.length environment 0 plans ⟨_, keys⟩ known
      reaches
    apply filled.imp
    · rintro registries after ⟨adds', all⟩
      obtain ⟨size, keysAfter⟩ := adds'.numbered
      refine ⟨adds.trans adds', ⟨size, keysAfter, Nat.le_of_not_lt fun fewer => ?_⟩, all⟩
      have member := adds'.known (known size fewer)
      rw [keysAfter] at member
      exact Nat.lt_irrefl size (List.mem_range.mp member)
    · exact fun _ _ => False.elim
  obtain ⟨registries, host, ⟨adds, numbered, all⟩, isOpening⟩ := Host.exists_opening fills
  have values : host.held.values = [] := by
    rw [adds.held]
    rfl
  rw [isOpening]
  constructor
  case formed =>
    intro number
    rw [adds.stores]
    exact Store.wellFormed_empty
  case numbered => exact numbered
  case registries => exact all
  case processWide =>
    intro registry found
    contradiction
  case knows =>
    intro value member
    rw [List.nil_append, values] at member
    contradiction
  case within =>
    intro owner member
    rw [Host.livingObjects, List.nil_append, values] at member
    contradiction

end Opening

end Session

end ComputeImport
