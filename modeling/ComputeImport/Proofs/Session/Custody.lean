import ComputeImport.Proofs.Import.Handover
import ComputeImport.Proofs.Session.History

/-!
# Custody in a session

Between the commands of a session, the counted wrappers of all backends are in the custody of the
owners that the held objects lead to.  A command takes a session from one such state to another,
whether it succeeds or fails, and all the calls that it makes are accepted.
-/

namespace ComputeImport

/-! ## The values of a ledger -/

namespace Ledger

variable {κ α : Type} [DecidableEq κ] {ledger : Ledger κ α} {key : κ} {value old : α}

/-- A new key brings its value. -/
theorem values_set_new (unknown : ledger.get? key = none) :
    (ledger.set key value).values.Perm (value :: ledger.values) := by
  rw [get?] at unknown
  rw [set, values, values]
  generalize ledger.entries = entries at unknown ⊢
  induction entries with
  | nil => exact .refl _
  | cons entry rest ih =>
      rw [find] at unknown
      split at unknown
      · contradiction
      · rename_i different
        rw [put, if_neg different]
        exact ((ih unknown).cons entry.2).trans (.swap value entry.2 _)

/-- A known key changes its value for another. -/
theorem values_set_known (known : ledger.get? key = some old) :
    (old :: (ledger.set key value).values).Perm (value :: ledger.values) := by
  rw [get?] at known
  rw [set, values, values]
  generalize ledger.entries = entries at known ⊢
  induction entries with
  | nil => contradiction
  | cons entry rest ih =>
      rw [find] at known
      split at known
      · rename_i same
        obtain rfl := Option.some.inj known
        rw [put, if_pos same]
        exact .swap value entry.2 _
      · rename_i different
        rw [put, if_neg different]
        exact (List.Perm.swap entry.2 old _).trans
          (((ih known).cons entry.2).trans (.swap value entry.2 _))

/-- A key that is erased takes its value along. -/
theorem values_erase (distinct : ledger.keys.Nodup) (known : ledger.get? key = some old) :
    (old :: (ledger.erase key).values).Perm ledger.values := by
  rw [keys] at distinct
  rw [get?] at known
  rw [erase, values, values]
  generalize ledger.entries = entries at distinct known ⊢
  induction entries with
  | nil => contradiction
  | cons entry rest ih =>
      obtain ⟨unique, distinct'⟩ := List.nodup_cons.mp distinct
      rw [find] at known
      by_cases same : entry.1 = key
      · rw [if_pos same] at known
        obtain rfl := Option.some.inj known
        have others : rest.filter (fun entry => entry.1 ≠ key) = rest := by
          rw [List.filter_eq_self]
          intro other member
          rw [decide_eq_true_eq]
          rintro rfl
          rw [same] at unique
          exact unique (List.mem_map_of_mem member)
        rw [List.filter_cons_of_neg (by simpa using same), others]
        exact .refl _
      · rw [if_neg same] at known
        rw [List.filter_cons_of_pos (by simpa using same)]
        exact (List.Perm.swap entry.2 old _).trans ((ih distinct' known).cons entry.2)

end Ledger

/-! ## What a value leads to -/

/-- The owners that the held objects lead to. -/
def Host.owners (host : Host) : List Owner :=
  host.held.values.flatMap Managed.owners

/-- The backends that a value leads to have been set up. -/
def Host.Knows (host : Host) (value : Managed) : Prop :=
  ∀ provider ∈ value.providers, provider.table.simulator ∈ host.simulators.keys

/-- What is held leads to all that a value leads to. -/
structure Host.LeadsTo (host : Host) (value : Managed) : Prop where
  owners : ∀ owner ∈ value.owners, owner ∈ host.owners
  knows : host.Knows value

theorem tokensOf_perm {owners others : List Owner} (same : ∀ owner, owner ∈ owners ↔ owner ∈ others) :
    (tokensOf owners).Perm (tokensOf others) := by
  apply List.Perm.flatMap_right
  rw [List.perm_ext_iff_of_nodup (nodup_lastOccurrences owners) (nodup_lastOccurrences others)]
  intro owner
  rw [mem_lastOccurrences, mem_lastOccurrences]
  exact same owner

theorem Owner.tokens_ne_nil (owner : Owner) : owner.tokens ≠ [] := by
  cases owner <;> exact List.cons_ne_nil _ _

theorem mem_tokensOf {token : Token} {owners : List Owner} :
    token ∈ tokensOf owners ↔ ∃ owner ∈ owners, token ∈ owner.tokens := by
  rw [tokensOf, List.mem_flatMap]
  simp only [mem_lastOccurrences]

/-- A new owner adds what it holds. -/
theorem tokensOf_cons {owner : Owner} {owners : List Owner}
    (nodup : (owner.tokens ++ tokensOf owners).Nodup) :
    tokensOf (owner :: owners) = owner.tokens ++ tokensOf owners := by
  have isNew : owner ∉ owners := by
    intro member
    obtain ⟨token, held⟩ := List.exists_mem_of_ne_nil _ owner.tokens_ne_nil
    exact (List.nodup_append.mp nodup).2.2 token held token
      (mem_tokensOf.mpr ⟨owner, member, held⟩) rfl
  rw [tokensOf, tokensOf, lastOccurrences, if_neg isNew, List.flatMap_cons]

/-- The owners that a reply shows. -/
def Reply.owners : Reply → List Owner
  | object value => value.owners
  | _ => []

theorem Reply.owners_of_plain {reply : Reply} (plain : reply.values = []) : reply.owners = [] := by
  cases reply with
  | object => contradiction
  | _ => rfl

/-- The owners that the outcome of a step shows. -/
def Session.shown : Except Failure Reply → List Owner
  | .ok reply => reply.owners
  | .error _ => []

/-- A table that is registered suits its backend, with the demands that are registered for it. -/
def Registration.Suits (registration : Registration) (host : Host) : Prop :=
  registration.table.simulator ∈ host.simulators.keys ∧
    (registration.demands.getD registration.backend.demands).needsRetain =
      !(host.simulator registration.table.simulator).config.retainsOnImport

namespace Session

/-! ## Sessions in order -/

/-- The counted wrappers of all backends are in the custody of the owners that the held objects lead
to and of pending ones.  Every backend that can be reached has been set up, and every registry suits
the backends. -/
structure InOrder (pending : List Owner) (session : Session) : Prop where
  holds : session.host.Holds none (tokensOf (pending ++ session.host.owners))
  numbered : ∃ size, session.host.simulators.keys = List.range size ∧ session.given ≤ size
  registries : ∀ number registry, session.registries.get? number = some registry →
    registry.Suits session.host
  processWide : ∀ registry, session.processWide = some registry → registry.Suits session.host
  distinct : session.host.held.keys.Nodup
  knows : ∀ value ∈ session.host.held.values, session.host.Knows value

/-- Since a start, all calls have been accepted, what was led to then is led to still, and the session
is in order. -/
structure Cares (start : Host) (pending : List Owner) (session : Session) : Prop
    extends InOrder pending session where
  went : start.Went session.host
  still : ∀ owner ∈ start.owners, owner ∈ pending ++ session.host.owners

section Cares

variable {start host : Host} {pending pending' : List Owner} {session : Session} {value : Managed}
  {tokens : List Token}

theorem suits_since {registry : Registry}
    (suits : registry.Suits start) (since : start.Since none tokens host) :
    registry.Suits host := by
  intro backend provider resolved
  obtain ⟨known, needs⟩ := suits backend provider resolved
  rw [Provider.Suits, since.keys,
    since.went.config_eq (Ledger.get?_ne_none_of_mem known)]
  exact ⟨known, needs⟩

theorem owners_of_held {other : Host} (held : host.held = other.held) : host.owners = other.owners := by
  rw [Host.owners, held]
  rfl

theorem Cares.reorder (cares : Cares start pending session)
    (same : ∀ owner, owner ∈ pending ++ session.host.owners ↔
      owner ∈ pending' ++ session.host.owners) : Cares start pending' session := by
  constructor
  case toInOrder =>
    exact ⟨cares.holds.perm (tokensOf_perm same), cares.numbered, cares.registries,
      cares.processWide, cares.distinct, cares.knows⟩
  case went => exact cares.went
  case still => exact fun owner member => (same owner).mp (cares.still owner member)

/-- What is held already need not be pending. -/
theorem Cares.pend (cares : Cares start [] session)
    (held : ∀ owner ∈ pending, owner ∈ session.host.owners) : Cares start pending session := by
  apply cares.reorder
  intro owner
  rw [List.nil_append, List.mem_append]
  constructor
  · exact Or.inr
  · rintro (member | member)
    · exact held owner member
    · exact member

/-- Calls that are made while nothing else is held leave a session in order. -/
theorem InOrder.since (inOrder : InOrder pending session)
    (since : session.host.Since none tokens host) (held : host.held = session.host.held)
    (isTokens : tokens = tokensOf (pending' ++ session.host.owners)) :
    InOrder pending' { session with host } := by
  constructor
  case holds =>
    rw [owners_of_held held, ← isTokens]
    exact since.toHolds
  case numbered =>
    rw [since.keys]
    exact inOrder.numbered
  case registries =>
    exact fun number registry found => suits_since (inOrder.registries number registry found) since
  case processWide =>
    exact fun registry found => suits_since (inOrder.processWide registry found) since
  case distinct =>
    rw [held]
    exact inOrder.distinct
  case knows =>
    intro value member provider isProvider
    rw [since.keys]
    rw [held] at member
    exact inOrder.knows value member provider isProvider

theorem Cares.since (cares : Cares start [] session)
    (since : session.host.Since none tokens host) (held : host.held = session.host.held)
    (isTokens : tokens = tokensOf (pending ++ session.host.owners)) :
    Cares start pending { session with host } := by
  constructor
  case toInOrder => exact cares.toInOrder.since since held isTokens
  case went => exact cares.went.trans since.went
  case still =>
    intro owner member
    rw [owners_of_held held]
    exact List.mem_append_right pending (cares.still owner member)

theorem held_letGo (value : Managed) (host : Host) : (host.letGo value).held = host.held :=
  callsOnly_letGo value _ (respects_held host.held) host rfl

/-- How a command leaves a session: in order, where it may have let a value go at last.  All that was
led to at the start, and all that the command shows, has been led to until then. -/
inductive Leaves (start : Host) (shown : List Owner) : Session → Prop
  | kept {after : Session} (cares : Cares start [] after)
      (led : ∀ owner ∈ shown, owner ∈ after.host.owners) : Leaves start shown after
  | letGo {middle : Session} {value : Managed} (cares : Cares start value.owners middle)
      (led : ∀ owner ∈ shown, owner ∈ value.owners ++ middle.host.owners) :
      Leaves start shown { middle with host := middle.host.letGo value }

theorem Cares.leaves (cares : Cares start [] session) : Leaves start [] session :=
  .kept cares fun _ => nofun

/-- A value that is let go takes along what nothing else leads to. -/
theorem Leaves.inOrder {shown : List Owner} (leaves : Leaves start shown session) :
    InOrder [] session ∧ start.Went session.host := by
  cases leaves with
  | kept cares => exact ⟨cares.toInOrder, cares.went⟩
  | letGo cares =>
      have since := (Host.Since.refl cares.holds).letGo
      exact ⟨cares.toInOrder.since since (held_letGo _ _) rfl, cares.went.trans since.went⟩

/-- Holding other objects, of which the owners are the same together with those that are pending. -/
theorem Cares.hold (cares : Cares start pending session) {held : Ledger String Managed}
    (same : ∀ owner, owner ∈ pending' ++ held.values.flatMap Managed.owners ↔
      owner ∈ pending ++ session.host.owners) (distinct : held.keys.Nodup)
    (knows : ∀ value ∈ held.values, session.host.Knows value) :
    Cares start pending' { session with host := { session.host with held := held } } := by
  constructor
  case toInOrder =>
    constructor
    case holds =>
      have holds := cares.holds.perm (tokensOf_perm fun owner => (same owner).symm)
      exact holds.of_simulators rfl
    case numbered => exact cares.numbered
    case registries => exact cares.registries
    case processWide => exact cares.processWide
    case distinct => exact distinct
    case knows => exact knows
  case went => exact cares.went.trans (.of_simulators rfl)
  case still => exact fun owner member => (same owner).mpr (cares.still owner member)

/-- A pending value is held, and what it takes the place of is let go. -/
theorem ends_keep {name : Option String} (cares : Cares start value.owners session)
    (knows : session.host.Knows value) :
    Ends (keep name value) session (fun reply after => Leaves start reply.owners after)
      (fun _ _ => False) := by
  cases name with
  | none => exact .letGo cares fun _ member => List.mem_append_left _ member
  | some name =>
      unfold keep
      dsimp only
      rw [ends_bind, ends_get, ends_bind, ends_modify]
      have isHeld : value ∈ (session.host.held.set name value).values :=
        Ledger.mem_values_of_get? ((Ledger.get?_set _ _ _ _).trans (if_pos rfl))
      have led : ∀ owner ∈ value.owners,
          owner ∈ (session.host.held.set name value).values.flatMap Managed.owners :=
        fun owner member => List.mem_flatMap.mpr ⟨value, isHeld, member⟩
      cases known : session.host.held.get? name with
      | none =>
          have values : (session.host.held.set name value).values.Perm _ :=
            Ledger.values_set_new known
          refine .kept ?_ led
          apply cares.hold
          case same =>
            intro owner
            rw [List.nil_append, (values.flatMap_right _).mem_iff]
            exact Iff.rfl
          case distinct => exact Ledger.nodup_keys_set _ _ _ cares.distinct
          case knows =>
            intro other member
            rcases List.mem_cons.mp (values.mem_iff.mp member) with rfl | member
            · exact knows
            · exact cares.knows other member
      | some old =>
          have values : (old :: (session.host.held.set name value).values).Perm _ :=
            Ledger.values_set_known known
          have held : Cares start old.owners
              { session with
                host := { session.host with held := session.host.held.set name value } } := by
            apply cares.hold
            case same =>
              intro owner
              exact (values.flatMap_right Managed.owners).mem_iff
            case distinct => exact Ledger.nodup_keys_set _ _ _ cares.distinct
            case knows =>
              intro other member
              rcases List.mem_cons.mp (values.mem_iff.mp (List.mem_cons_of_mem old member)) with
                rfl | member
              · exact knows
              · exact cares.knows other member
          exact .letGo held fun owner member => List.mem_append_right _ (led owner member)

theorem leaves_forget (cares : Cares start [] session) (name : String) :
    Leaves start [] (session.forget name) := by
  unfold forget
  split
  · rename_i value known
    have values := session.host.held.values_erase cares.distinct known
    have held : Cares start value.owners
        { session with
          host := { session.host with held := session.host.held.erase name } } := by
      apply cares.hold
      case same =>
        intro owner
        exact (values.flatMap_right Managed.owners).mem_iff
      case distinct => exact Ledger.nodup_keys_erase _ _ cares.distinct
      case knows =>
        intro other member
        exact cares.knows other (values.mem_iff.mp (List.mem_cons_of_mem value member))
    exact .letGo held fun _ => nofun
  · exact cares.leaves

end Cares

/-! ## Setting backends up -/

section SettingUp

variable {ε : Type} {start host : Host} {session : Session}

/-- The backends that have been set up are still there, as they were. -/
def Extends (host after : Host) : Prop :=
  ∀ number ∈ host.simulators.keys,
    number ∈ after.simulators.keys ∧ after.simulator number = host.simulator number

theorem Extends.refl (host : Host) : Extends host host :=
  fun _ known => ⟨known, rfl⟩

theorem Extends.trans {middle after : Host} (first : Extends host middle)
    (second : Extends middle after) : Extends host after := by
  intro number known
  obtain ⟨known', same⟩ := first number known
  obtain ⟨known'', same'⟩ := second number known'
  exact ⟨known'', same'.trans same⟩

theorem Extends.of_simulators {after : Host} (same : after.simulators = host.simulators) :
    Extends host after := by
  intro number known
  exact ⟨same ▸ known, Host.simulator_of_simulators same number⟩

theorem suits_extends {registry : Registry} {after : Host} (suits : registry.Suits host)
    (grown : Extends host after) : registry.Suits after := by
  intro backend provider resolved
  obtain ⟨known, needs⟩ := suits backend provider resolved
  obtain ⟨known', same⟩ := grown _ known
  rw [Provider.Suits, same]
  exact ⟨known', needs⟩

section WithBackend

variable {number : Nat} {config : SimulatorConfig}

theorem extends_withBackend (absent : number ∉ host.simulators.keys) :
    Extends host (withBackend host number config) := by
  intro other member
  constructor
  · rw [withBackend, Ledger.keys_set, if_neg absent]
    exact List.mem_append_left _ member
  · rw [simulator_withBackend, if_neg]
    rintro rfl
    exact absent member

/-- A backend that is set up has no wrappers and no failures injected. -/
theorem holds_withBackend {tokens : List Token} (holds : host.Holds none tokens)
    (unknown : host.simulators.get? number = none) :
    (withBackend host number config).Holds none tokens := by
  constructor
  case nodup => exact holds.nodup
  case live =>
    intro token member
    obtain ⟨wrapper, found, rest⟩ := holds.live token member
    rw [simulator_withBackend, if_neg]
    · exact ⟨wrapper, found, rest⟩
    · intro same
      rw [Host.simulator, ← same, unknown] at found
      contradiction
  case owned =>
    intro other id wrapper found counted
    rw [simulator_withBackend] at found
    split at found
    · contradiction
    · exact holds.owned other id wrapper found counted
  case calm =>
    intro other entryPoint counting
    rw [simulator_withBackend]
    split
    · rfl
    · exact holds.calm other entryPoint counting
  case formed =>
    intro other
    rw [simulator_withBackend]
    split
    · exact Store.wellFormed_empty
    · exact holds.formed other

theorem went_withBackend (went : start.Went host) (unknown : host.simulators.get? number = none) :
    start.Went (withBackend host number config) := by
  constructor
  case known =>
    intro other known
    rw [withBackend, Ledger.get?_set]
    split
    · exact Option.some_ne_none _
    · exact went.known other known
  case clean =>
    intro other
    by_cases same : number = other
    · subst same
      have unknown' : start.simulators.get? number = none := by
        by_contra known
        exact went.known number known unknown
      refine ⟨[], fun _ => rfl, config, ?_, trivial⟩
      rw [simulator_withBackend, if_pos rfl, Host.origin_of_unknown config unknown']
      rfl
    · obtain ⟨calls, follows⟩ := went.clean other
      obtain ⟨config', equal, clean⟩ := follows.led
      refine ⟨calls, ?_, config', ?_, clean⟩
      · rw [withBackend, Ledger.get?_set, if_neg same]
        exact follows.unmoved
      · rw [simulator_withBackend, if_neg same]
        exact equal

end WithBackend

/-- Setting a backend up leaves a session in order. -/
theorem ends_setUp {config : SimulatorConfig} (cares : Cares start [] { session with host }) :
    Ends (setUp config : EStateM ε Host Nat) host
      (fun number after => Cares start [] { session with host := after } ∧
        after.held = host.held ∧ Extends host after ∧ host.simulators.keys = List.range number ∧
        after.simulators.keys = List.range (number + 1) ∧
        (after.simulator number).config = config)
      (fun _ _ => False) := by
  obtain ⟨size, keys, given⟩ := cares.numbered
  have isSize : host.simulators.size = size := Ledger.size_of_keys keys
  have absent : size ∉ host.simulators.keys := by
    rw [keys]
    simp
  have unknown := Ledger.get?_eq_none_of_not_mem absent
  have keys' : (withBackend host size config).simulators.keys = List.range (size + 1) := by
    rw [List.range_succ, ← keys]
    exact (Ledger.keys_set _ _ _).trans (if_neg absent)
  have grown : Extends host (withBackend host size config) := extends_withBackend absent
  unfold setUp
  rw [ends_modifyGet, isSize]
  refine ⟨?_, rfl, grown, keys, keys', ?_⟩
  · constructor
    case toInOrder =>
      constructor
      case holds => exact holds_withBackend cares.holds unknown
      case numbered => exact ⟨size + 1, keys', Nat.le_succ_of_le given⟩
      case registries =>
        exact fun number registry found =>
          suits_extends (cares.registries number registry found) grown
      case processWide =>
        exact fun registry found => suits_extends (cares.processWide registry found) grown
      case distinct => exact cares.distinct
      case knows =>
        intro value member provider isProvider
        exact (grown _ (cares.knows value member provider isProvider)).1
    case went => exact went_withBackend cares.went unknown
    case still => exact cares.still
  · change ((withBackend host size config).simulator size).config = config
    rw [simulator_withBackend, if_pos rfl]

/-- A registry that resolves nothing suits any backends. -/
theorem suits_empty (options : BuildOptions) : ({ options } : Registry).Suits host := by
  intro backend provider resolved
  rw [Registry.provider?] at resolved
  split at resolved
  · contradiction
  · contradiction

theorem suits_register {registry : Registry} {provider : Provider} (suits : registry.Suits host)
    (isSuited : provider.Suits host) : (registry.register provider).Suits host := by
  intro backend provider' resolved
  rw [Registry.provider?] at resolved
  split at resolved
  · rename_i linked
    rw [Registry.register, Ledger.get?_set] at resolved
    split at resolved
    · obtain rfl := Option.some.inj resolved
      exact isSuited
    · apply suits backend provider'
      rw [Registry.provider?, if_pos linked]
      exact resolved
  · contradiction

/-- A registry suits the backends if all that it is filled with does. -/
theorem ends_registerAll {registry : Registry} {registrations : List Registration}
    (suits : registry.Suits host)
    (all : ∀ registration ∈ registrations, registration.Suits host) :
    Ends (registerAll registry registrations : EStateM ε Host Registry) host
      (fun registry after => registry.Suits host ∧ after.simulators = host.simulators ∧
        after.held = host.held)
      (fun _ _ => False) := by
  induction registrations generalizing host registry with
  | nil => exact ⟨suits, rfl, rfl⟩
  | cons registration registrations ih =>
      obtain ⟨first, rest⟩ := List.forall_mem_cons.mp all
      unfold registerAll
      rw [ends_bind, ends_freshIdentity]
      dsimp only
      generalize isProvider : (⟨host.nextIdentity, registration.backend,
        registration.demands.getD registration.backend.demands, registration.table⟩ : Provider) =
          provider
      have isSuited : provider.Suits host := by
        rw [← isProvider]
        exact first
      split
      · rw [ends_bind, ends_notify]
        exact ih (suits_register suits isSuited) rest
      · exact ih (suits_register suits isSuited) rest

/-- The reference backends suit the backends that they stand for. -/
theorem ends_setUpReferences {backends : List Backend}
    (cares : Cares start [] { session with host }) :
    Ends (setUpReferences backends : EStateM ε Host (List Registration)) host
      (fun registrations after => Cares start [] { session with host := after } ∧
        after.held = host.held ∧ Extends host after ∧
        ∀ registration ∈ registrations, registration.Suits after)
      (fun _ _ => False) := by
  induction backends generalizing host with
  | nil => exact ⟨cares, rfl, .refl host, fun _ member => absurd member List.not_mem_nil⟩
  | cons backend backends ih =>
      unfold setUpReferences
      split
      · rename_i config isConfig
        apply ((ends_setUp cares).imp (fun _ _ ended => ended) fun _ _ => False.elim).bind
        rintro number middle ⟨cares, held, grown, -, keys, isConfigured⟩
        have known : number ∈ middle.simulators.keys := by
          rw [keys, List.mem_range]
          exact Nat.lt_succ_self number
        apply (ih cares).bind
        rintro registrations after ⟨cares, held', grown', suits⟩
        refine ⟨cares, held'.trans held, grown.trans grown', ?_⟩
        · rw [List.forall_mem_cons]
          refine ⟨⟨(grown' number known).1, ?_⟩, suits⟩
          rw [(grown' number known).2, isConfigured]
          cases backend <;> cases isConfig <;> rfl
      · exact ih cares

theorem ends_referenceRegistry {environment : Text.Environment}
    (cares : Cares start [] { session with host }) :
    Ends (referenceRegistry environment : EStateM ε Host Registry) host
      (fun registry after => Cares start [] { session with host := after } ∧
        after.held = host.held ∧ Extends host after ∧ registry.Suits after)
      (fun _ _ => False) := by
  unfold referenceRegistry
  -- The list of backends is not to be evaluated.
  generalize Backend.linked = backends
  apply (ends_setUpReferences cares).bind
  rintro registrations middle ⟨cares, held, grown, suits⟩
  apply (ends_registerAll (suits_empty _) suits).imp
  · rintro registry after ⟨suits, simulators, held'⟩
    have since : middle.Since none _ after := (Host.Since.refl cares.holds).of_simulators simulators
    exact ⟨cares.since since held' rfl, held'.trans held,
      grown.trans (.of_simulators simulators), suits_since suits since⟩
  · exact fun _ _ => False.elim

end SettingUp

end Session

end ComputeImport
