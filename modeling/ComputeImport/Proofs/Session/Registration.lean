import ComputeImport.Proofs.Session.Identity

/-!
# What a registry resolves

A registry is filled by registrations, one after another.  It resolves the linked backends that have
been registered, each to what its last registration says, and to the same table each time.
-/

namespace ComputeImport

variable {registrations : List Registration} {registration : Registration} {backend : Backend}

/-- The last registration for a backend. -/
def lastFor (backend : Backend) (registrations : List Registration) : Option Registration :=
  (registrations.filter fun registration => registration.backend = backend).getLast?

theorem lastFor_concat (backend : Backend) (registrations : List Registration)
    (registration : Registration) :
    lastFor backend (registrations ++ [registration]) =
      if registration.backend = backend then some registration
      else lastFor backend registrations := by
  by_cases same : registration.backend = backend <;> simp [lastFor, same]

theorem backend_of_lastFor (last : lastFor backend registrations = some registration) :
    registration ∈ registrations ∧ registration.backend = backend := by
  obtain ⟨member, same⟩ := List.mem_filter.mp (List.mem_of_getLast? last)
  exact ⟨member, of_decide_eq_true same⟩

theorem exists_lastFor_iff : (∃ registration, lastFor backend registrations = some registration) ↔
    ∃ registration ∈ registrations, registration.backend = backend := by
  constructor
  · rintro ⟨registration, last⟩
    exact ⟨registration, backend_of_lastFor last⟩
  · rintro ⟨registration, member, same⟩
    cases last : lastFor backend registrations with
    | some registration => exact ⟨registration, rfl⟩
    | none =>
        rw [lastFor, List.getLast?_eq_none_iff, List.filter_eq_nil_iff] at last
        exact absurd (decide_eq_true same) (last registration member)

namespace Registry

/-- A registry holds what the last registrations say, under identities of their own. -/
structure Holds (registry : Registry) (registrations : List Registration) (next : Nat) : Prop where
  known : ∀ backend provider, registry.providers.get? backend = some provider →
    provider.identity < next ∧ ∃ registration, lastFor backend registrations = some registration ∧
      provider = registration.provider provider.identity
  unknown : ∀ backend, registry.providers.get? backend = none →
    lastFor backend registrations = none
  apart : ∀ backend backend' provider provider', registry.providers.get? backend = some provider →
    registry.providers.get? backend' = some provider' →
    provider.identity = provider'.identity → backend = backend'

variable {registry : Registry} {next : Nat}

theorem Holds.empty (options : BuildOptions) (next : Nat) :
    ({ options } : Registry).Holds [] next := by
  constructor
  case known => exact fun _ _ => nofun
  case unknown => exact fun _ _ => rfl
  case apart => exact fun _ _ _ _ => nofun

/-- A registration takes the place of an earlier one for its backend, and of no other. -/
theorem Holds.register (holds : registry.Holds registrations next) (registration : Registration) :
    (registry.register (registration.provider next)).Holds (registrations ++ [registration])
      (next + 1) := by
  have found : ∀ backend provider,
      (registry.register (registration.provider next)).providers.get? backend = some provider →
      (registration.backend = backend ∧ provider = registration.provider next) ∨
        (registration.backend ≠ backend ∧ registry.providers.get? backend = some provider) := by
    intro backend provider found
    rw [Registry.register, Ledger.get?_set] at found
    split at found
    · rename_i same
      exact Or.inl ⟨same, (Option.some.inj found).symm⟩
    · rename_i other
      exact Or.inr ⟨other, found⟩
  constructor
  case known =>
    intro backend provider known
    rw [lastFor_concat]
    rcases found backend provider known with ⟨same, rfl⟩ | ⟨other, known⟩
    · exact ⟨Nat.lt_succ_self next, registration, if_pos same, rfl⟩
    · obtain ⟨earlier, last, isLast⟩ := holds.known backend provider known
      exact ⟨Nat.lt_succ_of_lt earlier, last, (if_neg other).trans isLast.1, isLast.2⟩
  case unknown =>
    intro backend unknown
    rw [Registry.register, Ledger.get?_set] at unknown
    split at unknown
    · contradiction
    · rename_i other
      rw [lastFor_concat]
      exact (if_neg other).trans (holds.unknown backend unknown)
  case apart =>
    intro backend backend' provider provider' known known' same
    rcases found backend provider known with ⟨isNew, rfl⟩ | ⟨-, known⟩ <;>
      rcases found backend' provider' known' with ⟨isNew', rfl⟩ | ⟨-, known'⟩
    · exact isNew.symm.trans isNew'
    · exact absurd same.symm (holds.known backend' provider' known').1.ne
    · exact absurd same (holds.known backend provider known).1.ne
    · exact holds.apart backend backend' provider provider' known known' same

end Registry

/-- Registering one table after another cannot fail. -/
theorem ends_registerAllHolds {ε : Type} {registry : Registry} {more : List Registration}
    {host : Host} (holds : registry.Holds registrations host.nextIdentity) :
    Ends (registerAll registry more : EStateM ε Host Registry) host
      (fun filled after => filled.Holds (registrations ++ more) after.nextIdentity ∧
        filled.options = registry.options)
      (fun _ _ => False) := by
  induction more generalizing registry registrations host with
  | nil =>
      rw [List.append_nil]
      exact ⟨holds, rfl⟩
  | cons registration more ih =>
      unfold registerAll
      rw [ends_bind, ends_freshIdentity, List.append_cons]
      have registered := holds.register registration
      dsimp only
      split
      · rw [ends_bind, ends_notify]
        exact ih registered
      · exact ih registered

/-! ## Resolving -/

/-- What a registry resolves that has been filled by registrations. -/
structure Registry.LastWins (registry : Registry) (registrations : List Registration) : Prop where
  /-- A backend is resolved just where it is linked and has been registered. -/
  ok_iff : ∀ backend host,
    (∃ provider after, registry.resolve backend host = .ok provider after) ↔
      backend.isLinked = true ∧ ∃ registration ∈ registrations, registration.backend = backend
  /-- It is resolved to what its last registration says. -/
  last : ∀ backend host provider after, registry.resolve backend host = .ok provider after →
    ∃ registration, lastFor backend registrations = some registration ∧
      provider.backend = backend ∧ provider.table = registration.table ∧
      provider.demands = registration.demands.getD backend.demands
  /-- It is resolved to the same each time. -/
  same : ∀ backend host host' provider provider' after after',
    registry.resolve backend host = .ok provider after →
    registry.resolve backend host' = .ok provider' after' → provider = provider'
  /-- Two backends are never resolved to one provider. -/
  apart : ∀ backend backend' host host' provider provider' after after',
    registry.resolve backend host = .ok provider after →
    registry.resolve backend' host' = .ok provider' after' →
    provider.identity = provider'.identity → backend = backend'
  /-- Any other backend is refused. -/
  refused : ∀ backend host e after, registry.resolve backend host = .error e after →
    e = .unsupportedBackend backend ∧ after = host

theorem Registry.Holds.lastWins {registry : Registry} {next : Nat}
    (holds : registry.Holds registrations next) : registry.LastWins registrations := by
  have resolved : ∀ {backend host provider after},
      registry.resolve backend host = .ok provider after →
      backend.isLinked = true ∧ registry.providers.get? backend = some provider := by
    intro backend host provider after outcome
    obtain ⟨known, -⟩ := ends_resolve.of_ok outcome
    unfold Registry.provider? at known
    split at known
    · rename_i linked
      exact ⟨linked, known⟩
    · contradiction
  constructor
  case ok_iff =>
    intro backend host
    constructor
    · rintro ⟨provider, after, outcome⟩
      obtain ⟨linked, known⟩ := resolved outcome
      obtain ⟨-, registration, last, -⟩ := holds.known backend provider known
      exact ⟨linked, registration, backend_of_lastFor last⟩
    · rintro ⟨linked, registered⟩
      cases outcome : registry.resolve backend host with
      | ok provider after => exact ⟨provider, after, rfl⟩
      | error e after =>
          obtain ⟨unknown, -⟩ := ends_resolve.of_error outcome
          rw [Registry.provider?, if_pos linked] at unknown
          obtain ⟨registration, last⟩ := exists_lastFor_iff.mpr registered
          rw [holds.unknown backend unknown] at last
          contradiction
  case last =>
    intro backend host provider after outcome
    obtain ⟨-, registration, last, isProvider⟩ :=
      holds.known backend provider (resolved outcome).2
    obtain ⟨-, rfl⟩ := backend_of_lastFor last
    rw [isProvider]
    exact ⟨registration, last, rfl, rfl, rfl⟩
  case same =>
    intro backend host host' provider provider' after after' outcome outcome'
    exact Option.some.inj ((resolved outcome).2.symm.trans (resolved outcome').2)
  case apart =>
    intro backend backend' host host' provider provider' after after' outcome outcome'
    exact holds.apart backend backend' provider provider' (resolved outcome).2 (resolved outcome').2
  case refused =>
    intro backend host e after outcome
    obtain ⟨unknown, -⟩ := ends_resolve.of_error outcome
    rw [Registry.resolve, unknown] at outcome
    cases outcome
    exact ⟨rfl, rfl⟩

/-- A registry that is filled by registrations resolves what the last ones say, and keeps the
options that it is given. -/
theorem ends_registerAllLastWins {ε : Type} (options : BuildOptions)
    (registrations : List Registration) (host : Host) :
    Ends (registerAll { options } registrations : EStateM ε Host Registry) host
      (fun registry _ => registry.LastWins registrations ∧ registry.options = options)
      (fun _ _ => False) :=
  (ends_registerAllHolds (.empty options host.nextIdentity)).imp
    (fun _ _ ended => ⟨ended.1.lastWins, ended.2⟩) fun _ _ => False.elim

end ComputeImport
