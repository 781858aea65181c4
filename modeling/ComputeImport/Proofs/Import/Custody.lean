import ComputeImport.Proofs.Import.Parts
import ComputeImport.Proofs.Simulator.Clean

/-!
# In whose custody the wrappers are

The counted wrappers of all backends are in the custody of the owners that are alive: each of them
has one reference, and one owner that will drop it.  While an import is on its way it has wrappers
in its own custody, and it either hands them on to a new owner or releases them.  `Host.Since` says
so of a host in the middle of an import, or of letting a value go, together with the calls that have
been made since the start.
-/

namespace ComputeImport

/-- A counted wrapper of some backend. -/
structure Token where
  simulator : Nat
  kind : ObjectKind
  id : Nat
  deriving DecidableEq

/-- The wrapper that a handle names at the backend of a provider. -/
def Provider.token {kind : ObjectKind} (provider : Provider) (handle : Handle kind) : Token :=
  ⟨provider.table.simulator, kind, handle.id⟩

/-- The wrapper that a reference to a program names. -/
def ProgramRef.token (program : ProgramRef) : Token :=
  program.provider.token program.handle

/-- The wrappers that an owner releases at its end, in the order of their release. -/
def Owner.tokens : Owner → List Token
  | context ended => [ended.provider.token ended.handle]
  | queue ended => [ended.provider.token ended.handle]
  | event ended => [ended.provider.token ended.handle]
  | kernel ended => [ended.provider.token ended.handle]
  | image ended => (ended.program :: ended.superseded).map ProgramRef.token

/-- The wrappers that several owners hold, where an owner may be listed more than once. -/
def tokensOf (owners : List Owner) : List Token :=
  (lastOccurrences owners).flatMap Owner.tokens

/-- The last occurrences of one list after another. -/
theorem lastOccurrences_append {α : Type} [DecidableEq α] (items others : List α) :
    lastOccurrences (items ++ others) =
      lastOccurrences (items.filter fun item => item ∉ others) ++ lastOccurrences others := by
  induction items with
  | nil => rfl
  | cons item items ih =>
      by_cases isOther : item ∈ others
      · rw [List.cons_append, lastOccurrences, if_pos (List.mem_append_right items isOther), ih]
        simp [isOther]
      · by_cases member : item ∈ items
        · simp [lastOccurrences, isOther, member, ih]
        · simp [lastOccurrences, isOther, member, ih]

/-- A live wrapper of some kind has so many references. -/
def Simulator.Counts (sim : Simulator) (kind : ObjectKind) (id refs : Nat) : Prop :=
  ∃ wrapper, sim.store.wrappers.get? id = some wrapper ∧ wrapper.data.kind = kind ∧
    wrapper.refs = refs

/-- One wrapper of a counted kind has been added, with so many references. -/
structure Store.Adds (store : Store) (kind : ObjectKind) (refs id : Nat) (after : Store) : Prop where
  unused : store.wrappers.get? id = none
  added : ∃ wrapper, after.wrappers.get? id = some wrapper ∧ wrapper.data.kind = kind ∧
    wrapper.refs = refs
  others : ∀ other wrapper, after.wrappers.get? other = some wrapper →
    wrapper.data.kind.isCounted = true → other = id ∨ store.wrappers.get? other = some wrapper

theorem Store.Grows.counted_eq {store after : Store}
    (grows : store.Grows (fun _ => False) after) {id : Nat} {wrapper : Wrapper}
    (found : after.wrappers.get? id = some wrapper) (counted : wrapper.data.kind.isCounted = true) :
    store.wrappers.get? id = some wrapper := by
  rcases grows.wrappers_cases found with found | ⟨-, made | isPlatform | isDevice⟩
  · exact found
  · exact made.elim
  · exact absurd isPlatform (ObjectKind.ordinary_of_isCounted counted).1
  · exact absurd isDevice (ObjectKind.ordinary_of_isCounted counted).2

/-- A wrapper is added by wrapping, perhaps after a device has been wrapped. -/
theorem Simulator.Wraps.adds {store middle after : Store} {data : WrapperData}
    {native : NativeHandle} {ownsNative : Bool} {refs : Nat} {handle : Handle data.kind}
    (wraps : Wraps middle data native ownsNative refs handle after) (quiet : store.Quiet middle)
    (formed : store.WellFormed) : store.Adds data.kind refs handle.id after := by
  have formed' := quiet.grows.wellFormed formed
  obtain ⟨-, rfl, rfl⟩ := wraps
  constructor
  case unused =>
    rw [Option.eq_none_iff_forall_ne_some]
    intro wrapper found
    have found' := quiet.grows.get?_wrappers formed found
    rw [formed'.next_unused] at found'
    contradiction
  case added => exact ⟨⟨data, native, refs, ownsNative⟩, by simp [Store.wrapped], rfl, rfl⟩
  case others =>
    intro other wrapper found counted
    rcases Store.wrapped_cases found with ⟨rfl, -⟩ | found
    · exact Or.inl rfl
    · exact Or.inr (quiet.grows.counted_eq found counted)

/-- A link adds the wrapper of the new program. -/
theorem Simulator.Joins.adds {store after : Store} {output : ProgramBinary → Prop}
    {handle : ProgramHandle} (joins : Joins store output handle after) (formed : store.WellFormed) :
    store.Adds .program 1 handle.id after := by
  obtain ⟨linked, -, rfl, rfl⟩ := joins
  constructor
  case unused => exact formed.next_unused
  case added =>
    refine ⟨⟨.program, ⟨store.nextNative⟩, 1, true⟩, ?_, rfl, rfl⟩
    simp [Store.joined, Store.wrapped, Store.created]
  case others =>
    intro other wrapper found counted
    rcases Store.wrapped_cases found with ⟨rfl, -⟩ | found
    · exact Or.inl rfl
    · exact Or.inr found

/-! ## The calls since a start -/

namespace Host

/-- The backend with a number, or else a new one. -/
def origin (start : Host) (config : SimulatorConfig) (number : Nat) : Simulator :=
  (start.simulators.get? number).getD { config }

/-- Operations that were accepted have led a backend to where it is, from where it was or else from
its beginning. -/
structure Follows (start host : Host) (number : Nat) (operations : List Simulator.Operation) :
    Prop where
  unmoved : host.simulators.get? number = none → operations = []
  led : ∃ config, host.simulator number = (start.origin config number).replay operations ∧
    (start.origin config number).Clean operations

/-- Calls that were accepted have led every backend to where it is. -/
structure Went (start host : Host) : Prop where
  known : ∀ number, start.simulators.get? number ≠ none → host.simulators.get? number ≠ none
  clean : ∀ number, ∃ calls : List Call, start.Follows host number (calls.map .call)

variable {start middle host : Host}

theorem origin_of_known (config : SimulatorConfig) {number : Nat}
    (known : start.simulators.get? number ≠ none) :
    start.origin config number = start.simulator number := by
  rw [Option.ne_none_iff_exists'] at known
  obtain ⟨sim, found⟩ := known
  rw [origin, simulator, found]
  rfl

theorem origin_of_unknown (config : SimulatorConfig) {number : Nat}
    (unknown : start.simulators.get? number = none) :
    start.origin config number = { config } := by
  rw [origin, unknown]
  rfl

theorem Follows.of_simulators (same : host.simulators = start.simulators) (number : Nat) :
    start.Follows host number [] := by
  refine ⟨fun _ => rfl, .cuda, ?_, trivial⟩
  exact simulator_of_simulators same _

theorem Follows.trans {number : Nat} {operations more : List Simulator.Operation}
    (kept : start.simulators.get? number ≠ none → middle.simulators.get? number ≠ none)
    (kept' : middle.simulators.get? number ≠ none → host.simulators.get? number ≠ none)
    (first : start.Follows middle number operations) (second : middle.Follows host number more) :
    start.Follows host number (operations ++ more) := by
  obtain ⟨config, equal, clean⟩ := first.led
  obtain ⟨config', equal', clean'⟩ := second.led
  by_cases known : middle.simulators.get? number = none
  · have unknown : start.simulators.get? number = none := by
      by_contra other
      exact kept other known
    rw [first.unmoved known, List.nil_append]
    refine ⟨second.unmoved, config', ?_⟩
    rw [origin_of_unknown config' unknown, ← origin_of_unknown config' known]
    exact ⟨equal', clean'⟩
  · rw [origin_of_known config' known, equal] at equal' clean'
    refine ⟨fun unknown => absurd unknown (kept' known), config, ?_, ?_⟩
    · rw [Simulator.replay_append]
      exact equal'
    · rw [Simulator.clean_append]
      exact ⟨clean, clean'⟩

/-- An accepted operation takes its backend further. -/
theorem Follows.advance {number other : Nat} {operations : List Simulator.Operation}
    {operation : Simulator.Operation} (follows : start.Follows host other operations)
    (accepts : (host.simulator number).Accepts operation) :
    start.Follows (host.advance number ((host.simulator number).after operation)) other
      (if number = other then operations ++ [operation] else operations) := by
  obtain ⟨config, equal, clean⟩ := follows.led
  split
  · rename_i same
    subst same
    constructor
    case unmoved =>
      intro unknown
      rw [Host.advance, Ledger.get?_set, if_pos rfl] at unknown
      contradiction
    case led =>
      refine ⟨config, ?_, ?_⟩
      · rw [simulator_advance, if_pos rfl, Simulator.replay_append, ← equal]
        rfl
      · rw [Simulator.clean_append, ← equal]
        exact ⟨clean, accepts, trivial⟩
  · rename_i different
    constructor
    case unmoved =>
      intro unknown
      rw [Host.advance, Ledger.get?_set, if_neg different] at unknown
      exact follows.unmoved unknown
    case led =>
      refine ⟨config, ?_, clean⟩
      rw [simulator_advance, if_neg different]
      exact equal

theorem known_advance {number other : Nat} {after : Simulator}
    (known : host.simulators.get? other ≠ none) :
    (host.advance number after).simulators.get? other ≠ none := by
  rw [Host.advance, Ledger.get?_set]
  split
  · exact Option.some_ne_none _
  · exact known

theorem Went.of_simulators (same : host.simulators = start.simulators) : start.Went host := by
  constructor
  case known => exact fun number known => same ▸ known
  case clean => exact fun number => ⟨[], .of_simulators same number⟩

theorem Went.trans (first : start.Went middle) (second : middle.Went host) : start.Went host := by
  constructor
  case known => exact fun number known => second.known number (first.known number known)
  case clean =>
    intro number
    obtain ⟨calls, follows⟩ := first.clean number
    obtain ⟨calls', follows'⟩ := second.clean number
    refine ⟨calls ++ calls', ?_⟩
    rw [List.map_append]
    exact follows.trans (first.known number) (second.known number) follows'

theorem Went.advance (went : start.Went host) {number : Nat} {call : Call}
    (accepts : (host.simulator number).Accepts (.call call)) :
    start.Went (host.advance number ((host.simulator number).after (.call call))) := by
  constructor
  case known => exact fun other known => known_advance (went.known other known)
  case clean =>
    intro other
    obtain ⟨calls, follows⟩ := went.clean other
    have follows' := follows.advance accepts
    split at follows'
    · refine ⟨calls ++ [call], ?_⟩
      rw [List.map_append]
      exact follows'
    · exact ⟨calls, follows'⟩

section Follows

variable {number id : Nat} {operations : List Simulator.Operation}

theorem Follows.config_eq (follows : start.Follows host number operations)
    (known : start.simulators.get? number ≠ none) :
    (host.simulator number).config = (start.simulator number).config := by
  obtain ⟨config, equal, -⟩ := follows.led
  rw [origin_of_known config known] at equal
  rw [equal, Simulator.config_replay]

/-- A backend that had taken no operation has come from its beginning. -/
theorem Follows.begun (follows : start.Follows host number operations)
    (fresh : ∃ config, start.simulator number = { config }) :
    host.simulator number =
        ({ config := (host.simulator number).config } : Simulator).replay operations ∧
      ({ config := (host.simulator number).config } : Simulator).Clean operations := by
  obtain ⟨config, equal, clean⟩ := follows.led
  obtain ⟨first, isFresh⟩ := fresh
  have origin : ∃ config', start.origin config number = { config := config' } := by
    by_cases known : start.simulators.get? number = none
    · exact ⟨config, origin_of_unknown config known⟩
    · exact ⟨first, (origin_of_known config known).trans isFresh⟩
  obtain ⟨config', origin⟩ := origin
  rw [origin] at equal clean
  rw [equal, Simulator.config_replay]
  exact ⟨rfl, clean⟩

theorem store_origin (config : SimulatorConfig) (number : Nat) :
    (start.origin config number).store = (start.simulator number).store := by
  rw [origin, simulator]
  cases start.simulators.get? number <;> rfl

/-- The number of a wrapper is never used again. -/
theorem Follows.wrapper_eq (follows : start.Follows host number operations)
    (formed : (start.simulator number).store.WellFormed)
    (below : id < (start.simulator number).store.nextWrapper) {wrapper : Wrapper}
    (found : (host.simulator number).store.wrappers.get? id = some wrapper) :
    ∃ refs, (start.simulator number).store.wrappers.get? id = some { wrapper with refs } := by
  obtain ⟨config, equal, -⟩ := follows.led
  rw [← store_origin config] at formed below ⊢
  rw [equal] at found
  exact Simulator.wrapper_replay formed below found

theorem Follows.nextWrapper_le (follows : start.Follows host number operations)
    (formed : (start.simulator number).store.WellFormed) :
    (start.simulator number).store.nextWrapper ≤ (host.simulator number).store.nextWrapper := by
  obtain ⟨config, equal, -⟩ := follows.led
  rw [← store_origin config] at formed ⊢
  rw [equal]
  exact Simulator.nextWrapper_le_replay formed _

end Follows

/-- What has led a backend further since a start is what it has recorded since. -/
theorem Went.recorded (went : start.Went host) (number : Nat) :
    ∃ calls, (host.simulator number).calls = (start.simulator number).calls ++ calls ∧
      start.Follows host number (calls.map .call) := by
  obtain ⟨calls, follows⟩ := went.clean number
  obtain ⟨config, equal, -⟩ := follows.led
  refine ⟨calls, ?_, follows⟩
  rw [equal, Simulator.calls_replay, origin, simulator]
  cases start.simulators.get? number <;> rfl

theorem Went.config_eq (went : start.Went host) {number : Nat}
    (known : start.simulators.get? number ≠ none) :
    (host.simulator number).config = (start.simulator number).config := by
  obtain ⟨calls, follows⟩ := went.clean number
  exact follows.config_eq known

/-! ## Custody -/

/-- The references to a wrapper, when there may be one that has not been given its reference. -/
def expected (fresh : Option Token) (token : Token) : Nat :=
  if fresh = some token then 0 else 1

/-- The counted wrappers of all backends are those that are listed, each with a single reference,
apart from a fresh one.  Nothing that counts references is told to fail. -/
structure Holds (fresh : Option Token) (tokens : List Token) (host : Host) : Prop where
  nodup : tokens.Nodup
  live : ∀ token ∈ tokens,
    (host.simulator token.simulator).Counts token.kind token.id (expected fresh token)
  owned : ∀ number id wrapper, (host.simulator number).store.wrappers.get? id = some wrapper →
    wrapper.data.kind.isCounted = true → ⟨number, wrapper.data.kind, id⟩ ∈ tokens
  calm : ∀ number entryPoint, entryPoint.counting? ≠ none →
    (host.simulator number).failures.get? entryPoint = none
  formed : ∀ number, (host.simulator number).store.WellFormed

/-- Since a start, no calls have been made but of backends that were there, all of them accepted, and
the counted wrappers are now those that are listed. -/
structure Since (start : Host) (fresh : Option Token) (tokens : List Token) (host : Host) : Prop
    extends Holds fresh tokens host where
  went : start.Went host
  keys : host.simulators.keys = start.simulators.keys

theorem Holds.perm {fresh : Option Token} {tokens tokens' : List Token}
    (holds : Holds fresh tokens host) (perm : tokens.Perm tokens') :
    Holds fresh tokens' host := by
  constructor
  case nodup => exact perm.nodup_iff.mp holds.nodup
  case live => exact fun token member => holds.live token (perm.mem_iff.mpr member)
  case owned =>
    exact fun number id wrapper found counted =>
      perm.mem_iff.mp (holds.owned number id wrapper found counted)
  case calm => exact holds.calm
  case formed => exact holds.formed

/-- The backend of a wrapper in custody has been set up. -/
theorem Holds.known {fresh : Option Token} {tokens : List Token} (holds : Holds fresh tokens host)
    {token : Token} (member : token ∈ tokens) : host.simulators.get? token.simulator ≠ none := by
  intro unknown
  obtain ⟨wrapper, found, -⟩ := holds.live token member
  rw [simulator, unknown] at found
  contradiction

theorem Holds.of_simulators {fresh : Option Token} {tokens : List Token}
    (holds : Holds fresh tokens start) (same : host.simulators = start.simulators) :
    Holds fresh tokens host := by
  have simulator : ∀ number, host.simulator number = start.simulator number := by
    intro number
    exact Host.simulator_of_simulators same _
  constructor
  case nodup => exact holds.nodup
  case live =>
    intro token member
    rw [simulator]
    exact holds.live token member
  case owned =>
    intro number
    rw [simulator]
    exact holds.owned number
  case calm =>
    intro number
    rw [simulator]
    exact holds.calm number
  case formed =>
    intro number
    rw [simulator]
    exact holds.formed number

namespace Since

variable {fresh fresh' : Option Token} {tokens tokens' : List Token} {number : Nat} {call : Call}

theorem refl (holds : Holds fresh tokens start) : Since start fresh tokens start :=
  ⟨holds, .of_simulators rfl, rfl⟩

theorem perm (since : Since start fresh tokens host) (perm : tokens.Perm tokens') :
    Since start fresh tokens' host :=
  ⟨since.toHolds.perm perm, since.went, since.keys⟩

theorem of_simulators (since : Since start fresh tokens middle)
    (same : host.simulators = middle.simulators) : Since start fresh tokens host :=
  ⟨since.toHolds.of_simulators same, since.went.trans (.of_simulators same),
    (congrArg Ledger.keys same).trans since.keys⟩

theorem notify (since : Since start fresh tokens host) (notice : Notice) :
    Since start fresh tokens (host.notify notice) :=
  since.of_simulators rfl

/-- What is seen of a call elsewhere, and what it makes of the wrappers at its own backend, is what
it makes of the custody. -/
theorem advance (since : Since start fresh tokens host)
    (reached : number ∈ start.simulators.keys)
    (accepts : (host.simulator number).Accepts (.call call)) (nodup : tokens'.Nodup)
    (own : ∀ token ∈ tokens', token.simulator = number →
      ((host.simulator number).after (.call call)).Counts token.kind token.id
        (expected fresh' token))
    (other : ∀ token ∈ tokens', token.simulator ≠ number →
      token ∈ tokens ∧ expected fresh' token = expected fresh token)
    (owned : ∀ id wrapper,
      ((host.simulator number).after (.call call)).store.wrappers.get? id = some wrapper →
      wrapper.data.kind.isCounted = true → ⟨number, wrapper.data.kind, id⟩ ∈ tokens')
    (kept : ∀ token ∈ tokens, token.simulator ≠ number → token ∈ tokens') :
    Since start fresh' tokens'
      (host.advance number ((host.simulator number).after (.call call))) := by
  have recorded : Simulator.Recorded call (host.simulator number)
      ((host.simulator number).after (.call call)) := Simulator.recorded_answer call
  constructor
  case toHolds =>
    constructor
    case nodup => exact nodup
    case live =>
      intro token member
      rw [simulator_advance]
      split
      · rename_i same
        exact own token member same.symm
      · rename_i different
        obtain ⟨member', equal⟩ := other token member (Ne.symm different)
        rw [equal]
        exact since.live token member'
    case owned =>
      intro number' id wrapper found counted
      rw [simulator_advance] at found
      split at found
      · rename_i same
        subst same
        exact owned id wrapper found counted
      · rename_i different
        exact kept _ (since.owned number' id wrapper found counted) (Ne.symm different)
    case calm =>
      intro number' entryPoint counting
      rw [simulator_advance]
      split
      · rw [recorded.failures, Ledger.get?_erase, since.calm number entryPoint counting, ite_self]
      · exact since.calm number' entryPoint counting
    case formed =>
      intro number'
      rw [simulator_advance]
      split
      · exact Simulator.wellFormed_after (since.formed number) (.call call)
      · exact since.formed number'
  case went => exact since.went.advance accepts
  case keys =>
    rw [Host.advance, Ledger.keys_set, since.keys, if_pos reached]

/-- A call that neither counts nor makes a counted wrapper leaves the custody as it is. -/
theorem of_still (since : Since start fresh tokens host)
    (reached : number ∈ start.simulators.keys) (uncounted : call.counted? = none)
    (still : ∀ id wrapper,
      ((host.simulator number).after (.call call)).store.wrappers.get? id = some wrapper →
      wrapper.data.kind.isCounted = true →
      (host.simulator number).store.wrappers.get? id = some wrapper) :
    Since start fresh tokens
      (host.advance number ((host.simulator number).after (.call call))) := by
  have grows : Store.Grows _ (host.simulator number).store
      ((host.simulator number).after (.call call)).store :=
    ends_stateAfter.mp
      (Simulator.extends_answer (Call.uncounted_entryPoint uncounted) (since.formed number))
  apply since.advance reached (Simulator.accepts_uncounted uncounted) since.nodup
  case own =>
    rintro token member rfl
    obtain ⟨wrapper, found, isKind, refs⟩ := since.live token member
    exact ⟨wrapper, grows.get?_wrappers (since.formed _) found, isKind, refs⟩
  case other => exact fun token member _ => ⟨member, rfl⟩
  case owned =>
    exact fun id wrapper found counted =>
      since.owned number id wrapper (still id wrapper found counted) counted
  case kept => exact fun token member _ => member

theorem respects :
    Respects (fun number => number ∈ start.simulators.keys) EntryPoint.IsQuiet
      (Since start fresh tokens) := by
  apply Respects.uncached
  case call =>
    rintro host number call reached ⟨uncounting, unwrapping⟩ since
    have uncounting' := uncounting
    have uncounted : call.counted? = none := by
      rw [Call.counting?_entryPoint, Option.map_eq_none_iff] at uncounting
      exact uncounting
    have grows : Store.Grows _ (host.simulator number).store
        ((host.simulator number).after (.call call)).store :=
      ends_stateAfter.mp (Simulator.extends_answer uncounting' (since.formed number))
    apply since.of_still reached uncounted
    intro id wrapper found counted
    apply (grows.mono ?_).counted_eq found counted
    intro kind wraps
    rw [unwrapping] at wraps
    contradiction
  case other => exact fun host after same _ _ since => since.of_simulators same

/-- A call that makes a counted wrapper adds it to the custody. -/
theorem adds (since : Since start none tokens host) (reached : number ∈ start.simulators.keys)
    (uncounted : call.counted? = none) {kind : ObjectKind} {refs id : Nat}
    (made : (host.simulator number).store.Adds kind refs id
      ((host.simulator number).after (.call call)).store)
    (isFresh : fresh' = none ∨ fresh' = some ⟨number, kind, id⟩)
    (counts : refs = expected fresh' ⟨number, kind, id⟩) :
    Since start fresh' (⟨number, kind, id⟩ :: tokens)
      (host.advance number ((host.simulator number).after (.call call))) := by
  have grows : Store.Grows _ (host.simulator number).store
      ((host.simulator number).after (.call call)).store :=
    ends_stateAfter.mp
      (Simulator.extends_answer (Call.uncounted_entryPoint uncounted) (since.formed number))
  have unlisted : ∀ kind', (⟨number, kind', id⟩ : Token) ∉ tokens := by
    intro kind' member
    obtain ⟨wrapper, found, -⟩ := since.live _ member
    rw [made.unused] at found
    contradiction
  have old : ∀ token ∈ tokens, expected fresh' token = 1 := by
    intro token member
    apply if_neg
    rintro equal
    rcases isFresh with isFresh | isFresh
    · rw [isFresh] at equal
      contradiction
    · rw [isFresh] at equal
      cases equal
      exact unlisted kind member
  apply since.advance reached (Simulator.accepts_uncounted uncounted)
  case nodup => exact List.nodup_cons.mpr ⟨unlisted kind, since.nodup⟩
  case own =>
    intro token member isOwn
    rcases List.mem_cons.mp member with rfl | listed
    · obtain ⟨wrapper, found, isKind, isRefs⟩ := made.added
      exact ⟨wrapper, found, isKind, isRefs.trans counts⟩
    · obtain ⟨wrapper, found, isKind, isRefs⟩ := since.live token listed
      rw [isOwn] at found
      refine ⟨wrapper, grows.get?_wrappers (since.formed _) found, isKind, ?_⟩
      rw [old token listed, isRefs]
      rfl
  case other =>
    intro token member isOther
    rcases List.mem_cons.mp member with rfl | member
    · exact absurd rfl isOther
    · exact ⟨member, old token member⟩
  case owned =>
    intro other wrapper found counted
    rcases made.others other wrapper found counted with rfl | found'
    · obtain ⟨wrapper', found', isKind, -⟩ := made.added
      obtain rfl := Option.some.inj (found.symm.trans found')
      rw [isKind]
      exact List.mem_cons_self
    · exact List.mem_cons_of_mem _ (since.owned number other wrapper found' counted)
  case kept => exact fun token member _ => List.mem_cons_of_mem _ member

theorem accepts {counting : Counting} {kind : ObjectKind} {id : Nat}
    (since : Since start fresh tokens host) (member : ⟨number, kind, id⟩ ∈ tokens)
    (counted : call.counted? = some (counting, kind, id))
    (counts : expected fresh ⟨number, kind, id⟩ = counting.expected) :
    (host.simulator number).Accepts (.call call) := by
  intro counting' kind' id' counted'
  obtain ⟨rfl, rfl, rfl⟩ : counting = counting' ∧ kind = kind' ∧ id = id' := by
    simpa using counted.symm.trans counted'
  constructor
  · apply since.calm
    rw [Call.counting?_entryPoint, counted]
    exact Option.some_ne_none _
  · obtain ⟨wrapper, found, isKind, refs⟩ := since.live _ member
    exact ⟨wrapper, found, isKind, refs.trans counts⟩

/-- A fresh wrapper is given its reference. -/
theorem retained {kind : ObjectKind} {id : Nat}
    (since : Since start (some ⟨number, kind, id⟩) (⟨number, kind, id⟩ :: tokens) host)
    (reached : number ∈ start.simulators.keys)
    (counted : call.counted? = some (.retain, kind, id)) :
    Since start none (⟨number, kind, id⟩ :: tokens)
      (host.advance number ((host.simulator number).after (.call call))) := by
  have accepts := since.accepts List.mem_cons_self counted (if_pos rfl)
  obtain ⟨wrapper, known, isKind, equal⟩ := Simulator.after_retain accepts counted
  apply since.advance reached accepts since.nodup
  case own =>
    intro token member isOwn
    obtain ⟨wrapper', found, isKind', refs⟩ := since.live token member
    rw [isOwn] at found
    rw [Simulator.Counts, equal, Store.recounted, Ledger.get?_set]
    by_cases same : id = token.id
    · rw [← same] at found
      obtain rfl := Option.some.inj (known.symm.trans found)
      exact ⟨_, if_pos same, isKind', rfl⟩
    · refine ⟨wrapper', (if_neg same).trans found, isKind', refs.trans ?_⟩
      exact if_neg fun isFresh => same (congrArg Token.id (Option.some.inj isFresh))
  case other =>
    intro token member isOther
    refine ⟨member, (if_neg ?_).symm⟩
    exact fun isFresh => isOther (congrArg Token.simulator (Option.some.inj isFresh)).symm
  case owned =>
    intro other wrapper' found counted'
    rw [equal] at found
    rcases Store.recounted_cases found with ⟨rfl, rfl⟩ | found
    · rw [← isKind]
      exact List.mem_cons_self
    · exact since.owned number other wrapper' found counted'
  case kept => exact fun token member _ => member

/-- A wrapper in custody is released, and ends. -/
theorem released {kind : ObjectKind} {id : Nat}
    (since : Since start none (⟨number, kind, id⟩ :: tokens) host)
    (reached : number ∈ start.simulators.keys)
    (counted : call.counted? = some (.release, kind, id)) :
    Since start none tokens
      (host.advance number ((host.simulator number).after (.call call))) := by
  have accepts := since.accepts List.mem_cons_self counted rfl
  obtain ⟨wrapper, known, isKind, equal⟩ := Simulator.after_release accepts counted
  obtain ⟨unlisted, nodup⟩ := List.nodup_cons.mp since.nodup
  apply since.advance reached accepts nodup
  case own =>
    intro token member isOwn
    obtain ⟨wrapper', found, isKind', refs⟩ := since.live token (List.mem_cons_of_mem _ member)
    rw [isOwn] at found
    rw [Simulator.Counts, equal, Store.wrappers_discarded, Ledger.get?_erase]
    refine ⟨wrapper', (if_neg ?_).trans found, isKind', refs⟩
    intro same
    rw [← same] at found
    obtain rfl := Option.some.inj (known.symm.trans found)
    apply unlisted
    rw [← isKind, isKind', same, ← isOwn]
    exact member
  case other => exact fun token member _ => ⟨List.mem_cons_of_mem _ member, rfl⟩
  case owned =>
    intro other wrapper' found counted'
    rw [equal, Store.wrappers_discarded, Ledger.get?_erase] at found
    split at found
    · contradiction
    · rename_i different
      rcases List.mem_cons.mp (since.owned number other wrapper' found counted') with same | member
      · exact absurd (congrArg Token.id same).symm different
      · exact member
  case kept =>
    intro token member isOther
    rcases List.mem_cons.mp member with rfl | member
    · exact absurd rfl isOther
    · exact member

/-- The backend of a wrapper in custody was there from the start. -/
theorem reached (since : Since start fresh tokens host) {token : Token} (member : token ∈ tokens) :
    token.simulator ∈ start.simulators.keys := by
  rw [← since.keys, ← Ledger.contains_iff_mem_keys, Ledger.contains]
  exact Option.isSome_iff_ne_none.mpr (since.toHolds.known member)

end Since

/-! ## Calls on behalf of imports -/

section Calls

variable {α : Type} {tokens : List Token} {kind : ObjectKind} {provider : Provider}

/-- Where a call ends, whether it works or not. -/
theorem ends_isCall {table : Table} {step : Native α} {call : Call} {holds : Host → Prop}
    (isCall : IsCall step call)
    (kept : holds (host.advance table.simulator
      ((host.simulator table.simulator).after (.call call)))) :
    Ends (table.call step) host (fun _ => holds) (fun _ => holds) := by
  rw [ends_stateAfter, stateAfter_call, isCall]
  exact kept

/-- The entry points that drop a reference to a wrapper. -/
theorem Since.release {handle : Handle kind} {release : Handle kind → Native Unit} {call : Call}
    (since : Since start none (provider.token handle :: tokens) host)
    (isCall : IsCall (release handle) call)
    (counted : call.counted? = some (.release, kind, handle.id)) :
    Ends (provider.table.call (release handle)) host
      (fun _ after => Since start none tokens after)
      (fun _ after => Since start none tokens after) :=
  ends_isCall isCall (Since.released since (since.reached List.mem_cons_self) counted)

/-- An entry point that makes a counted wrapper. -/
theorem Since.create {table : Table} {create : Native (Handle kind)} {call : Call} {needs : Bool}
    (since : Since start none tokens host) (isReached : table.simulator ∈ start.simulators.keys)
    (isCall : IsCall create call) (uncounted : call.counted? = none)
    (answers : Simulator.Answers call create (host.simulator table.simulator)
      (fun handle store => (host.simulator table.simulator).store.Adds kind
        (if needs then 0 else 1) handle.id store)
      (fun _ store => store = (host.simulator table.simulator).store)) :
    Ends (table.call create) host
      (fun handle after => Since start
        (if needs then some ⟨table.simulator, kind, handle.id⟩ else none)
        (⟨table.simulator, kind, handle.id⟩ :: tokens) after)
      (fun _ after => Since start none tokens after) := by
  have ended := Ends.and answers (ends_same create (host.simulator table.simulator))
  rw [isCall] at ended
  rw [ends_call]
  apply ended.imp
  · rintro handle after ⟨⟨-, -, added⟩, rfl⟩
    apply since.adds isReached uncounted added
    · cases needs
      · exact Or.inl rfl
      · exact Or.inr rfl
    · cases needs
      · rfl
      · exact (if_pos rfl).symm
  · rintro e after ⟨⟨-, cause⟩, rfl⟩
    have unchanged : ((host.simulator table.simulator).after (.call call)).store =
        (host.simulator table.simulator).store := by
      rcases cause with ⟨-, unchanged⟩ | ⟨-, unchanged⟩ <;> exact unchanged
    apply since.of_still isReached uncounted
    intro id wrapper found _
    rw [unchanged] at found
    exact found

/-- The importer's own reference is taken where the backend has taken none. -/
theorem Since.takeReference {handle : Handle kind} {retain release : Handle kind → Native Unit}
    {call : Call}
    (since : Since start (if provider.demands.needsRetain then some (provider.token handle) else none)
      (provider.token handle :: tokens) host)
    (isCall : Simulator.answer call = do retain handle; return .done)
    (counted : call.counted? = some (.retain, kind, handle.id)) :
    Ends (takeReferenceIfNeeded provider handle retain release) host
      (fun _ after => Since start none (provider.token handle :: tokens) after)
      (fun _ _ => False) := by
  unfold takeReferenceIfNeeded
  cases needs : provider.demands.needsRetain with
  | false =>
      rw [needs] at since
      exact since
  | true =>
      rw [needs, if_pos rfl] at since
      rw [if_pos rfl]
      unfold ComputeImport.takeReference
      rw [ends_bind, ends_attempt]
      have accepts : (host.simulator provider.table.simulator).Accepts (.call call) :=
        since.accepts List.mem_cons_self counted (if_pos rfl)
      have succeeds : Ends (retain handle) (host.simulator provider.table.simulator)
          (fun _ _ => True) (fun _ _ => False) := by
        have answers := Simulator.ends_accepted_retain accepts counted
        rw [isCall, ends_bind] at answers
        exact answers.imp (fun _ _ _ => trivial) fun _ _ never => never
      have taken := ends_isCall (.of_done call isCall)
        (Since.retained since (since.reached List.mem_cons_self) counted)
      apply Ends.imp (Ends.and taken succeeds.call)
      · exact fun _ _ ended => ended.1
      · exact fun _ _ ended => ended.2.elim

/-! ## Letting go -/

/-- A reference to a program is released. -/
theorem Since.releaseProgram {program : ProgramRef}
    (since : Since start none (program.token :: tokens) host) :
    Since start none tokens (program.release host) := by
  have isCall : IsCall (Simulator.programRelease program.handle) _ :=
    .of_done (.programRelease program.handle) rfl
  have released := Since.release since isCall rfl
  unfold ProgramRef.release
  unfold Ends at released
  cases ended : program.provider.table.call (Simulator.programRelease program.handle) host with
  | ok _ after =>
      rw [ended] at released
      exact released.notify _
  | error e after =>
      rw [ended] at released
      exact released.notify _

theorem Since.releasePrograms {programs : List ProgramRef}
    (since : Since start none (programs.map ProgramRef.token ++ tokens) host) :
    Since start none tokens (ComputeImport.releasePrograms programs host) := by
  induction programs generalizing host with
  | nil => exact since
  | cons program programs ih => exact ih since.releaseProgram

/-- A release at the end of an object, where nobody is left to hear of a failure. -/
theorem Since.releaseWith {handle : Handle kind} {release : Handle kind → Native Unit} {call : Call}
    (since : Since start none (provider.token handle :: tokens) host)
    (isCall : IsCall (release handle) call)
    (counted : call.counted? = some (.release, kind, handle.id)) :
    Since start none tokens (Host.releaseWith provider handle release host) := by
  have released := Since.release since isCall counted
  unfold Host.releaseWith
  unfold Ends at released
  cases ended : provider.table.call (release handle) host with
  | ok _ after =>
      rw [ended] at released
      exact released
  | error e after =>
      rw [ended] at released
      exact released.notify _

/-- An owner that ends releases what it holds. -/
theorem Since.releaseOwner {owner : Owner}
    (since : Since start none (owner.tokens ++ tokens) host) :
    Since start none tokens (owner.release host) := by
  cases owner with
  | context ended => exact since.releaseWith (.of_done (.contextRelease ended.handle) rfl) rfl
  | queue ended => exact since.releaseWith (.of_done (.queueRelease ended.handle) rfl) rfl
  | event ended => exact since.releaseWith (.of_done (.eventRelease ended.handle) rfl) rfl
  | kernel ended => exact since.releaseWith (.of_done (.kernelRelease ended.handle) rfl) rfl
  | image ended => exact Since.releasePrograms since

theorem Since.releaseOwners {owners : List Owner}
    (since : Since start none (owners.flatMap Owner.tokens ++ tokens) host) :
    Since start none tokens (owners.foldl (fun host owner => owner.release host) host) := by
  induction owners generalizing host with
  | nil => exact since
  | cons owner owners ih =>
      apply ih
      apply Since.releaseOwner
      rw [← List.append_assoc]
      exact since

/-- The owners that end with a value are those that only the value leads to. -/
theorem tokensOf_append (owners others : List Owner) :
    tokensOf (owners ++ others) =
      (lastOccurrences (owners.filter fun owner => owner ∉ others)).flatMap Owner.tokens ++
        tokensOf others := by
  rw [tokensOf, lastOccurrences_append, List.flatMap_append]
  rfl

/-- When a value is let go, what only the value leads to is released. -/
theorem Since.letGo {value : Managed}
    (since : Since start none
      (tokensOf (value.owners ++ host.held.values.flatMap Managed.owners)) host) :
    Since start none (tokensOf (host.held.values.flatMap Managed.owners)) (host.letGo value) := by
  rw [tokensOf_append] at since
  exact since.releaseOwners

end Calls

end Host

end ComputeImport
