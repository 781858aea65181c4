import ComputeImport.Proofs.Import.Program
import ComputeImport.Proofs.Store.Frame

/-!
# One import at two stores

The same program is imported at two stores, of which the second one has given out more numbers of
native objects already.  What the import sees and makes is alike in both: the same platforms and
devices are there, and the program and all native objects that come from it are found at the second
store under their names there.  `Relates` says so of the stores, `Holds` of the wrappers that have
been made on the way, and each step that an import takes at both stores keeps it.
-/

namespace ComputeImport

namespace Store

variable {store after : Store} {handle native : NativeHandle} {data : NativeData}

/-- A live native object with some data. -/
def Shows (store : Store) (handle : NativeHandle) (data : NativeData) : Prop :=
  ∃ refs, store.natives.get? handle = some ⟨data, refs⟩

theorem hasNative_iff_shows {kind : ObjectKind} :
    store.HasNative kind handle ↔ ∃ data, data.kind = kind ∧ store.Shows handle data := by
  constructor
  · rintro ⟨⟨data, refs⟩, found, isKind⟩
    exact ⟨data, isKind, refs, found⟩
  · rintro ⟨data, isKind, refs, found⟩
    exact ⟨⟨data, refs⟩, found, isKind⟩

/-- The platforms and devices are the same. -/
def SameGround (store after : Store) : Prop :=
  ∀ handle data, data.kind = .platform ∨ data.kind = .device →
    (store.Shows handle data ↔ after.Shows handle data)

namespace SameGround

theorem symm (same : store.SameGround after) : after.SameGround store :=
  fun handle data ground => (same handle data ground).symm

theorem trans {middle : Store} (first : store.SameGround middle)
    (second : middle.SameGround after) : store.SameGround after :=
  fun handle data ground => (first handle data ground).trans (second handle data ground)

/-- Neither store has changed its ground. -/
theorem later {store' after' : Store} (same : store.SameGround store')
    (kept : store.SameGround after) (kept' : store'.SameGround after') : after.SameGround after' :=
  (kept.symm.trans same).trans kept'

theorem of_natives (same : after.natives = store.natives) : store.SameGround after := by
  intro handle data _
  rw [Shows, Shows, same]

/-- A change to a native program leaves the platforms and devices alone. -/
theorem of_program (native : NativeHandle)
    (others : ∀ other, other ≠ native → store.SameNative other after)
    (before : ∀ object, store.natives.get? native = some object → object.data.kind = .program)
    (later : ∀ object, after.natives.get? native = some object → object.data.kind = .program) :
    store.SameGround after := by
  intro handle data ground
  by_cases isNative : handle = native
  · subst isNative
    have other : data.kind ≠ .program := by
      rintro isProgram
      rw [isProgram] at ground
      exact ground.elim (fun isPlatform => nomatch isPlatform) fun isDevice => nomatch isDevice
    constructor
    · rintro ⟨refs, found⟩
      exact absurd (before _ found) other
    · rintro ⟨refs, found⟩
      exact absurd (later _ found) other
  · rw [Shows, Shows, others handle isNative]

theorem hasNative (same : store.SameGround after) {kind : ObjectKind}
    (ground : kind = .platform ∨ kind = .device) :
    store.HasNative kind handle ↔ after.HasNative kind handle := by
  rw [hasNative_iff_shows, hasNative_iff_shows]
  refine exists_congr fun data => and_congr_right fun isKind => ?_
  exact same handle data (isKind.symm ▸ ground)

end SameGround

theorem HasWrapper.mono {kind : ObjectKind} {handle : Handle kind}
    (live : store.HasWrapper handle)
    (kept : ∀ id wrapper, store.wrappers.get? id = some wrapper →
      after.wrappers.get? id = some wrapper) : after.HasWrapper handle :=
  live.imp fun _ found => ⟨kept _ _ found.1, found.2⟩

/-- A number that has not been given out names no native object. -/
theorem WellFormed.dead_of_le (formed : store.WellFormed) (above : store.nextNative ≤ native.raw) :
    store.natives.get? native = none := by
  refine Option.eq_none_iff_forall_ne_some.mpr fun object found => ?_
  exact absurd above (Nat.not_le.mpr (formed.native_lt native object found))

theorem get?_natives_joined (store : Store) (output : ProgramBinary) (handle : NativeHandle) :
    (store.joined output).natives.get? handle =
      if ⟨store.nextNative⟩ = handle then some ⟨.program output, 1⟩
      else store.natives.get? handle :=
  Ledger.get?_set ..

theorem get?_wrappers_joined (store : Store) (output : ProgramBinary) :
    (store.joined output).wrappers.get? store.nextWrapper =
      some ⟨.program, ⟨store.nextNative⟩, 1, true⟩ :=
  (Ledger.get?_set ..).trans (if_pos rfl)

theorem SameGround.joined (formed : store.WellFormed) (output : ProgramBinary) :
    store.SameGround (store.joined output) := by
  refine .of_program ⟨store.nextNative⟩ ?_ ?_ ?_
  · exact fun other isOther =>
      (get?_natives_joined store output other).trans (if_neg (Ne.symm isOther))
  · rw [formed.dead_of_le (Nat.le_refl _)]
    exact fun object found => nomatch found
  · rw [get?_natives_joined, if_pos rfl]
    rintro object ⟨⟩
    rfl

/-- What is left of a native object that has lost a reference. -/
theorem get?_dropped_self (store : Store) (native : NativeHandle) :
    (store.dropped native).natives.get? native =
      (store.natives.get? native).bind fun object =>
        if object.refs ≤ 1 then none else some { object with refs := object.refs - 1 } := by
  unfold Store.dropped
  cases found : store.natives.get? native with
  | none => exact found
  | some object =>
      rw [Option.bind_some]
      dsimp only
      split
      · exact (Ledger.get?_erase ..).trans (if_pos rfl)
      · exact (Ledger.get?_set ..).trans (if_pos rfl)

/-- Wrapping platforms and devices gives out no number of a native object. -/
theorem Quiet.nextNative_eq (quiet : store.Quiet after) (formed : store.WellFormed) :
    after.nextNative = store.nextNative := by
  have spawns := quiet.grows.spawns formed
  refine Nat.le_antisymm (Nat.not_lt.mp fun more => ?_) spawns.bound
  have live := spawns.named ⟨store.nextNative⟩ (Nat.le_refl _) more
  rw [quiet.natives, ← Option.isSome_iff_ne_none, Option.isSome_iff_exists] at live
  obtain ⟨object, found⟩ := live
  exact Nat.lt_irrefl _ (formed.native_lt _ object found)

/-- Two wrappers, one at each store, of the same native device. -/
def SameDevice (store store' : Store) (device device' : DeviceHandle) : Prop :=
  ∃ native, store.deviceWrappers.get? native = some device ∧
    store'.deviceWrappers.get? native = some device'

/-- The store after a reference to a wrapper has been dropped, if the wrapper has one. -/
def returned (store : Store) (id : Nat) (wrapper : Wrapper) : Store :=
  match wrapper.refs with
  | 0 => store
  | 1 => store.discarded id wrapper
  | rest + 2 => store.recounted id { wrapper with refs := rest + 1 }

theorem Released.eq_returned {id : Nat} {wrapper : Wrapper}
    (released : store.Released id wrapper after) : after = store.returned id wrapper := by
  unfold returned
  cases released with
  | last one => rw [one]
  | another more => rw [more]

end Store

/-- The import of a program at two stores. -/
structure Relocation where
  native : NativeHandle
  /-- The number of the next native object at the first store, when the import starts. -/
  first : Nat
  /-- How many more numbers the second store has given out by then. -/
  gap : Nat
  below : native.raw < first

namespace Relocation

variable {relocation : Relocation} {store store' after after' : Store}
  {handle native : NativeHandle} {own own' : ProgramHandle} {held held' : List ProgramHandle}

/-! ## Names at the second store -/

/-- The name at the second store of a native object: those that have come with the import have other
numbers there. -/
def rename (relocation : Relocation) (handle : NativeHandle) : NativeHandle :=
  if handle.raw < relocation.first then handle else ⟨handle.raw + relocation.gap⟩

/-- The imported program and the native objects that have come since. -/
def Concerns (relocation : Relocation) (handle : NativeHandle) : Prop :=
  handle = relocation.native ∨ relocation.first ≤ handle.raw

theorem concerns_native (relocation : Relocation) : relocation.Concerns relocation.native :=
  Or.inl rfl

theorem rename_native (relocation : Relocation) :
    relocation.rename relocation.native = relocation.native :=
  if_pos relocation.below

theorem rename_of_le (new : relocation.first ≤ handle.raw) :
    relocation.rename handle = ⟨handle.raw + relocation.gap⟩ :=
  if_neg (Nat.not_lt.mpr new)

theorem rename_injective (relocation : Relocation) :
    Function.Injective relocation.rename := by
  rintro ⟨one⟩ ⟨other⟩ equal
  unfold rename at equal
  rw [NativeHandle.mk.injEq]
  dsimp only at equal
  split at equal <;> split at equal <;> rw [NativeHandle.mk.injEq] at equal <;> omega

/-! ## Related stores -/

/-- What an import sees and has made is alike at two stores. -/
structure Relates (relocation : Relocation) (store store' : Store) : Prop where
  formed : store.WellFormed
  formed' : store'.WellFormed
  ground : store.SameGround store'
  natives : ∀ handle, relocation.Concerns handle →
    store'.natives.get? (relocation.rename handle) = store.natives.get? handle
  first_le : relocation.first ≤ store.nextNative
  next : store'.nextNative = store.nextNative + relocation.gap

/-- Two wrappers, one at each store, of a program that the import has to do with. -/
def Twins (relocation : Relocation) (store store' : Store) (own own' : ProgramHandle) : Prop :=
  ∃ wrapper, store.wrappers.get? own.id = some wrapper ∧ wrapper.data = .program ∧
    relocation.Concerns wrapper.native ∧
    store'.wrappers.get? own'.id =
      some { wrapper with native := relocation.rename wrapper.native }

/-- The wrappers that the import has made are alike at two stores. -/
structure Holds (relocation : Relocation) (held held' : List ProgramHandle)
    (store store' : Store) : Prop extends relocation.Relates store store' where
  twins : List.Forall₂ (relocation.Twins store store') held held'
  nodup : held.Nodup
  nodup' : held'.Nodup

/-- An import that goes on at two stores: its programs are live, and so is its context. -/
structure Underway (relocation : Relocation) (context : ContextHandle)
    (held held' : List ProgramHandle) (store store' : Store) : Prop
    extends relocation.Holds held held' store store' where
  leads : ∀ own ∈ held, ∃ native binary, store.Leads own native binary
  inContext : store.HasWrapper context
  inContext' : store'.HasWrapper context

theorem Relates.imported (relates : relocation.Relates store store') :
    store'.natives.get? relocation.native = store.natives.get? relocation.native := by
  have same := relates.natives relocation.native relocation.concerns_native
  rwa [relocation.rename_native] at same

/-- Twins lead to the same program, under its name at either store. -/
theorem Twins.leads (twins : relocation.Twins store store' own own')
    (relates : relocation.Relates store store') {binary : ProgramBinary}
    (leads : store.Leads own native binary) :
    relocation.Concerns native ∧ store'.Leads own' (relocation.rename native) binary := by
  obtain ⟨wrapper, found, isProgram, concerns, found'⟩ := twins
  obtain ⟨⟨_, known, _, rfl⟩, refs, live⟩ := leads
  obtain rfl := Option.some.inj (found.symm.trans known)
  refine ⟨concerns, ⟨_, found', congrArg WrapperData.kind isProgram, rfl⟩, refs, ?_⟩
  rw [relates.natives wrapper.native concerns]
  exact live

theorem Twins.of_wrappers (twins : relocation.Twins store store' own own')
    (kept : ∀ wrapper, store.wrappers.get? own.id = some wrapper →
      after.wrappers.get? own.id = some wrapper)
    (kept' : ∀ wrapper, store'.wrappers.get? own'.id = some wrapper →
      after'.wrappers.get? own'.id = some wrapper) : relocation.Twins after after' own own' := by
  obtain ⟨wrapper, found, isProgram, concerns, found'⟩ := twins
  exact ⟨wrapper, kept wrapper found, isProgram, concerns, kept' _ found'⟩

/-! ## What steps at both stores keep -/

/-- Stores stay related where no native object changes. -/
theorem Relates.of_natives (relates : relocation.Relates store store')
    (formed : after.WellFormed) (formed' : after'.WellFormed)
    (natives : after.natives = store.natives) (natives' : after'.natives = store'.natives)
    (next : after.nextNative = store.nextNative) (next' : after'.nextNative = store'.nextNative) :
    relocation.Relates after after' := by
  constructor
  case formed => exact formed
  case formed' => exact formed'
  case ground =>
    exact relates.ground.later (.of_natives natives) (.of_natives natives')
  case natives =>
    rw [natives, natives']
    exact relates.natives
  case first_le =>
    rw [next]
    exact relates.first_le
  case next =>
    rw [next, next']
    exact relates.next

theorem Relates.quiet (relates : relocation.Relates store store') (quiet : store.Quiet after)
    (quiet' : store'.Quiet after') : relocation.Relates after after' :=
  relates.of_natives (quiet.grows.wellFormed relates.formed)
    (quiet'.grows.wellFormed relates.formed') quiet.natives quiet'.natives
    (quiet.nextNative_eq relates.formed) (quiet'.nextNative_eq relates.formed')

/-- Stores stay related where a program that the import has to do with changes in the same way. -/
theorem Relates.of_program (relates : relocation.Relates store store')
    (formed : after.WellFormed) (formed' : after'.WellFormed)
    (concerns : relocation.Concerns native)
    (others : ∀ other, other ≠ native → store.SameNative other after)
    (others' : ∀ other, other ≠ relocation.rename native → store'.SameNative other after')
    (same : after'.natives.get? (relocation.rename native) = after.natives.get? native)
    (before : ∀ object, store.natives.get? native = some object → object.data.kind = .program)
    (later : ∀ object, after.natives.get? native = some object → object.data.kind = .program)
    (next : after.nextNative = store.nextNative) (next' : after'.nextNative = store'.nextNative) :
    relocation.Relates after after' := by
  constructor
  case formed => exact formed
  case formed' => exact formed'
  case ground =>
    refine relates.ground.later (.of_program native others before later)
      (.of_program _ others' ?_ ?_)
    · rw [relates.natives native concerns]
      exact before
    · rw [same]
      exact later
  case natives =>
    intro handle concerned
    by_cases isNative : handle = native
    · rw [isNative]
      exact same
    · have isOther : relocation.rename handle ≠ relocation.rename native :=
        fun equal => isNative (relocation.rename_injective equal)
      rw [others' _ isOther, others handle isNative]
      exact relates.natives handle concerned
  case first_le =>
    rw [next]
    exact relates.first_le
  case next =>
    rw [next, next']
    exact relates.next

/-- A program that the import has to do with is taken further. -/
theorem Relates.reprogrammed (relates : relocation.Relates store store')
    {old new : ProgramBinary} {refs : Nat} (concerns : relocation.Concerns native)
    (found : store.natives.get? native = some ⟨.program old, refs⟩)
    (formed : (store.reprogrammed native new).WellFormed)
    (formed' : (store'.reprogrammed (relocation.rename native) new).WellFormed) :
    relocation.Relates (store.reprogrammed native new)
      (store'.reprogrammed (relocation.rename native) new) := by
  have found' : store'.natives.get? (relocation.rename native) = some ⟨.program old, refs⟩ := by
    rw [relates.natives native concerns]
    exact found
  have becomes : (store.reprogrammed native new).natives.get? native =
      some ⟨.program new, refs⟩ := (Store.get?_reprogrammed found).trans (if_pos rfl)
  apply relates.of_program formed formed' concerns
  case others =>
    exact fun other isOther => (Store.get?_reprogrammed found).trans (if_neg (Ne.symm isOther))
  case others' =>
    exact fun other isOther => (Store.get?_reprogrammed found').trans (if_neg (Ne.symm isOther))
  case same =>
    rw [becomes]
    exact (Store.get?_reprogrammed found').trans (if_pos rfl)
  case before =>
    intro object live
    obtain rfl := Option.some.inj (found.symm.trans live)
    rfl
  case later =>
    intro object live
    obtain rfl := Option.some.inj (becomes.symm.trans live)
    rfl
  case next => exact Store.nextNative_reprogrammed ..
  case next' => exact Store.nextNative_reprogrammed ..

/-- The next native object at the first store will be the next one at the second store. -/
theorem Relates.rename_next (relates : relocation.Relates store store') :
    relocation.rename ⟨store.nextNative⟩ = ⟨store'.nextNative⟩ := by
  rw [rename_of_le relates.first_le, relates.next]

/-- A program of the same binary comes to both stores. -/
theorem Relates.joined (relates : relocation.Relates store store') {output : ProgramBinary}
    (tidy : output.IsTidy) : relocation.Relates (store.joined output) (store'.joined output) := by
  have grows : ∀ store : Store, store.Grows (fun _ => True) (store.joined output) :=
    fun store => Store.grows_joined tidy trivial
  constructor
  case formed => exact (grows store).wellFormed relates.formed
  case formed' => exact (grows store').wellFormed relates.formed'
  case ground =>
    exact relates.ground.later (.joined relates.formed output) (.joined relates.formed' output)
  case natives =>
    intro handle concerned
    rw [Store.get?_natives_joined, Store.get?_natives_joined, ← relates.rename_next]
    by_cases isNew : ⟨store.nextNative⟩ = handle
    · rw [if_pos isNew, if_pos (congrArg relocation.rename isNew)]
    · rw [if_neg isNew, if_neg fun equal => isNew (relocation.rename_injective equal)]
      exact relates.natives handle concerned
  case first_le => exact Nat.le_succ_of_le relates.first_le
  case next =>
    change store'.nextNative + 1 = store.nextNative + 1 + relocation.gap
    rw [relates.next]
    omega

theorem Holds.of_relates (holds : relocation.Holds held held' store store')
    (relates : relocation.Relates after after')
    (kept : ∀ id wrapper, store.wrappers.get? id = some wrapper →
      after.wrappers.get? id = some wrapper)
    (kept' : ∀ id wrapper, store'.wrappers.get? id = some wrapper →
      after'.wrappers.get? id = some wrapper) : relocation.Holds held held' after after' :=
  ⟨relates, holds.twins.imp fun own own' twins =>
    twins.of_wrappers (fun wrapper => kept own.id wrapper) fun wrapper => kept' own'.id wrapper,
    holds.nodup, holds.nodup'⟩

/-- The wrapper that has been made last may be listed first. -/
theorem Holds.rotate (holds : relocation.Holds (held ++ [own]) (held' ++ [own']) store store') :
    relocation.Holds (own :: held) (own' :: held') store store' := by
  have twins := List.forall₂_reverse_iff.mpr holds.twins
  rw [List.reverse_append, List.reverse_append] at twins
  obtain ⟨last, rest⟩ := List.forall₂_cons.mp twins
  refine ⟨holds.toRelates, .cons last (List.forall₂_reverse_iff.mp rest), ?_, ?_⟩
  · exact (List.perm_append_singleton own held).nodup_iff.mp holds.nodup
  · exact (List.perm_append_singleton own' held').nodup_iff.mp holds.nodup'

/-- The wrappers at the second store are there. -/
theorem Holds.known' (holds : relocation.Holds held held' store store') :
    ∀ own' ∈ held', ∃ wrapper, store'.wrappers.get? own'.id = some wrapper := by
  have known : List.Forall₂ (fun own' own =>
      (∃ wrapper, store'.wrappers.get? own'.id = some wrapper) ∧
        relocation.Twins store store' own own') held' held :=
    holds.twins.flip.imp fun own' own twins =>
      ⟨twins.elim fun wrapper found => ⟨_, found.2.2.2⟩, twins⟩
  exact ((List.forall₂_and_left ..).mp known).1

section Underway

variable {context : ContextHandle} {output : ProgramBinary}

/-- The import starts with one wrapper of its program. -/
theorem Relates.wrapped (relates : relocation.Relates store store')
    (live : store.HasNative .program relocation.native) (inContext : store.HasWrapper context)
    (inContext' : store'.HasWrapper context) (ownsNative : Bool) (refs : Nat) :
    relocation.Underway context [⟨store.nextWrapper⟩] [⟨store'.nextWrapper⟩]
      (store.wrapped .program relocation.native ownsNative refs)
      (store'.wrapped .program relocation.native ownsNative refs) := by
  have live' : store'.HasNative .program relocation.native := by
    rw [Store.HasNative, relates.imported]
    exact live
  have growth : ∀ {store : Store}, store.HasNative .program relocation.native →
      store.Growth (fun _ => True) (store.wrapped .program relocation.native ownsNative refs) := by
    intro store live
    refine .wrapped ownsNative refs trivial ⟨by decide, by decide⟩ live ?_
    intro record isQueue
    contradiction
  have formed := relates.formed
  have formed' := relates.formed'
  have made : ∀ store : Store,
      (store.wrapped .program relocation.native ownsNative refs).wrappers.get? store.nextWrapper =
        some ⟨.program, relocation.native, refs, ownsNative⟩ :=
    fun store => (Ledger.get?_set ..).trans (if_pos rfl)
  constructor
  case toHolds =>
    constructor
    case toRelates =>
      exact relates.of_natives ((growth live).wellFormed formed) ((growth live').wellFormed formed')
        rfl rfl rfl rfl
    case twins =>
      refine .cons ⟨_, made store, rfl, relocation.concerns_native, ?_⟩ .nil
      rw [made store', relocation.rename_native]
    case nodup => exact List.pairwise_singleton ..
    case nodup' => exact List.pairwise_singleton ..
  case leads =>
    intro own member
    obtain rfl := List.mem_singleton.mp member
    obtain ⟨⟨data, count⟩, found, isProgram⟩ := live
    cases data with
    | program binary =>
        exact ⟨relocation.native, binary, ⟨_, made store, rfl, rfl⟩, count, found⟩
    | _ => contradiction
  case inContext => exact inContext.mono fun _ _ => (growth live).get?_wrappers formed
  case inContext' => exact inContext'.mono fun _ _ => (growth live').get?_wrappers formed'

namespace Underway

/-- Wrapping platforms and devices disturbs nothing. -/
theorem quiet (underway : relocation.Underway context held held' store store')
    (quiet : store.Quiet after) (quiet' : store'.Quiet after') :
    relocation.Underway context held held' after after' := by
  have formed := underway.formed
  have formed' := underway.formed'
  have kept : ∀ id wrapper, store.wrappers.get? id = some wrapper →
      after.wrappers.get? id = some wrapper := fun _ _ => quiet.grows.get?_wrappers formed
  have kept' : ∀ id wrapper, store'.wrappers.get? id = some wrapper →
      after'.wrappers.get? id = some wrapper := fun _ _ => quiet'.grows.get?_wrappers formed'
  constructor
  case toHolds =>
    exact underway.of_relates (underway.toRelates.quiet quiet quiet') kept kept'
  case leads =>
    intro own member
    obtain ⟨native, binary, leads⟩ := underway.leads own member
    exact ⟨native, binary, leads.quiet quiet formed⟩
  case inContext => exact underway.inContext.mono kept
  case inContext' => exact underway.inContext'.mono kept'

/-- One program of the import is taken further. -/
theorem reprogrammed (underway : relocation.Underway context held held' store store')
    {old new : ProgramBinary} {refs : Nat} (concerns : relocation.Concerns native)
    (found : store.natives.get? native = some ⟨.program old, refs⟩)
    (formed : (store.reprogrammed native new).WellFormed)
    (formed' : (store'.reprogrammed (relocation.rename native) new).WellFormed) :
    relocation.Underway context held held' (store.reprogrammed native new)
      (store'.reprogrammed (relocation.rename native) new) := by
  have relates := underway.toRelates.reprogrammed concerns found formed formed'
  have becomes : (store.reprogrammed native new).natives.get? native =
      some ⟨.program new, refs⟩ := (Store.get?_reprogrammed found).trans (if_pos rfl)
  constructor
  case toHolds =>
    apply underway.of_relates relates
    · intro id wrapper live
      rw [Store.wrappers_reprogrammed]
      exact live
    · intro id wrapper live
      rw [Store.wrappers_reprogrammed]
      exact live
  case leads =>
    intro own member
    obtain ⟨other, binary, behind, count, live⟩ := underway.leads own member
    rw [Store.Behind, ← Store.wrappers_reprogrammed store native new] at behind
    by_cases isNative : native = other
    · subst isNative
      exact ⟨native, new, behind, refs, becomes⟩
    · refine ⟨other, binary, behind, count, ?_⟩
      rw [Store.get?_reprogrammed found, if_neg isNative]
      exact live
  case inContext =>
    rw [Store.HasWrapper, Store.wrappers_reprogrammed]
    exact underway.inContext
  case inContext' =>
    rw [Store.HasWrapper, Store.wrappers_reprogrammed]
    exact underway.inContext'

/-- A link brings a program of the same binary at both stores. -/
theorem joined (underway : relocation.Underway context held held' store store')
    (tidy : output.IsTidy) :
    relocation.Underway context (held ++ [⟨store.nextWrapper⟩]) (held' ++ [⟨store'.nextWrapper⟩])
      (store.joined output) (store'.joined output) := by
  have formed := underway.formed
  have formed' := underway.formed'
  have relates := underway.toRelates.joined tidy
  have kept : ∀ {store : Store}, store.WellFormed → ∀ id wrapper,
      store.wrappers.get? id = some wrapper →
      (store.joined output).wrappers.get? id = some wrapper := by
    intro store formed id wrapper
    have grows : store.Grows (fun _ => True) (store.joined output) :=
      Store.grows_joined tidy trivial
    exact grows.get?_wrappers formed
  have holds := underway.of_relates relates (kept formed) (kept formed')
  constructor
  case toHolds =>
    constructor
    case toRelates => exact relates
    case twins =>
      refine List.rel_append holds.twins
        (.cons ⟨_, Store.get?_wrappers_joined store output, rfl, ?_, ?_⟩ .nil)
      · exact Or.inr underway.first_le
      · rw [Store.get?_wrappers_joined, underway.rename_next]
    case nodup =>
      refine (List.perm_append_singleton ..).nodup_iff.mpr
        (List.nodup_cons.mpr ⟨?_, underway.nodup⟩)
      intro member
      obtain ⟨_, _, ⟨wrapper, found, _⟩, _⟩ := underway.leads _ member
      exact Nat.lt_irrefl _ (formed.wrapper_lt _ wrapper found)
    case nodup' =>
      refine (List.perm_append_singleton ..).nodup_iff.mpr
        (List.nodup_cons.mpr ⟨?_, underway.nodup'⟩)
      intro member
      obtain ⟨wrapper, found⟩ := underway.known' _ member
      exact Nat.lt_irrefl _ (formed'.wrapper_lt _ wrapper found)
  case leads =>
    intro own member
    rcases List.mem_append.mp member with member | isNew
    · obtain ⟨native, binary, ⟨wrapper, found, known⟩, refs, live⟩ := underway.leads own member
      refine ⟨native, binary, ⟨wrapper, kept formed _ _ found, known⟩, refs, ?_⟩
      rw [Store.get?_joined (formed.native_lt native _ live)]
      exact live
    · obtain rfl := List.mem_singleton.mp isNew
      exact ⟨_, output, Store.leads_joined output⟩
  case inContext => exact underway.inContext.mono (kept formed)
  case inContext' => exact underway.inContext'.mono (kept formed')

/-- The import takes a reference of its own to its wrapper. -/
theorem retained (underway : relocation.Underway context [own] [own'] store store')
    {wrapper wrapper' : Wrapper} (found : store.wrappers.get? own.id = some wrapper)
    (found' : store'.wrappers.get? own'.id = some wrapper') :
    relocation.Underway context [own] [own']
      (store.recounted own.id { wrapper with refs := wrapper.refs + 1 })
      (store'.recounted own'.id { wrapper' with refs := wrapper'.refs + 1 }) := by
  obtain ⟨⟨known, hasKnown, isProgram, concerns, hasKnown'⟩, -⟩ :=
    List.forall₂_cons.mp underway.twins
  obtain rfl := Option.some.inj (found.symm.trans hasKnown)
  obtain rfl := Option.some.inj (found'.symm.trans hasKnown')
  have ordinary : wrapper.data.kind ≠ .platform ∧ wrapper.data.kind ≠ .device := by
    rw [isProgram]
    exact ⟨nofun, nofun⟩
  have recounts : store.Recounts
      (store.recounted own.id { wrapper with refs := wrapper.refs + 1 }) :=
    .of_recounted found ordinary
  have recounts' : store'.Recounts (store'.recounted own'.id
      { wrapper with native := relocation.rename wrapper.native, refs := wrapper.refs + 1 }) :=
    .of_recounted found' ordinary
  constructor
  case toHolds =>
    constructor
    case toRelates =>
      exact underway.of_natives (recounts.wellFormed underway.formed)
        (recounts'.wellFormed underway.formed') rfl rfl rfl rfl
    case twins =>
      refine .cons ⟨_, (Ledger.get?_set ..).trans (if_pos rfl), isProgram, concerns, ?_⟩ .nil
      exact (Ledger.get?_set ..).trans (if_pos rfl)
    case nodup => exact underway.nodup
    case nodup' => exact underway.nodup'
  case leads =>
    intro own member
    obtain ⟨native, binary, leads⟩ := underway.leads own member
    exact ⟨native, binary, recounts.leads leads⟩
  case inContext =>
    obtain ⟨scope, live, isContext⟩ := underway.inContext
    exact (recounts.behind ⟨scope, live, isContext, rfl⟩).hasWrapper
  case inContext' =>
    obtain ⟨scope, live, isContext⟩ := underway.inContext'
    exact (recounts'.behind ⟨scope, live, isContext, rfl⟩).hasWrapper

end Underway

end Underway

/-! ## Giving references back -/

section Release

variable {wrapper : Wrapper}

/-- What an ended wrapper takes along is the same at both stores. -/
theorem get?_discarded_self {id id' : Nat} (relates : relocation.Relates store store')
    (concerns : relocation.Concerns wrapper.native) :
    (store'.discarded id' { wrapper with native := relocation.rename wrapper.native }).natives.get?
        (relocation.rename wrapper.native) =
      (store.discarded id wrapper).natives.get? wrapper.native := by
  have same := relates.natives wrapper.native concerns
  unfold Store.discarded
  split
  · rw [Store.get?_dropped_self, Store.get?_dropped_self]
    exact congrArg (Option.bind · _) same
  · exact same

theorem Relates.discarded (relates : relocation.Relates store store')
    (found : store.wrappers.get? own.id = some wrapper) (isProgram : wrapper.data = .program)
    (concerns : relocation.Concerns wrapper.native)
    (found' : store'.wrappers.get? own'.id =
      some { wrapper with native := relocation.rename wrapper.native })
    (last : wrapper.refs = 1) :
    relocation.Relates (store.discarded own.id wrapper)
      (store'.discarded own'.id { wrapper with native := relocation.rename wrapper.native }) := by
  have ordinary : wrapper.data.kind ≠ .platform ∧ wrapper.data.kind ≠ .device := by
    rw [isProgram]
    exact ⟨nofun, nofun⟩
  apply relates.of_program
  case formed => exact (Store.Released.last last).wellFormed relates.formed found ordinary
  case formed' =>
    have released : store'.Released own'.id
        { wrapper with native := relocation.rename wrapper.native } _ := .last last
    exact released.wellFormed relates.formed' found' ordinary
  case concerns => exact concerns
  case others =>
    exact fun other isOther => Store.get?_discarded_of_not_owned fun owned => isOther owned.2.symm
  case others' =>
    exact fun other isOther => Store.get?_discarded_of_not_owned fun owned => isOther owned.2.symm
  case same => exact get?_discarded_self relates concerns
  case before =>
    intro object live
    rw [relates.formed.kind_eq own.id wrapper object found live, isProgram]
    rfl
  case later =>
    intro object live
    obtain ⟨refs, live⟩ := Store.sameData_discarded wrapper.native object live
    exact (relates.formed.kind_eq own.id wrapper _ found live).trans
      (congrArg WrapperData.kind isProgram)
  case next => exact Store.nextNative_discarded ..
  case next' => exact Store.nextNative_discarded ..

theorem Holds.of_others (holds : relocation.Holds (own :: held) (own' :: held') store store')
    (relates : relocation.Relates after after')
    (kept : ∀ id, id ≠ own.id → after.wrappers.get? id = store.wrappers.get? id)
    (kept' : ∀ id, id ≠ own'.id → after'.wrappers.get? id = store'.wrappers.get? id) :
    relocation.Holds held held' after after' := by
  obtain ⟨apart, distinct⟩ := List.nodup_cons.mp holds.nodup
  obtain ⟨apart', distinct'⟩ := List.nodup_cons.mp holds.nodup'
  obtain ⟨-, twins⟩ := List.forall₂_cons.mp holds.twins
  -- Either side of each pair is another wrapper than the one that has changed.
  have first : List.Forall₂ (fun other other' => other ≠ own ∧
      relocation.Twins store store' other other') held held' :=
    (List.forall₂_and_left ..).mpr ⟨fun _ member => ne_of_mem_of_not_mem member apart, twins⟩
  have both : List.Forall₂ (fun other' other => other' ≠ own' ∧ other ≠ own ∧
      relocation.Twins store store' other other') held' held :=
    (List.forall₂_and_left ..).mpr
      ⟨fun _ member => ne_of_mem_of_not_mem member apart', first.flip⟩
  refine ⟨relates, both.flip.imp ?_, distinct, distinct'⟩
  rintro ⟨other⟩ ⟨other'⟩ ⟨isOther', isOther, twins⟩
  apply twins.of_wrappers
  · rw [kept other fun equal => isOther (congrArg Handle.mk equal)]
    exact fun _ => id
  · rw [kept' other' fun equal => isOther' (congrArg Handle.mk equal)]
    exact fun _ => id

/-- A reference is given back to the first wrapper at each store. -/
theorem Holds.release (holds : relocation.Holds (own :: held) (own' :: held') store store')
    (returns : ∀ wrapper, store.wrappers.get? own.id = some wrapper →
      wrapper.data.kind = .program → after = store.returned own.id wrapper)
    (returns' : ∀ wrapper, store'.wrappers.get? own'.id = some wrapper →
      wrapper.data.kind = .program → after' = store'.returned own'.id wrapper) :
    relocation.Holds held held' after after' := by
  obtain ⟨⟨wrapper, found, isProgram, concerns, found'⟩, -⟩ := List.forall₂_cons.mp holds.twins
  have isKind : wrapper.data.kind = .program := congrArg WrapperData.kind isProgram
  have ordinary : wrapper.data.kind ≠ .platform ∧ wrapper.data.kind ≠ .device := by
    rw [isKind]
    exact ⟨nofun, nofun⟩
  rw [returns wrapper found isKind, returns' _ found' isKind]
  unfold Store.returned
  dsimp only
  split
  · exact holds.of_others holds.toRelates (fun _ _ => rfl) fun _ _ => rfl
  · rename_i last
    apply holds.of_others (holds.discarded found isProgram concerns found' last)
    · intro id isOther
      rw [Store.wrappers_discarded, Ledger.get?_erase, if_neg isOther.symm]
    · intro id isOther
      rw [Store.wrappers_discarded, Ledger.get?_erase, if_neg isOther.symm]
  · apply holds.of_others
    · exact holds.of_natives (holds.formed.recounted found ordinary)
        (holds.formed'.recounted found' ordinary) rfl rfl rfl rfl
    · exact fun id isOther => (Ledger.get?_set ..).trans (if_neg isOther.symm)
    · exact fun id isOther => (Ledger.get?_set ..).trans (if_neg isOther.symm)

end Release

end Relocation

end ComputeImport
