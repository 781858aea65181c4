import Mathlib.Data.List.Perm.Basic
import ComputeImport.Proofs.Import.Custody

/-!
# What has come and gone since a start

An import may fail at any of its calls, and any of them may have been told to fail, the releases at
its end among them.  `Store.Beyond` compares a store with the one that an import has started from:
the wrappers that have been made and are still there, those that have been made and have ended, and
what that has made of the references to native objects.
-/

namespace ComputeImport

/-- Whether a wrapper takes a reference to a native object along at its end. -/
def Wrapper.owns (native : NativeHandle) (wrapper : Wrapper) : Bool :=
  wrapper.ownsNative && wrapper.native == native

namespace Store

variable {start store after : Store} {made made' : List (Nat × Wrapper)} {spent : List Wrapper}
  {id refs : Nat} {wrapper : Wrapper}

/-- Since a start, the counted wrappers of `made` have been added to a store under new numbers, and
those of `spent` have come and gone.  The other ones are as they were, and a native object that was
there has lost a reference for each spent wrapper that owned it. -/
structure Beyond (start : Store) (made : List (Nat × Wrapper)) (spent : List Wrapper)
    (store : Store) : Prop where
  started : start.WellFormed
  formed : store.WellFormed
  wrapper_le : start.nextWrapper ≤ store.nextWrapper
  native_le : start.nextNative ≤ store.nextNative
  distinct : (made.map Prod.fst).Nodup
  live : ∀ entry ∈ made, store.wrappers.get? entry.1 = some entry.2 ∧
    entry.2.data.kind.isCounted = true ∧ start.nextWrapper ≤ entry.1
  others : ∀ id wrapper, id ∉ made.map Prod.fst → wrapper.data.kind.isCounted = true →
    (store.wrappers.get? id = some wrapper ↔ start.wrappers.get? id = some wrapper)
  refs : ∀ native : NativeHandle, native.raw < start.nextNative →
    store.refsTo native = start.refsTo native - spent.countP (Wrapper.owns native)

/-- A native object whose number was in use keeps its references where objects are only added. -/
theorem Spawns.refsTo_eq (spawns : store.Spawns after) {native : NativeHandle}
    (below : native.raw < store.nextNative) : after.refsTo native = store.refsTo native := by
  cases found : store.natives.get? native with
  | some object =>
      obtain ⟨object', found', same⟩ := spawns.live native object found
      rw [refsTo_of_found found, refsTo_of_found found', same]
  | none =>
      cases found' : after.natives.get? native with
      | none => rw [refsTo, refsTo, found, found']
      | some object =>
          have above := (spawns.new native object found' found).1
          exact absurd below (Nat.not_lt.mpr above)

namespace Beyond

theorem refl (formed : start.WellFormed) : start.Beyond [] [] start := by
  constructor
  case started => exact formed
  case formed => exact formed
  case wrapper_le => exact Nat.le_refl _
  case native_le => exact Nat.le_refl _
  case distinct => exact List.nodup_nil
  case live => exact fun _ member => absurd member List.not_mem_nil
  case others => exact fun _ _ _ _ => Iff.rfl
  case refs => exact fun _ _ => rfl

theorem perm (beyond : start.Beyond made spent store) (perm : made.Perm made') :
    start.Beyond made' spent store := by
  have keys : ∀ id, id ∈ made.map Prod.fst ↔ id ∈ made'.map Prod.fst :=
    fun id => (perm.map Prod.fst).mem_iff
  constructor
  case started => exact beyond.started
  case formed => exact beyond.formed
  case wrapper_le => exact beyond.wrapper_le
  case native_le => exact beyond.native_le
  case distinct => exact (perm.map Prod.fst).nodup_iff.mp beyond.distinct
  case live => exact fun entry member => beyond.live entry (perm.mem_iff.mpr member)
  case others =>
    exact fun id wrapper unlisted => beyond.others id wrapper fun member =>
      unlisted ((keys id).mp member)
  case refs => exact beyond.refs

/-- Growth that adds no counted wrapper changes nothing of it. -/
theorem grown (beyond : start.Beyond made spent store)
    (grows : store.Grows (fun _ => False) after) : start.Beyond made spent after := by
  constructor
  case started => exact beyond.started
  case formed => exact grows.wellFormed beyond.formed
  case wrapper_le => exact Nat.le_trans beyond.wrapper_le grows.nextWrapper_le
  case native_le => exact Nat.le_trans beyond.native_le (grows.spawns beyond.formed).bound
  case distinct => exact beyond.distinct
  case live =>
    intro entry member
    obtain ⟨found, rest⟩ := beyond.live entry member
    exact ⟨grows.get?_wrappers beyond.formed found, rest⟩
  case others =>
    intro id wrapper unlisted counted
    rw [← beyond.others id wrapper unlisted counted]
    constructor
    · exact fun found => grows.counted_eq found counted
    · exact fun found => grows.get?_wrappers beyond.formed found
  case refs =>
    intro native below
    rw [← beyond.refs native below]
    exact (grows.spawns beyond.formed).refsTo_eq (Nat.lt_of_lt_of_le below beyond.native_le)

/-- A new counted wrapper is one of those that have been made. -/
theorem wrapped (beyond : start.Beyond made spent store) {data : WrapperData}
    {native : NativeHandle} {ownsNative : Bool} (counted : data.kind.isCounted = true)
    (live : store.HasNative data.kind native)
    (targeted : ∀ record, data.queue? = some record → store.HasWrapper record.device) :
    start.Beyond ((store.nextWrapper, ⟨data, native, refs, ownsNative⟩) :: made) spent
      (store.wrapped data native ownsNative refs) := by
  have formed := beyond.formed
  have growth : Growth (fun kind => kind = data.kind) store
      (store.wrapped data native ownsNative refs) :=
    .wrapped ownsNative refs rfl (ObjectKind.ordinary_of_isCounted counted) live targeted
  constructor
  case started => exact beyond.started
  case formed => exact growth.wellFormed formed
  case wrapper_le => exact Nat.le_succ_of_le beyond.wrapper_le
  case native_le => exact beyond.native_le
  case distinct =>
    refine List.nodup_cons.mpr ⟨?_, beyond.distinct⟩
    intro member
    obtain ⟨entry, listed, isNext⟩ := List.mem_map.mp member
    have found := (beyond.live entry listed).1
    rw [isNext, formed.next_unused] at found
    contradiction
  case live =>
    intro entry member
    rcases List.mem_cons.mp member with rfl | member
    · exact ⟨by simp [Store.wrapped], counted, beyond.wrapper_le⟩
    · obtain ⟨found, rest⟩ := beyond.live entry member
      exact ⟨formed.get?_wrapped found, rest⟩
  case others =>
    intro id wrapper unlisted isCounted
    rw [List.map_cons, List.mem_cons, not_or] at unlisted
    rw [← beyond.others id wrapper unlisted.2 isCounted, Store.wrapped, Ledger.get?_set,
      if_neg (Ne.symm unlisted.1)]
  case refs => exact beyond.refs

/-- A wrapper that has been made may be recorded with other references. -/
theorem recounted (beyond : start.Beyond ((id, wrapper) :: made) spent store) :
    start.Beyond ((id, { wrapper with refs := refs }) :: made) spent
      (store.recounted id { wrapper with refs := refs }) := by
  obtain ⟨found, counted, isNew⟩ := beyond.live _ List.mem_cons_self
  obtain ⟨unlisted, distinct⟩ := List.nodup_cons.mp beyond.distinct
  constructor
  case started => exact beyond.started
  case formed => exact beyond.formed.recounted found (ObjectKind.ordinary_of_isCounted counted)
  case wrapper_le => exact beyond.wrapper_le
  case native_le => exact beyond.native_le
  case distinct => exact beyond.distinct
  case live =>
    intro entry member
    rcases List.mem_cons.mp member with rfl | member
    · exact ⟨by simp [Store.recounted], counted, isNew⟩
    · obtain ⟨found', rest⟩ := beyond.live entry (List.mem_cons_of_mem _ member)
      refine ⟨?_, rest⟩
      rw [Store.recounted, Ledger.get?_set, if_neg]
      · exact found'
      · intro same
        exact unlisted (List.mem_map.mpr ⟨entry, member, same.symm⟩)
  case others =>
    intro other wrapper' unlisted' isCounted
    rw [← beyond.others other wrapper' unlisted' isCounted, Store.recounted, Ledger.get?_set,
      if_neg]
    rintro rfl
    exact unlisted' List.mem_cons_self
  case refs => exact beyond.refs

/-- A wrapper that has been made and ends has come and gone. -/
theorem discarded (beyond : start.Beyond ((id, wrapper) :: made) spent store) :
    start.Beyond made (wrapper :: spent) (store.discarded id wrapper) := by
  obtain ⟨found, counted, isNew⟩ := beyond.live _ List.mem_cons_self
  obtain ⟨unlisted, distinct⟩ := List.nodup_cons.mp beyond.distinct
  constructor
  case started => exact beyond.started
  case formed =>
    have formed := beyond.formed.unwrapped found (ObjectKind.ordinary_of_isCounted counted)
    unfold Store.discarded
    split
    · exact formed.dropped wrapper.native
    · exact formed
  case wrapper_le =>
    rw [nextWrapper_discarded]
    exact beyond.wrapper_le
  case native_le =>
    rw [nextNative_discarded]
    exact beyond.native_le
  case distinct => exact distinct
  case live =>
    intro entry member
    obtain ⟨found', rest⟩ := beyond.live entry (List.mem_cons_of_mem _ member)
    refine ⟨?_, rest⟩
    rw [wrappers_discarded, Ledger.get?_erase, if_neg]
    · exact found'
    · intro same
      exact unlisted (List.mem_map.mpr ⟨entry, member, same.symm⟩)
  case others =>
    intro other wrapper' unlisted' isCounted
    rw [wrappers_discarded, Ledger.get?_erase]
    split
    · rename_i same
      subst same
      constructor
      · intro absent
        contradiction
      · intro found'
        exact absurd isNew (Nat.not_le.mpr (beyond.started.wrapper_lt id wrapper' found'))
    · rename_i different
      refine beyond.others other wrapper' ?_ isCounted
      rw [List.map_cons, List.mem_cons, not_or]
      exact ⟨Ne.symm different, unlisted'⟩
  case refs =>
    intro native below
    rw [refsTo_discarded, List.countP_cons, beyond.refs native below, Wrapper.owns]
    by_cases owned : wrapper.ownsNative = true ∧ wrapper.native = native
    · rw [if_pos owned, if_pos (by simp [owned]), Nat.sub_sub]
    · rw [if_neg owned, if_neg (by simpa using owned)]
      rfl

/-- A link makes a wrapper of its own around a new native program. -/
theorem joined (beyond : start.Beyond made spent store) {output : ProgramBinary}
    (tidy : output.IsTidy) :
    start.Beyond ((store.nextWrapper, ⟨.program, ⟨store.nextNative⟩, 1, true⟩) :: made) spent
      (store.joined output) := by
  have created : Growth (fun _ => False) store (store.created (.program output)) :=
    .created (.program output) (by rintro _ ⟨⟩; exact tidy)
  apply (beyond.grown created.grows).wrapped rfl
  · exact ⟨⟨.program output, 1⟩, by simp [Store.created], rfl⟩
  · rintro _ ⟨⟩

end Beyond

/-! ## A wrapper and what has been linked from it -/

/-- Of several wrappers, one is the first, and the other ones have been put around new native
objects since a start. -/
def Descends (start : Store) (first : Nat × Wrapper) (entries : List (Nat × Wrapper)) : Prop :=
  ∃ linked, entries.Perm (first :: linked) ∧
    ∀ entry ∈ linked, start.nextNative ≤ entry.2.native.raw

namespace Descends

variable {first entry : Nat × Wrapper} {entries entries' left gone : List (Nat × Wrapper)}

theorem refl (start : Store) (first : Nat × Wrapper) : start.Descends first [first] :=
  ⟨[], .refl _, fun _ member => absurd member List.not_mem_nil⟩

theorem perm (descends : start.Descends first entries) (perm : entries'.Perm entries) :
    start.Descends first entries' := by
  obtain ⟨linked, same, areNew⟩ := descends
  exact ⟨linked, perm.trans same, areNew⟩

theorem cons (descends : start.Descends first entries)
    (isNew : start.nextNative ≤ entry.2.native.raw) : start.Descends first (entry :: entries) := by
  obtain ⟨linked, same, areNew⟩ := descends
  refine ⟨entry :: linked, (same.cons entry).trans (.swap first entry linked), ?_⟩
  exact List.forall_mem_cons.mpr ⟨isNew, areNew⟩

/-- Of the wrappers that are gone, none owned a native object of the start but the first one. -/
theorem countP_gone (descends : start.Descends first (left ++ gone))
    (below : first.2.native.raw < start.nextNative) (owns : first.2.ownsNative = true) :
    (first ∈ left ∧ (gone.map Prod.snd).countP (Wrapper.owns first.2.native) = 0) ∨
      (first ∈ gone ∧ (gone.map Prod.snd).countP (Wrapper.owns first.2.native) = 1) := by
  obtain ⟨linked, perm, areNew⟩ := descends
  let owned : Nat × Wrapper → Bool := fun entry => entry.2.owns first.2.native
  have isOwned : owned first = true := by simp [owned, Wrapper.owns, owns]
  have single : left.countP owned + gone.countP owned = 1 := by
    have others : linked.countP owned = 0 := by
      rw [List.countP_eq_zero]
      intro entry member isOwned
      have isNative : entry.2.native = first.2.native := by
        simp only [owned, Wrapper.owns, Bool.and_eq_true, beq_iff_eq] at isOwned
        exact isOwned.2
      have above := areNew entry member
      rw [isNative] at above
      exact absurd below (Nat.not_lt.mpr above)
    rw [← List.countP_append, perm.countP_eq, List.countP_cons, others, if_pos isOwned]
  have positive : ∀ {entries : List (Nat × Wrapper)}, first ∈ entries → 0 < entries.countP owned :=
    fun member => List.countP_pos_iff.mpr ⟨first, member, isOwned⟩
  rw [List.countP_map]
  change (first ∈ left ∧ gone.countP owned = 0) ∨ (first ∈ gone ∧ gone.countP owned = 1)
  rcases List.mem_append.mp (perm.mem_iff.mpr List.mem_cons_self) with member | member
  · have some := positive member
    exact Or.inl ⟨member, by omega⟩
  · have some := positive member
    exact Or.inr ⟨member, by omega⟩

end Descends

end Store

end ComputeImport
