import ComputeImport.Proofs.Store.Steps

/-!
# Which wrappers and references a store has

What growth and counting make of the two tables: growth gives new numbers to new wrappers, and one
reference to each new native object, and dropping a reference to a native object takes one away.
-/

namespace ComputeImport

namespace NativeData

/-- What is known of an object has stayed the same, but for the stages of a program. -/
def Becomes (old new : NativeData) : Prop :=
  new = old ∨ ∃ before after : ProgramBinary, old = .program before ∧ new = .program after ∧
    after.devices = before.devices ∧ after.kernels = before.kernels

theorem Becomes.refl (data : NativeData) : data.Becomes data :=
  Or.inl rfl

theorem Becomes.trans {old middle new : NativeData} (first : old.Becomes middle)
    (second : middle.Becomes new) : old.Becomes new := by
  rcases first with rfl | ⟨before, after, rfl, rfl, devices, kernels⟩
  · exact second
  · rcases second with rfl | ⟨_, last, same, rfl, devices', kernels'⟩
    · exact Or.inr ⟨before, after, rfl, rfl, devices, kernels⟩
    · cases same
      exact Or.inr ⟨before, last, rfl, rfl, devices'.trans devices, kernels'.trans kernels⟩

theorem Becomes.kind_eq {old new : NativeData} (becomes : old.Becomes new) :
    new.kind = old.kind := by
  rcases becomes with rfl | ⟨before, after, rfl, rfl, -⟩ <;> rfl

theorem Becomes.eq {old new : NativeData} (becomes : old.Becomes new)
    (other : old.kind ≠ .program) : new = old := by
  rcases becomes with rfl | ⟨before, after, rfl, -⟩
  · rfl
  · exact absurd rfl other

/-- The kernels of a program, too. -/
theorem Becomes.kernels_eq {old new : NativeData} (becomes : old.Becomes new) :
    new.program?.map ProgramBinary.kernels = old.program?.map ProgramBinary.kernels := by
  rcases becomes with rfl | ⟨before, after, rfl, rfl, -, kernels⟩
  · rfl
  · exact congrArg some kernels

end NativeData

namespace Store

variable {store after : Store} {wraps : ObjectKind → Prop}

/-! ## What growth adds -/

theorem Growth.nextWrapper_le (growth : Growth wraps store after) :
    store.nextWrapper ≤ after.nextWrapper := by
  cases growth with
  | created | recorded => exact Nat.le_refl _
  | wrapped | platform | device => exact Nat.le_succ _

theorem Grows.nextWrapper_le (grows : Grows wraps store after) :
    store.nextWrapper ≤ after.nextWrapper := by
  induction grows with
  | refl => exact Nat.le_refl _
  | tail _ growth ih => exact Nat.le_trans ih growth.nextWrapper_le

/-- A wrapper of one of the kinds that may have been made, or of a platform or a device. -/
def MayBeNew (wraps : ObjectKind → Prop) (wrapper : Wrapper) : Prop :=
  wraps wrapper.data.kind ∨ wrapper.data.kind = .platform ∨ wrapper.data.kind = .device

/-- A live wrapper was there before, or has a new number and a kind that may have been made. -/
theorem Growth.wrappers_cases (growth : Growth wraps store after) {id : Nat} {wrapper : Wrapper}
    (found : after.wrappers.get? id = some wrapper) :
    store.wrappers.get? id = some wrapper ∨
      (store.nextWrapper ≤ id ∧ MayBeNew wraps wrapper) := by
  cases growth with
  | created | recorded => exact Or.inl found
  | wrapped ownsNative refs allowed =>
      rcases wrapped_cases found with ⟨rfl, rfl⟩ | found
      · exact Or.inr ⟨Nat.le_refl _, Or.inl allowed⟩
      · exact Or.inl found
  | platform live =>
      rcases @wrapped_cases store _ _ _ _ _ _ found with ⟨rfl, rfl⟩ | found
      · exact Or.inr ⟨Nat.le_refl _, Or.inr (Or.inl rfl)⟩
      · exact Or.inl found
  | device live =>
      rcases @wrapped_cases store _ _ _ _ _ _ found with ⟨rfl, rfl⟩ | found
      · exact Or.inr ⟨Nat.le_refl _, Or.inr (Or.inr rfl)⟩
      · exact Or.inl found

theorem Grows.wrappers_cases (grows : Grows wraps store after) {id : Nat} {wrapper : Wrapper}
    (found : after.wrappers.get? id = some wrapper) :
    store.wrappers.get? id = some wrapper ∨
      (store.nextWrapper ≤ id ∧ MayBeNew wraps wrapper) := by
  induction grows with
  | refl => exact Or.inl found
  | @tail middle after steps growth ih =>
      rcases growth.wrappers_cases found with found | ⟨below, isNew⟩
      · exact ih found
      · exact Or.inr ⟨Nat.le_trans (Grows.nextWrapper_le steps) below, isNew⟩

/-- What was known of a live object is known of it still, unless it is a program or new. -/
theorem Growth.becomes (growth : Growth wraps store after) {handle : NativeHandle}
    {object : NativeObject} (below : handle.raw < store.nextNative)
    (found : after.natives.get? handle = some object) :
    ∃ old, store.natives.get? handle = some old ∧ old.data.Becomes object.data := by
  cases growth with
  | created =>
      rcases created_cases found with ⟨rfl, -⟩ | found
      · exact absurd below (Nat.lt_irrefl _)
      · exact ⟨object, found, .refl _⟩
  | @recorded _ _ before after known isProgram devices kernels =>
      rcases recorded_cases found with ⟨rfl, rfl⟩ | found
      · exact ⟨_, known, Or.inr ⟨before, after, isProgram, rfl, devices, kernels⟩⟩
      · exact ⟨object, found, .refl _⟩
  | wrapped | platform | device => exact ⟨object, found, .refl _⟩

/-- Native objects have been added, with one reference each, and no reference has been counted. -/
structure Spawns (store after : Store) : Prop where
  bound : store.nextNative ≤ after.nextNative
  live : ∀ handle object, store.natives.get? handle = some object →
    ∃ object', after.natives.get? handle = some object' ∧ object'.refs = object.refs
  new : ∀ handle object, after.natives.get? handle = some object →
    store.natives.get? handle = none → store.nextNative ≤ handle.raw ∧ object.refs = 1
  /-- A number that has been given out names a native object. -/
  named : ∀ handle : NativeHandle, store.nextNative ≤ handle.raw →
    handle.raw < after.nextNative → after.natives.get? handle ≠ none

theorem Spawns.of_natives (natives : after.natives = store.natives)
    (next : after.nextNative = store.nextNative) : store.Spawns after := by
  constructor
  case bound => exact Nat.le_of_eq next.symm
  case live =>
    intro handle object found
    rw [natives]
    exact ⟨object, found, rfl⟩
  case new =>
    intro handle object found missing
    rw [natives, missing] at found
    contradiction
  case named =>
    intro handle above below
    omega

theorem Spawns.trans {middle : Store} (first : store.Spawns middle) (second : middle.Spawns after) :
    store.Spawns after := by
  constructor
  case bound => exact Nat.le_trans first.bound second.bound
  case live =>
    intro handle object found
    rcases first.live handle object found with ⟨object', found', refs'⟩
    rcases second.live handle object' found' with ⟨object'', found'', refs''⟩
    exact ⟨object'', found'', refs''.trans refs'⟩
  case new =>
    intro handle object found missing
    cases known : middle.natives.get? handle with
    | none =>
        rcases second.new handle object found known with ⟨below, single⟩
        exact ⟨Nat.le_trans first.bound below, single⟩
    | some object' =>
        rcases first.new handle object' known missing with ⟨below, single⟩
        rcases second.live handle object' known with ⟨object'', found'', refs⟩
        obtain rfl := Option.some.inj (found.symm.trans found'')
        exact ⟨below, refs.trans single⟩
  case named =>
    intro handle above below
    by_cases early : handle.raw < middle.nextNative
    · rcases Option.ne_none_iff_exists'.mp (first.named handle above early) with ⟨object, found⟩
      rcases second.live handle object found with ⟨object', found', -⟩
      simp [found']
    · exact second.named handle (Nat.le_of_not_lt early) below

theorem Growth.spawns (growth : Growth wraps store after) (formed : store.WellFormed) :
    store.Spawns after := by
  cases growth with
  | created data tidy =>
      constructor
      case bound => exact Nat.le_succ _
      case live =>
        intro handle object found
        have below := formed.native_lt handle object found
        refine ⟨object, ?_, rfl⟩
        rw [Store.created, Ledger.get?_set, if_neg]
        · exact found
        · rintro rfl
          exact Nat.lt_irrefl _ below
      case new =>
        intro handle object found missing
        rcases created_cases found with ⟨rfl, rfl⟩ | found
        · exact ⟨Nat.le_refl _, rfl⟩
        · rw [missing] at found
          contradiction
      case named =>
        rintro ⟨raw⟩ above below
        obtain rfl : raw = store.nextNative := Nat.le_antisymm (Nat.le_of_lt_succ below) above
        simp [Store.created]
  | @recorded handle object old new known =>
      constructor
      case bound => exact Nat.le_refl _
      case live =>
        intro other object' found
        by_cases equal : handle = other
        · subst equal
          obtain rfl := Option.some.inj (known.symm.trans found)
          exact ⟨{ object with data := .program new }, by simp [Store.recorded], rfl⟩
        · refine ⟨object', ?_, rfl⟩
          rw [Store.recorded, Ledger.get?_set, if_neg equal]
          exact found
      case new =>
        intro other object' found missing
        rcases recorded_cases found with ⟨rfl, -⟩ | found
        · rw [known] at missing
          contradiction
        · rw [missing] at found
          contradiction
      case named => exact fun _ above below => absurd below (Nat.not_lt.mpr above)
  | wrapped | platform | device => exact .of_natives rfl rfl

@[simp]
theorem wrappers_dropped (store : Store) (handle : NativeHandle) :
    (store.dropped handle).wrappers = store.wrappers := by
  unfold dropped
  split
  · split <;> rfl
  · rfl

@[simp]
theorem nextWrapper_dropped (store : Store) (handle : NativeHandle) :
    (store.dropped handle).nextWrapper = store.nextWrapper := by
  unfold dropped
  split
  · split <;> rfl
  · rfl

@[simp]
theorem nextNative_dropped (store : Store) (handle : NativeHandle) :
    (store.dropped handle).nextNative = store.nextNative := by
  unfold dropped
  split
  · split <;> rfl
  · rfl

@[simp]
theorem wrappers_discarded (store : Store) (id : Nat) (wrapper : Wrapper) :
    (store.discarded id wrapper).wrappers = store.wrappers.erase id := by
  unfold discarded
  split
  · exact wrappers_dropped _ _
  · rfl

@[simp]
theorem nextNative_discarded (store : Store) (id : Nat) (wrapper : Wrapper) :
    (store.discarded id wrapper).nextNative = store.nextNative := by
  unfold discarded
  split
  · exact nextNative_dropped _ _
  · rfl

@[simp]
theorem nextWrapper_discarded (store : Store) (id : Nat) (wrapper : Wrapper) :
    (store.discarded id wrapper).nextWrapper = store.nextWrapper := by
  unfold discarded
  split
  · exact nextWrapper_dropped _ _
  · rfl

theorem natives_recounted (store : Store) (id : Nat) (wrapper : Wrapper) :
    (store.recounted id wrapper).natives = store.natives :=
  rfl

/-- A native object that is not live is not brought back by dropping a reference. -/
theorem get?_dropped_of_dead {handle other : NativeHandle}
    (dead : store.natives.get? handle = none) :
    (store.dropped other).natives.get? handle = none := by
  unfold dropped
  split
  · rename_i object found
    split
    · rw [Ledger.get?_erase, dead, ite_self]
    · rw [recorded, Ledger.get?_set, if_neg]
      · exact dead
      · rintro rfl
        rw [dead] at found
        contradiction
  · exact dead

theorem get?_discarded_of_dead {handle : NativeHandle} {id : Nat} {wrapper : Wrapper}
    (dead : store.natives.get? handle = none) :
    (store.discarded id wrapper).natives.get? handle = none := by
  have dead' : (store.unwrapped id).natives.get? handle = none := dead
  unfold discarded
  split
  · exact get?_dropped_of_dead dead'
  · exact dead'

/-- The references to a native object; one that is not live has none. -/
def refsTo (store : Store) (handle : NativeHandle) : Nat :=
  ((store.natives.get? handle).map NativeObject.refs).getD 0

theorem refsTo_of_found {handle : NativeHandle} {object : NativeObject}
    (found : store.natives.get? handle = some object) : store.refsTo handle = object.refs := by
  rw [refsTo, found]
  rfl

theorem refsTo_recorded (handle other : NativeHandle) (object : NativeObject) :
    (store.recorded other object).refsTo handle =
      if other = handle then object.refs else store.refsTo handle := by
  rw [refsTo, recorded, Ledger.get?_set]
  split <;> rfl

/-- A native object that loses a reference has one less, and none if it was the last. -/
theorem refsTo_dropped (handle other : NativeHandle) :
    (store.dropped other).refsTo handle =
      if other = handle then store.refsTo handle - 1 else store.refsTo handle := by
  cases found : store.natives.get? other with
  | none =>
      have nothing : store.refsTo other = 0 := by
        rw [refsTo, found]
        rfl
      rw [dropped, found]
      dsimp only
      split
      · rename_i same
        rw [← same, nothing]
      · rfl
  | some object =>
      rw [dropped, found]
      dsimp only
      split
      · rename_i last
        rw [refsTo, Ledger.get?_erase]
        split
        · rename_i same
          rw [← same, refsTo_of_found found]
          exact (Nat.sub_eq_zero_of_le last).symm
        · rfl
      · rw [refsTo_recorded]
        split
        · rename_i same
          rw [← same, refsTo_of_found found]
        · rfl

theorem refsTo_discarded (handle : NativeHandle) (id : Nat) (wrapper : Wrapper) :
    (store.discarded id wrapper).refsTo handle =
      if wrapper.ownsNative ∧ wrapper.native = handle then store.refsTo handle - 1
      else store.refsTo handle := by
  rw [discarded]
  cases wrapper.ownsNative with
  | false => simp [refsTo, unwrapped]
  | true =>
      have same : (store.unwrapped id).refsTo handle = store.refsTo handle := rfl
      simp [refsTo_dropped, same]

theorem Grows.spawns (grows : Grows wraps store after) (formed : store.WellFormed) :
    store.Spawns after := by
  induction grows with
  | refl => exact .of_natives rfl rfl
  | tail steps growth ih => exact ih.trans (growth.spawns (Grows.wellFormed steps formed))

theorem Grows.becomes (grows : Grows wraps store after) (formed : store.WellFormed)
    {handle : NativeHandle} {object : NativeObject} (below : handle.raw < store.nextNative)
    (found : after.natives.get? handle = some object) :
    ∃ old, store.natives.get? handle = some old ∧ old.data.Becomes object.data := by
  induction grows generalizing object with
  | refl => exact ⟨object, found, .refl _⟩
  | tail steps growth ih =>
      have bound := (Grows.spawns steps formed).bound
      obtain ⟨middle, found, becomes⟩ := growth.becomes (Nat.lt_of_lt_of_le below bound) found
      obtain ⟨old, found, becomes'⟩ := ih found
      exact ⟨old, found, becomes'.trans becomes⟩

end Store

end ComputeImport
