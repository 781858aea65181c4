import Mathlib.Logic.Relation
import ComputeImport.Native.Program
import ComputeImport.Proofs.Outcome

/-!
# Growth and form of an object store

Most steps on a store only add to it or take programs further.  `Store.Growth` lists the changes
that they are made of, and `Store.Grows` chains them.  `Store.WellFormed` is what holds of the
tables of a store whatever has happened: numbers are not used twice, the stages of a program are
those of its devices, and platforms and devices have one wrapper each.
-/

namespace ComputeImport

/-- The stages that are known of a program are those of its devices. -/
def ProgramBinary.IsTidy (binary : ProgramBinary) : Prop :=
  ∀ device, binary.stages.contains device = true ↔ device ∈ binary.devices

/-- What is known of an object is tidy, if the object is a program. -/
def NativeData.IsTidy (data : NativeData) : Prop :=
  ∀ binary, data = .program binary → binary.IsTidy

namespace Store

/-! ## Changes that add to a store -/

/-- The store after the creation of a native object. -/
def created (store : Store) (data : NativeData) : Store :=
  { store with
      natives := store.natives.set ⟨store.nextNative⟩ ⟨data, 1⟩
      nextNative := store.nextNative + 1 }

/-- The store after a new wrapper has been put around a native object. -/
def wrapped (store : Store) (data : WrapperData) (native : NativeHandle) (ownsNative : Bool)
    (refs : Nat) : Store :=
  { store with
      wrappers := store.wrappers.set store.nextWrapper ⟨data, native, refs, ownsNative⟩
      nextWrapper := store.nextWrapper + 1 }

/-- The store after something else has been recorded for a native object. -/
def recorded (store : Store) (handle : NativeHandle) (object : NativeObject) : Store :=
  { store with natives := store.natives.set handle object }

/-- A handle names a live native object of some kind. -/
def HasNative (store : Store) (kind : ObjectKind) (handle : NativeHandle) : Prop :=
  ∃ object, store.natives.get? handle = some object ∧ object.data.kind = kind

/-- A handle names a live wrapper of its kind. -/
def HasWrapper {kind : ObjectKind} (store : Store) (handle : Handle kind) : Prop :=
  ∃ wrapper, store.wrappers.get? handle.id = some wrapper ∧ wrapper.data.kind = kind

/-- A change that adds to a store, or takes one of its programs further.  New wrappers, apart from
those of platforms and devices, are of the kinds in `wraps`. -/
inductive Growth (wraps : ObjectKind → Prop) (store : Store) : Store → Prop
  | created (data : NativeData) (tidy : data.IsTidy) : Growth wraps store (store.created data)
  | recorded {handle : NativeHandle} {object : NativeObject} {old new : ProgramBinary}
      (found : store.natives.get? handle = some object) (known : object.data = .program old)
      (devices : new.devices = old.devices) (kernels : new.kernels = old.kernels)
      (staged : ∀ device, new.stages.contains device = old.stages.contains device) :
      Growth wraps store (store.recorded handle { object with data := .program new })
  | wrapped {data : WrapperData} {native : NativeHandle} (ownsNative : Bool) (refs : Nat)
      (allowed : wraps data.kind) (ordinary : data.kind ≠ .platform ∧ data.kind ≠ .device)
      (live : store.HasNative data.kind native)
      (targeted : ∀ record, data.queue? = some record → store.HasWrapper record.device) :
      Growth wraps store (store.wrapped data native ownsNative refs)
  | platform {native : NativeHandle} (live : store.HasNative .platform native)
      (unknown : store.platformWrappers.get? native = none) :
      Growth wraps store
        { store.wrapped .platform native false 1 with
            platformWrappers := store.platformWrappers.set native ⟨store.nextWrapper⟩ }
  | device {native : NativeHandle} (live : store.HasNative .device native)
      (unknown : store.deviceWrappers.get? native = none) :
      Growth wraps store
        { store.wrapped .device native false 1 with
            deviceWrappers := store.deviceWrappers.set native ⟨store.nextWrapper⟩ }

/-- A chain of changes that add to a store. -/
def Grows (wraps : ObjectKind → Prop) : Store → Store → Prop :=
  Relation.ReflTransGen (Growth wraps)

/-! ## The form of the tables -/

/-- What holds of the two tables of a store. -/
structure Tabled (store : Store) : Prop where
  native_lt : ∀ handle object, store.natives.get? handle = some object →
    handle.raw < store.nextNative
  wrapper_lt : ∀ id wrapper, store.wrappers.get? id = some wrapper → id < store.nextWrapper
  behind_lt : ∀ id wrapper, store.wrappers.get? id = some wrapper →
    wrapper.native.raw < store.nextNative
  /-- A native object that is live has the kind of its wrappers. -/
  kind_eq : ∀ id wrapper object, store.wrappers.get? id = some wrapper →
    store.natives.get? wrapper.native = some object → object.data.kind = wrapper.data.kind
  tidy : ∀ handle object, store.natives.get? handle = some object → object.data.IsTidy
  held : ∀ handle object, store.natives.get? handle = some object → 0 < object.refs
  /-- The device that a queue was wrapped for is wrapped. -/
  targeted : ∀ id wrapper record, store.wrappers.get? id = some wrapper →
    wrapper.data.queue? = some record → store.HasWrapper record.device

/-- A cache knows the wrappers of one kind, each under the object that it is put around. -/
structure Caches (data : WrapperData) (wrappers : Ledger Nat Wrapper)
    (cache : Ledger NativeHandle (Handle data.kind)) : Prop where
  wrapped : ∀ native handle, cache.get? native = some handle →
    wrappers.get? handle.id = some ⟨data, native, 1, false⟩
  known : ∀ id wrapper, wrappers.get? id = some wrapper → wrapper.data.kind = data.kind →
    cache.get? wrapper.native = some ⟨id⟩

/-- What holds of a store, whatever has happened. -/
structure WellFormed (store : Store) : Prop extends store.Tabled where
  platforms : Caches .platform store.wrappers store.platformWrappers
  devices : Caches .device store.wrappers store.deviceWrappers

theorem wellFormed_empty : WellFormed {} := by
  have unknown : ∀ {kind : ObjectKind} {native : NativeHandle} {handle : Handle kind},
      ({} : Ledger NativeHandle (Handle kind)).get? native ≠ some handle := by
    intro kind native handle found
    cases found
  constructor
  case toTabled => constructor <;> intros <;> simp_all [Ledger.get?_empty]
  case platforms => exact ⟨fun _ _ found => absurd found unknown, by simp [Ledger.get?_empty]⟩
  case devices => exact ⟨fun _ _ found => absurd found unknown, by simp [Ledger.get?_empty]⟩

variable {store : Store}

/-! ### New native objects and new data -/

/-- A live object was there before another one was created, or is that one. -/
theorem created_cases {data : NativeData} {handle : NativeHandle} {object : NativeObject}
    (found : (store.created data).natives.get? handle = some object) :
    (handle = ⟨store.nextNative⟩ ∧ object = ⟨data, 1⟩) ∨
      store.natives.get? handle = some object := by
  rw [Store.created, Ledger.get?_set] at found
  split at found
  · rename_i equal
    exact Or.inl ⟨equal.symm, (Option.some.inj found).symm⟩
  · exact Or.inr found

/-- A live object was there before another one was recorded, or is that one. -/
theorem recorded_cases {handle other : NativeHandle} {object found : NativeObject}
    (live : (store.recorded handle object).natives.get? other = some found) :
    (other = handle ∧ found = object) ∨ store.natives.get? other = some found := by
  rw [Store.recorded, Ledger.get?_set] at live
  split at live
  · rename_i equal
    exact Or.inl ⟨equal.symm, (Option.some.inj live).symm⟩
  · exact Or.inr live

theorem Tabled.created (tabled : store.Tabled) {data : NativeData} (tidy : data.IsTidy) :
    (store.created data).Tabled := by
  constructor
  case native_lt =>
    intro handle object found
    rcases created_cases found with ⟨rfl, -⟩ | found
    · exact Nat.lt_succ_self _
    · exact Nat.lt_succ_of_lt (tabled.native_lt handle object found)
  case wrapper_lt => exact tabled.wrapper_lt
  case behind_lt =>
    intro id wrapper found
    exact Nat.lt_succ_of_lt (tabled.behind_lt id wrapper found)
  case kind_eq =>
    intro id wrapper object found behind
    rcases created_cases behind with ⟨equal, -⟩ | behind
    · have below := tabled.behind_lt id wrapper found
      rw [equal] at below
      exact absurd below (Nat.lt_irrefl _)
    · exact tabled.kind_eq id wrapper object found behind
  case tidy =>
    intro handle object found
    rcases created_cases found with ⟨-, rfl⟩ | found
    · exact tidy
    · exact tabled.tidy handle object found
  case held =>
    intro handle object found
    rcases created_cases found with ⟨-, rfl⟩ | found
    · exact Nat.one_pos
    · exact tabled.held handle object found
  case targeted => exact tabled.targeted

theorem Tabled.recorded (tabled : store.Tabled) {handle : NativeHandle} {old new : NativeObject}
    (found : store.natives.get? handle = some old) (kind : new.data.kind = old.data.kind)
    (tidy : new.data.IsTidy) (held : 0 < new.refs) : (store.recorded handle new).Tabled := by
  constructor
  case native_lt =>
    intro other object live
    rcases recorded_cases live with ⟨rfl, -⟩ | live
    · exact tabled.native_lt other old found
    · exact tabled.native_lt other object live
  case wrapper_lt => exact tabled.wrapper_lt
  case behind_lt => exact tabled.behind_lt
  case kind_eq =>
    intro id wrapper object wrapped live
    rcases recorded_cases live with ⟨equal, rfl⟩ | live
    · rw [← equal] at found
      exact kind.trans (tabled.kind_eq id wrapper old wrapped found)
    · exact tabled.kind_eq id wrapper object wrapped live
  case tidy =>
    intro other object live
    rcases recorded_cases live with ⟨-, rfl⟩ | live
    · exact tidy
    · exact tabled.tidy other object live
  case held =>
    intro other object live
    rcases recorded_cases live with ⟨-, rfl⟩ | live
    · exact held
    · exact tabled.held other object live
  case targeted => exact tabled.targeted

/-! ### New wrappers -/

/-- A live wrapper was there before another one was added, or is that one. -/
theorem wrapped_cases {data : WrapperData} {native : NativeHandle} {ownsNative : Bool}
    {refs id : Nat} {wrapper : Wrapper}
    (found : (store.wrapped data native ownsNative refs).wrappers.get? id = some wrapper) :
    (id = store.nextWrapper ∧ wrapper = ⟨data, native, refs, ownsNative⟩) ∨
      store.wrappers.get? id = some wrapper := by
  rw [Store.wrapped, Ledger.get?_set] at found
  split at found
  · rename_i equal
    exact Or.inl ⟨equal.symm, (Option.some.inj found).symm⟩
  · exact Or.inr found

/-- The number of the next wrapper is not in use. -/
theorem Tabled.next_unused (tabled : store.Tabled) :
    store.wrappers.get? store.nextWrapper = none := by
  cases found : store.wrappers.get? store.nextWrapper with
  | none => rfl
  | some wrapper => exact absurd (tabled.wrapper_lt _ _ found) (Nat.lt_irrefl _)

/-- A live wrapper stays where it is when another one is added. -/
theorem Tabled.get?_wrapped (tabled : store.Tabled) {data : WrapperData} {native : NativeHandle}
    {ownsNative : Bool} {refs id : Nat} {wrapper : Wrapper}
    (found : store.wrappers.get? id = some wrapper) :
    (store.wrapped data native ownsNative refs).wrappers.get? id = some wrapper := by
  have below := tabled.wrapper_lt id wrapper found
  rw [Store.wrapped, Ledger.get?_set, if_neg (Nat.ne_of_gt below)]
  exact found

theorem Tabled.wrapped (tabled : store.Tabled) {data : WrapperData} {native : NativeHandle}
    {ownsNative : Bool} {refs : Nat} (live : store.HasNative data.kind native)
    (targeted : ∀ record, data.queue? = some record → store.HasWrapper record.device) :
    (store.wrapped data native ownsNative refs).Tabled := by
  rcases live with ⟨behind, live, kind⟩
  have kept : ∀ device : DeviceHandle, store.HasWrapper device →
      (store.wrapped data native ownsNative refs).HasWrapper device := by
    rintro device ⟨wrapper, found, isDevice⟩
    exact ⟨wrapper, tabled.get?_wrapped found, isDevice⟩
  constructor
  case native_lt => exact tabled.native_lt
  case wrapper_lt =>
    intro id wrapper found
    rcases wrapped_cases found with ⟨rfl, -⟩ | found
    · exact Nat.lt_succ_self _
    · exact Nat.lt_succ_of_lt (tabled.wrapper_lt id wrapper found)
  case behind_lt =>
    intro id wrapper found
    rcases wrapped_cases found with ⟨-, rfl⟩ | found
    · exact tabled.native_lt native behind live
    · exact tabled.behind_lt id wrapper found
  case kind_eq =>
    intro id wrapper object found member
    rcases wrapped_cases found with ⟨-, rfl⟩ | found
    · have same : object = behind := Option.some.inj (member.symm.trans live)
      exact same ▸ kind
    · exact tabled.kind_eq id wrapper object found member
  case tidy => exact tabled.tidy
  case held => exact tabled.held
  case targeted =>
    intro id wrapper record found isQueue
    rcases wrapped_cases found with ⟨-, rfl⟩ | found
    · exact kept _ (targeted record isQueue)
    · exact kept _ (tabled.targeted id wrapper record found isQueue)

/-- A cache need not know of a new wrapper of another kind. -/
theorem Caches.wrapped_other {known data : WrapperData}
    {cache : Ledger NativeHandle (Handle known.kind)} (tabled : store.Tabled)
    (caches : Caches known store.wrappers cache) (other : data.kind ≠ known.kind)
    {native : NativeHandle} {ownsNative : Bool} {refs : Nat} :
    Caches known (store.wrapped data native ownsNative refs).wrappers cache := by
  constructor
  case wrapped =>
    intro object handle member
    exact tabled.get?_wrapped (caches.wrapped object handle member)
  case known =>
    intro id wrapper found kind
    rcases wrapped_cases found with ⟨-, rfl⟩ | found
    · exact absurd kind other
    · exact caches.known id wrapper found kind

/-- A cache learns of a new wrapper of its own kind. -/
theorem Caches.wrapped_own {data : WrapperData} {cache : Ledger NativeHandle (Handle data.kind)}
    (tabled : store.Tabled) (caches : Caches data store.wrappers cache) {native : NativeHandle}
    (unknown : cache.get? native = none) :
    Caches data (store.wrapped data native false 1).wrappers
      (cache.set native ⟨store.nextWrapper⟩) := by
  constructor
  case wrapped =>
    intro object handle member
    rw [Ledger.get?_set] at member
    split at member
    · rename_i equal
      subst equal
      obtain rfl := Option.some.inj member
      simp [Store.wrapped]
    · exact tabled.get?_wrapped (caches.wrapped object handle member)
  case known =>
    intro id wrapper found kind
    rcases wrapped_cases found with ⟨rfl, rfl⟩ | found
    · simp
    · have member := caches.known id wrapper found kind
      rw [Ledger.get?_set, if_neg]
      · exact member
      · rintro rfl
        rw [unknown] at member
        contradiction

/-! ### Growth keeps the form -/

theorem Growth.wellFormed {wraps : ObjectKind → Prop} {after : Store}
    (growth : Growth wraps store after) (formed : store.WellFormed) : after.WellFormed := by
  cases growth with
  | created data tidy => exact ⟨formed.toTabled.created tidy, formed.platforms, formed.devices⟩
  | @recorded handle object old new found known devices kernels staged =>
      have tidy : new.IsTidy := by
        intro device
        rw [staged, devices]
        exact formed.tidy handle object found old known device
      refine ⟨formed.toTabled.recorded found ?_ ?_ (formed.held handle object found),
        formed.platforms, formed.devices⟩
      · rw [known]
        rfl
      · intro binary equal
        cases equal
        exact tidy
  | wrapped ownsNative refs allowed ordinary live targeted =>
      exact ⟨formed.toTabled.wrapped live targeted,
        formed.platforms.wrapped_other formed.toTabled ordinary.1,
        formed.devices.wrapped_other formed.toTabled ordinary.2⟩
  | platform live unknown =>
      have tabled : (store.wrapped .platform _ false 1).Tabled :=
        formed.toTabled.wrapped live (by intro record isQueue; cases isQueue)
      exact ⟨⟨tabled.native_lt, tabled.wrapper_lt, tabled.behind_lt, tabled.kind_eq, tabled.tidy,
          tabled.held, tabled.targeted⟩,
        formed.platforms.wrapped_own formed.toTabled unknown,
        formed.devices.wrapped_other formed.toTabled (by decide)⟩
  | device live unknown =>
      have tabled : (store.wrapped .device _ false 1).Tabled :=
        formed.toTabled.wrapped live (by intro record isQueue; cases isQueue)
      exact ⟨⟨tabled.native_lt, tabled.wrapper_lt, tabled.behind_lt, tabled.kind_eq, tabled.tidy,
          tabled.held, tabled.targeted⟩,
        formed.platforms.wrapped_other formed.toTabled (by decide),
        formed.devices.wrapped_own formed.toTabled unknown⟩

theorem Grows.wellFormed {wraps : ObjectKind → Prop} {after : Store}
    (grows : Grows wraps store after) (formed : store.WellFormed) : after.WellFormed := by
  induction grows with
  | refl => exact formed
  | tail _ growth ih => exact growth.wellFormed ih

/-! ### What growth leaves in place -/

section Persistence

variable {wraps : ObjectKind → Prop} {after : Store}

theorem Growth.get?_wrappers (growth : Growth wraps store after) (formed : store.WellFormed)
    {id : Nat} {wrapper : Wrapper} (found : store.wrappers.get? id = some wrapper) :
    after.wrappers.get? id = some wrapper := by
  cases growth with
  | created | recorded => exact found
  | wrapped | platform | device => exact formed.get?_wrapped found

theorem Growth.get?_deviceWrappers (growth : Growth wraps store after) {native : NativeHandle}
    {device : DeviceHandle} (known : store.deviceWrappers.get? native = some device) :
    after.deviceWrappers.get? native = some device := by
  cases growth with
  | created | recorded | wrapped | platform => exact known
  | device live unknown =>
      rw [Ledger.get?_set, if_neg]
      · exact known
      · rintro rfl
        rw [unknown] at known
        contradiction

/-- An object that is not a program stays as it is. -/
theorem Growth.get?_natives (growth : Growth wraps store after) (formed : store.WellFormed)
    {native : NativeHandle} {object : NativeObject} (found : store.natives.get? native = some object)
    (other : object.data.kind ≠ .program) : after.natives.get? native = some object := by
  cases growth with
  | created data tidy =>
      have below := formed.native_lt native object found
      rw [Store.created, Ledger.get?_set, if_neg]
      · exact found
      · rintro rfl
        exact Nat.lt_irrefl _ below
  | @recorded handle old _ new known isProgram =>
      rw [Store.recorded, Ledger.get?_set, if_neg]
      · exact found
      · rintro rfl
        obtain rfl := Option.some.inj (found.symm.trans known)
        rw [isProgram] at other
        exact other rfl
  | wrapped | platform | device => exact found

theorem Growth.hasNative (growth : Growth wraps store after) (formed : store.WellFormed)
    {kind : ObjectKind} {native : NativeHandle} (live : store.HasNative kind native) :
    after.HasNative kind native := by
  rcases live with ⟨object, found, isKind⟩
  cases growth with
  | created data tidy =>
      have below := formed.native_lt native object found
      refine ⟨object, ?_, isKind⟩
      rw [Store.created, Ledger.get?_set, if_neg]
      · exact found
      · rintro rfl
        exact Nat.lt_irrefl _ below
  | @recorded handle old _ new known isProgram =>
      by_cases equal : handle = native
      · subst equal
        have same : object = old := Option.some.inj (found.symm.trans known)
        refine ⟨{ old with data := .program new }, by simp [Store.recorded], ?_⟩
        rw [← isKind, same, isProgram]
        rfl
      · exact ⟨object, by simp [Store.recorded, equal, found], isKind⟩
  | wrapped | platform | device => exact ⟨object, found, isKind⟩

theorem Grows.refl (store : Store) : Grows wraps store store :=
  Relation.ReflTransGen.refl

theorem Growth.grows (growth : Growth wraps store after) : Grows wraps store after :=
  Relation.ReflTransGen.single growth

theorem Grows.trans {middle : Store} (first : Grows wraps store middle)
    (second : Grows wraps middle after) : Grows wraps store after :=
  Relation.ReflTransGen.trans first second

/-- Less may be said of the kinds of the new wrappers. -/
theorem Grows.mono {wraps' : ObjectKind → Prop} (grows : Grows wraps store after)
    (allows : ∀ kind, wraps kind → wraps' kind) : Grows wraps' store after := by
  refine Relation.ReflTransGen.mono ?_ store after grows
  intro before next growth
  cases growth with
  | created data tidy => exact .created data tidy
  | recorded found known devices kernels staged =>
      exact .recorded found known devices kernels staged
  | wrapped ownsNative refs allowed ordinary live targeted =>
      exact .wrapped ownsNative refs (allows _ allowed) ordinary live targeted
  | platform live unknown => exact .platform live unknown
  | device live unknown => exact .device live unknown

/-- Growth leaves every wrapper as it is. -/
theorem Grows.get?_wrappers (grows : Grows wraps store after) (formed : store.WellFormed)
    {id : Nat} {wrapper : Wrapper} (found : store.wrappers.get? id = some wrapper) :
    after.wrappers.get? id = some wrapper := by
  induction grows with
  | refl => exact found
  | tail steps growth ih => exact growth.get?_wrappers (Grows.wellFormed steps formed) ih

theorem Grows.get?_deviceWrappers (grows : Grows wraps store after) {native : NativeHandle}
    {device : DeviceHandle} (known : store.deviceWrappers.get? native = some device) :
    after.deviceWrappers.get? native = some device := by
  induction grows with
  | refl => exact known
  | tail _ growth ih => exact growth.get?_deviceWrappers ih

theorem Grows.get?_natives (grows : Grows wraps store after) (formed : store.WellFormed)
    {native : NativeHandle} {object : NativeObject} (found : store.natives.get? native = some object)
    (other : object.data.kind ≠ .program) : after.natives.get? native = some object := by
  induction grows with
  | refl => exact found
  | tail steps growth ih => exact growth.get?_natives (Grows.wellFormed steps formed) ih other

/-- Growth destroys no native object. -/
theorem Grows.hasNative (grows : Grows wraps store after) (formed : store.WellFormed)
    {kind : ObjectKind} {native : NativeHandle} (live : store.HasNative kind native) :
    after.HasNative kind native := by
  induction grows with
  | refl => exact live
  | tail steps growth ih => exact growth.hasNative (Grows.wellFormed steps formed) ih

end Persistence

/-! ## Looking without changing native objects -/

/-- Nothing has changed but that platforms and devices may have been wrapped. -/
structure Quiet (store after : Store) : Prop where
  grows : Grows (fun _ => False) store after
  natives : after.natives = store.natives

theorem Quiet.refl (store : Store) : store.Quiet store :=
  ⟨.refl store, rfl⟩

theorem Quiet.trans {middle after : Store} (first : store.Quiet middle)
    (second : middle.Quiet after) : store.Quiet after :=
  ⟨first.grows.trans second.grows, second.natives.trans first.natives⟩

end Store

end ComputeImport
