import Mathlib.Data.List.Forall2
import ComputeImport.Proofs.Store.Growth

/-!
# Steps on an object store

Where every step on a store ends.  A step that looks something up leaves the store as it is, whether
it finds something or fails.  Wrapping platforms and devices only adds their wrappers, taking a
reference changes one count, and dropping one may destroy a wrapper and take a reference of the
native object along.
-/

namespace ComputeImport.Store

variable {store : Store} {kind : ObjectKind}

/-! ## Looking at native objects -/

theorem ends_inspect {α : Type} {view : NativeData → Option α} {handle : NativeHandle} :
    Ends (inspect kind view handle) store
      (fun seen after => after = store ∧
        ∃ object, store.natives.get? handle = some object ∧ view object.data = some seen)
      (fun e after => after = store ∧ e = .invalidNativeHandle kind.name handle ∧
        ∀ object, store.natives.get? handle = some object → view object.data = none) := by
  unfold inspect
  rw [ends_bind, ends_get]
  cases found : store.natives.get? handle with
  | none => exact ⟨rfl, rfl, fun object equal => nomatch equal⟩
  | some object =>
      rw [Option.bind_some]
      cases shown : view object.data with
      | none =>
          refine ⟨rfl, rfl, ?_⟩
          rintro _ ⟨⟩
          exact shown
      | some seen => exact ⟨rfl, object, rfl, shown⟩

theorem ends_native {handle : NativeHandle} :
    Ends (native kind handle) store
      (fun _ after => after = store ∧ store.HasNative kind handle)
      (fun e after => after = store ∧ e = .invalidNativeHandle kind.name handle ∧
        ¬ store.HasNative kind handle) := by
  refine ends_inspect.imp ?_ ?_
  · rintro data after ⟨equal, object, found, shown⟩
    refine ⟨equal, object, found, ?_⟩
    split at shown
    · assumption
    · contradiction
  · rintro e after ⟨equal, cause, hidden⟩
    refine ⟨equal, cause, ?_⟩
    rintro ⟨object, found, isKind⟩
    have shown := hidden object found
    rw [if_pos isKind] at shown
    contradiction

/-- A view that shows exactly the objects of one kind fails only where there is none. -/
theorem ends_inspect_kind {α : Type} {view : NativeData → Option α} {make : α → NativeData}
    {handle : NativeHandle} (shows : ∀ data seen, view data = some seen → data = make seen)
    (hides : ∀ data, view data = none → data.kind ≠ kind) :
    Ends (inspect kind view handle) store
      (fun seen after => after = store ∧
        ∃ refs, store.natives.get? handle = some ⟨make seen, refs⟩)
      (fun e after => after = store ∧ e = .invalidNativeHandle kind.name handle ∧
        ¬ store.HasNative kind handle) := by
  refine ends_inspect.imp ?_ ?_
  · rintro seen after ⟨equal, ⟨data, refs⟩, found, shown⟩
    obtain rfl := shows data seen shown
    exact ⟨equal, refs, found⟩
  · rintro e after ⟨equal, cause, hidden⟩
    refine ⟨equal, cause, ?_⟩
    rintro ⟨object, found, isKind⟩
    exact hides object.data (hidden object found) isKind

theorem ends_nativePlatform {handle : NativeHandle} :
    Ends (nativePlatform handle) store
      (fun reported after => after = store ∧
        ∃ refs, store.natives.get? handle = some ⟨.platform reported, refs⟩)
      (fun e after => after = store ∧ e = .invalidNativeHandle ObjectKind.platform.name handle ∧
        ¬ store.HasNative .platform handle) := by
  refine ends_inspect_kind ?_ ?_ <;> intro data <;> cases data <;>
    simp [NativeData.platform?, NativeData.kind]

theorem ends_nativeDevice {handle : NativeHandle} :
    Ends (nativeDevice handle) store
      (fun platform after => after = store ∧
        ∃ refs, store.natives.get? handle = some ⟨.device platform, refs⟩)
      (fun e after => after = store ∧ e = .invalidNativeHandle ObjectKind.device.name handle ∧
        ¬ store.HasNative .device handle) := by
  refine ends_inspect_kind ?_ ?_ <;> intro data <;> cases data <;>
    simp [NativeData.device?, NativeData.kind]

theorem ends_nativeQueue {handle : NativeHandle} :
    Ends (nativeQueue handle) store
      (fun target after => after = store ∧
        ∃ refs, store.natives.get? handle = some ⟨.queue target, refs⟩)
      (fun e after => after = store ∧ e = .invalidNativeHandle ObjectKind.queue.name handle ∧
        ¬ store.HasNative .queue handle) := by
  refine ends_inspect_kind ?_ ?_ <;> intro data <;> cases data <;>
    simp [NativeData.queue?, NativeData.kind]

theorem ends_nativeProgram {handle : NativeHandle} :
    Ends (nativeProgram handle) store
      (fun binary after => after = store ∧
        ∃ refs, store.natives.get? handle = some ⟨.program binary, refs⟩)
      (fun e after => after = store ∧ e = .invalidNativeHandle ObjectKind.program.name handle ∧
        ¬ store.HasNative .program handle) := by
  refine ends_inspect_kind ?_ ?_ <;> intro data <;> cases data <;>
    simp [NativeData.program?, NativeData.kind]

theorem ends_nativeKernel {handle : NativeHandle} :
    Ends (nativeKernel handle) store
      (fun owner after => after = store ∧
        ∃ refs, store.natives.get? handle = some ⟨.kernel owner, refs⟩)
      (fun e after => after = store ∧ e = .invalidNativeHandle ObjectKind.kernel.name handle ∧
        ¬ store.HasNative .kernel handle) := by
  refine ends_inspect_kind ?_ ?_ <;> intro data <;> cases data <;>
    simp [NativeData.kernel?, NativeData.kind]

/-! ## Looking at wrappers -/

/-- A live wrapper of the handle's kind is put around a native object. -/
def Behind (store : Store) (handle : Handle kind) (native : NativeHandle) : Prop :=
  ∃ wrapper, store.wrappers.get? handle.id = some wrapper ∧ wrapper.data.kind = kind ∧
    wrapper.native = native

theorem Behind.hasWrapper {handle : Handle kind} {native : NativeHandle}
    (behind : store.Behind handle native) : store.HasWrapper handle := by
  rcases behind with ⟨wrapper, found, isKind, -⟩
  exact ⟨wrapper, found, isKind⟩

theorem Behind.unique {handle : Handle kind} {native other : NativeHandle}
    (behind : store.Behind handle native) (behind' : store.Behind handle other) :
    native = other := by
  rcases behind with ⟨wrapper, found, -, rfl⟩
  rcases behind' with ⟨wrapper', found', -, rfl⟩
  rw [Option.some.inj (found.symm.trans found')]

theorem WellFormed.behind_device {native : NativeHandle} {device : DeviceHandle}
    (formed : store.WellFormed) (known : store.deviceWrappers.get? native = some device) :
    store.Behind device native :=
  ⟨_, formed.devices.wrapped native device known, rfl, rfl⟩

theorem ends_wrapper {handle : Handle kind} :
    Ends (wrapper handle) store
      (fun wrapper after => after = store ∧ store.wrappers.get? handle.id = some wrapper ∧
        wrapper.data.kind = kind)
      (fun e after => after = store ∧ e = .invalidHandle kind.name handle.id ∧
        ¬ store.HasWrapper handle) := by
  unfold wrapper
  rw [ends_bind, ends_get]
  cases found : store.wrappers.get? handle.id with
  | none =>
      refine ⟨rfl, rfl, ?_⟩
      rintro ⟨wrapper, live, -⟩
      rw [found] at live
      contradiction
  | some wrapper =>
      dsimp only
      split
      · rename_i isKind
        exact ⟨rfl, rfl, isKind⟩
      · rename_i other
        refine ⟨rfl, rfl, ?_⟩
        rintro ⟨wrapper', live, isKind⟩
        obtain rfl := Option.some.inj (found.symm.trans live)
        exact other isKind

theorem ends_behind {handle : Handle kind} :
    Ends (behind handle) store
      (fun native after => after = store ∧ store.Behind handle native)
      (fun e after => after = store ∧ e = .invalidHandle kind.name handle.id ∧
        ¬ store.HasWrapper handle) := by
  refine ends_wrapper.bind ?_
  rintro wrapper _ ⟨rfl, found, isKind⟩
  exact ⟨rfl, wrapper, found, isKind, rfl⟩

theorem ends_behindAll {handles : List (Handle kind)} :
    Ends (behindAll handles) store
      (fun natives after => after = store ∧ List.Forall₂ store.Behind handles natives)
      (fun _ after => after = store ∧ ∃ handle ∈ handles, ¬ store.HasWrapper handle) := by
  induction handles with
  | nil => exact ⟨rfl, .nil⟩
  | cons handle handles ih =>
      refine (ends_behind.imp (fun _ _ found => found) ?_).bind ?_
      · rintro e after ⟨equal, -, dead⟩
        exact ⟨equal, handle, List.mem_cons_self, dead⟩
      · rintro native _ ⟨rfl, behind⟩
        refine (ih.imp (fun _ _ found => found) ?_).bind ?_
        · rintro e after ⟨equal, other, member, dead⟩
          exact ⟨equal, other, List.mem_cons_of_mem handle member, dead⟩
        · rintro natives _ ⟨rfl, rest⟩
          exact ⟨rfl, .cons behind rest⟩

theorem ends_queueRecord {handle : QueueHandle} :
    Ends (queueRecord handle) store
      (fun record after => after = store ∧ ∃ wrapper,
        store.wrappers.get? handle.id = some wrapper ∧ wrapper.data = .queue record)
      (fun e after => after = store ∧ e = .invalidHandle ObjectKind.queue.name handle.id ∧
        ¬ store.HasWrapper handle) := by
  unfold queueRecord
  rw [ends_bind, ends_get]
  cases found : store.wrappers.get? handle.id with
  | none =>
      refine ⟨rfl, rfl, ?_⟩
      rintro ⟨wrapper, live, -⟩
      rw [found] at live
      contradiction
  | some wrapper =>
      rw [Option.bind_some]
      cases known : wrapper.data with
      | queue record => exact ⟨rfl, wrapper, rfl, known⟩
      | platform | device | context | event | program | kernel | mem =>
          refine ⟨rfl, rfl, ?_⟩
          rintro ⟨wrapper', live, isKind⟩
          obtain rfl := Option.some.inj (found.symm.trans live)
          rw [known] at isKind
          contradiction

/-! ## Wrapping platforms and devices -/

theorem ends_wrapPlatform {native : NativeHandle} :
    Ends (wrapPlatform native) store
      (fun handle after => store.Quiet after ∧ after.platformWrappers.get? native = some handle ∧
        store.HasNative .platform native)
      (fun e after => after = store ∧ e = .invalidNativeHandle ObjectKind.platform.name native ∧
        ¬ store.HasNative .platform native) := by
  refine ends_native.bind ?_
  rintro _ _ ⟨rfl, live⟩
  rw [ends_bind, ends_get]
  rename_i store
  cases known : store.platformWrappers.get? native with
  | some handle => exact ⟨.refl store, known, live⟩
  | none =>
      refine ⟨⟨Growth.grows (.platform live known), rfl⟩, ?_, live⟩
      exact Ledger.get?_set .. |>.trans (if_pos rfl)

theorem ends_wrapDevice {native : NativeHandle} :
    Ends (wrapDevice native) store
      (fun handle after => store.Quiet after ∧ after.deviceWrappers.get? native = some handle ∧
        store.HasNative .device native)
      (fun e after => after = store ∧ e = .invalidNativeHandle ObjectKind.device.name native ∧
        ¬ store.HasNative .device native) := by
  refine ends_native.bind ?_
  rintro _ _ ⟨rfl, live⟩
  rw [ends_bind, ends_get]
  rename_i store
  cases known : store.deviceWrappers.get? native with
  | some handle => exact ⟨.refl store, known, live⟩
  | none =>
      refine ⟨⟨Growth.grows (.device live known), rfl⟩, ?_, live⟩
      exact Ledger.get?_set .. |>.trans (if_pos rfl)

/-- The wrappers of native devices, one for one. -/
def Lists (store : Store) : List NativeHandle → List DeviceHandle → Prop :=
  List.Forall₂ fun native handle => store.deviceWrappers.get? native = some handle

theorem Lists.grows {after : Store} {wraps : ObjectKind → Prop} {natives : List NativeHandle}
    {handles : List DeviceHandle} (lists : store.Lists natives handles)
    (grows : Store.Grows wraps store after) : after.Lists natives handles :=
  List.Forall₂.imp (fun _ _ known => grows.get?_deviceWrappers known) lists

theorem ends_wrapDevices {natives : List NativeHandle} :
    Ends (wrapDevices natives) store
      (fun handles after => store.Quiet after ∧ after.Lists natives handles ∧
        ∀ native ∈ natives, store.HasNative .device native)
      (fun _ after => store.Quiet after ∧ ∃ native ∈ natives, ¬ store.HasNative .device native) := by
  induction natives generalizing store with
  | nil => exact ⟨.refl store, .nil, by simp⟩
  | cons native natives ih =>
      refine (ends_wrapDevice.imp (fun _ _ found => found) ?_).bind ?_
      · rintro e after ⟨rfl, -, dead⟩
        exact ⟨.refl after, native, List.mem_cons_self, dead⟩
      · rintro handle middle ⟨first, known, live⟩
        have same : ∀ other, middle.HasNative .device other ↔ store.HasNative .device other := by
          intro other
          rw [HasNative, HasNative, first.natives]
        refine (ih.imp (fun _ _ found => found) ?_).bind ?_
        · rintro e after ⟨rest, other, member, dead⟩
          exact ⟨first.trans rest, other, List.mem_cons_of_mem native member,
            fun live => dead ((same other).mpr live)⟩
        · rintro handles after ⟨rest, knowns, lives⟩
          refine ⟨first.trans rest, .cons (rest.grows.get?_deviceWrappers known) knowns, ?_⟩
          intro other member
          rcases List.mem_cons.mp member with rfl | member
          · exact live
          · exact (same other).mp (lives other member)

/-! ## Counting references -/

/-- The store after a wrapper has been recorded anew. -/
def recounted (store : Store) (id : Nat) (wrapper : Wrapper) : Store :=
  { store with wrappers := store.wrappers.set id wrapper }

/-- The store after a wrapper has been destroyed. -/
def unwrapped (store : Store) (id : Nat) : Store :=
  { store with wrappers := store.wrappers.erase id }

/-- The store after a native object has lost a reference, and perhaps its life. -/
def dropped (store : Store) (handle : NativeHandle) : Store :=
  match store.natives.get? handle with
  | some object =>
      if object.refs ≤ 1 then { store with natives := store.natives.erase handle }
      else store.recorded handle { object with refs := object.refs - 1 }
  | none => store

/-- The store after a wrapper has lost its last reference. -/
def discarded (store : Store) (id : Nat) (wrapper : Wrapper) : Store :=
  if wrapper.ownsNative then (store.unwrapped id).dropped wrapper.native else store.unwrapped id

theorem ends_retainNative {handle : NativeHandle} :
    Ends (retainNative handle) store
      (fun _ after => ∃ object, store.natives.get? handle = some object ∧
        after = store.recorded handle { object with refs := object.refs + 1 })
      (fun e after => after = store ∧ e = .invalidNativeHandle "object" handle ∧
        store.natives.get? handle = none) := by
  unfold retainNative
  rw [ends_bind, ends_get]
  cases found : store.natives.get? handle with
  | some object => exact ⟨object, rfl, rfl⟩
  | none => exact ⟨rfl, rfl, rfl⟩

theorem ends_releaseNative {handle : NativeHandle} :
    Ends (releaseNative handle) store
      (fun _ after => (∃ object, store.natives.get? handle = some object) ∧
        after = store.dropped handle)
      (fun e after => after = store.dropped handle ∧ e = .invalidNativeHandle "object" handle ∧
        store.natives.get? handle = none) := by
  unfold releaseNative dropped
  rw [ends_bind, ends_get]
  cases found : store.natives.get? handle with
  | some object => exact ⟨⟨object, rfl⟩, rfl⟩
  | none => exact ⟨rfl, rfl, rfl⟩

theorem ends_retain {handle : Handle kind} :
    Ends (retain handle) store
      (fun _ after => ∃ wrapper, store.wrappers.get? handle.id = some wrapper ∧
        wrapper.data.kind = kind ∧
        after = store.recounted handle.id { wrapper with refs := wrapper.refs + 1 })
      (fun e after => after = store ∧ e = .invalidHandle kind.name handle.id ∧
        ¬ store.HasWrapper handle) := by
  refine ends_wrapper.bind ?_
  rintro wrapper _ ⟨rfl, found, isKind⟩
  exact ⟨wrapper, found, isKind, rfl⟩

/-- How dropping a reference to a live wrapper changes the store. -/
inductive Released (store : Store) (id : Nat) (wrapper : Wrapper) : Store → Prop
  | last (refs : wrapper.refs = 1) : Released store id wrapper (store.discarded id wrapper)
  | another {rest : Nat} (refs : wrapper.refs = rest + 2) :
      Released store id wrapper (store.recounted id { wrapper with refs := rest + 1 })

/-- Dropping a reference fails without effect at a wrapper that is not live or has no reference
left, and after the wrapper's end where the native object that it owns is gone. -/
theorem ends_release {handle : Handle kind} :
    Ends (release handle) store
      (fun _ after => ∃ wrapper, store.wrappers.get? handle.id = some wrapper ∧
        wrapper.data.kind = kind ∧ store.Released handle.id wrapper after)
      (fun e after =>
        (after = store ∧ e = .invalidHandle kind.name handle.id ∧ ¬ store.HasWrapper handle) ∨
        ∃ wrapper, store.wrappers.get? handle.id = some wrapper ∧ wrapper.data.kind = kind ∧
          ((wrapper.refs = 0 ∧ after = store ∧ e = .refCountUnderflow kind.name handle.id) ∨
            (store.Released handle.id wrapper after ∧ wrapper.refs = 1 ∧
              wrapper.ownsNative = true ∧ store.natives.get? wrapper.native = none ∧
              e = .invalidNativeHandle "object" wrapper.native))) := by
  refine (ends_wrapper.imp (fun _ _ found => found) fun _ _ => Or.inl).bind ?_
  rintro ⟨data, native, refs, ownsNative⟩ _ ⟨rfl, found, isKind⟩
  rename_i store
  match refs with
  | 0 => exact Or.inr ⟨_, found, isKind, Or.inl ⟨rfl, rfl, rfl⟩⟩
  | 1 =>
      have last : store.Released handle.id ⟨data, native, 1, ownsNative⟩ _ := .last rfl
      unfold discarded at last
      cases ownsNative with
      | false => exact ⟨_, found, isKind, last⟩
      | true =>
          refine Ends.imp ends_releaseNative ?_ ?_
          · rintro _ _ ⟨-, rfl⟩
            exact ⟨_, found, isKind, last⟩
          · rintro e _ ⟨rfl, cause, dead⟩
            exact Or.inr ⟨_, found, isKind, Or.inr ⟨last, rfl, rfl, dead, cause⟩⟩
  | rest + 2 => exact ⟨_, found, isKind, .another rfl⟩

/-! ### What is left of a native object -/

section SameData

variable {after : Store} {handle native : NativeHandle} {id : Nat} {wrapper : Wrapper}

/-- What is known of a native object is what was known of it before, if it is still there. -/
def SameData (handle : NativeHandle) (store after : Store) : Prop :=
  ∀ object, after.natives.get? handle = some object →
    ∃ refs, store.natives.get? handle = some ⟨object.data, refs⟩

theorem SameData.of_eq (same : after.natives.get? handle = store.natives.get? handle) :
    SameData handle store after :=
  fun object found => ⟨object.refs, same ▸ found⟩

theorem get?_dropped_of_ne (different : native ≠ handle) :
    (store.dropped native).natives.get? handle = store.natives.get? handle := by
  unfold dropped
  split
  · split
    · rw [Ledger.get?_erase, if_neg different]
    · rw [recorded, Ledger.get?_set, if_neg different]
  · rfl

theorem sameData_dropped (native handle : NativeHandle) :
    SameData handle store (store.dropped native) := by
  intro object found
  unfold dropped at found
  split at found
  · rename_i old known
    split at found
    · rw [Ledger.get?_erase] at found
      split at found
      · contradiction
      · exact ⟨object.refs, found⟩
    · rcases recorded_cases found with ⟨rfl, rfl⟩ | found
      · exact ⟨old.refs, known⟩
      · exact ⟨object.refs, found⟩
  · exact ⟨object.refs, found⟩

/-- A wrapper that ends leaves every native object alone but one that it owns. -/
theorem get?_discarded_of_not_owned
    (unowned : ¬ (wrapper.ownsNative = true ∧ wrapper.native = handle)) :
    (store.discarded id wrapper).natives.get? handle = store.natives.get? handle := by
  unfold discarded
  split
  · rename_i owns
    exact get?_dropped_of_ne fun isNative => unowned ⟨owns, isNative⟩
  · rfl

theorem sameData_discarded (handle : NativeHandle) :
    SameData handle store (store.discarded id wrapper) := by
  unfold discarded
  split
  · exact sameData_dropped wrapper.native handle
  · exact .of_eq rfl

end SameData

/-! ### Counting keeps the form -/

theorem recounted_cases {id other : Nat} {wrapper found : Wrapper}
    (live : (store.recounted id wrapper).wrappers.get? other = some found) :
    (other = id ∧ found = wrapper) ∨ store.wrappers.get? other = some found := by
  rw [recounted, Ledger.get?_set] at live
  split at live
  · rename_i equal
    exact Or.inl ⟨equal.symm, (Option.some.inj live).symm⟩
  · exact Or.inr live

theorem unwrapped_cases {id other : Nat} {found : Wrapper}
    (live : (store.unwrapped id).wrappers.get? other = some found) :
    other ≠ id ∧ store.wrappers.get? other = some found := by
  rw [unwrapped, Ledger.get?_erase] at live
  split at live
  · contradiction
  · rename_i different
    exact ⟨Ne.symm different, live⟩

/-- The wrappers of platforms and devices are not counted. -/
theorem WellFormed.recounted (formed : store.WellFormed) {id refs : Nat} {wrapper : Wrapper}
    (found : store.wrappers.get? id = some wrapper)
    (ordinary : wrapper.data.kind ≠ .platform ∧ wrapper.data.kind ≠ .device) :
    (store.recounted id { wrapper with refs := refs }).WellFormed := by
  have others : ∀ {known : WrapperData} {cache : Ledger NativeHandle (Handle known.kind)},
      wrapper.data.kind ≠ known.kind → Caches known store.wrappers cache →
      Caches known (store.recounted id { wrapper with refs := refs }).wrappers cache := by
    intro known cache other caches
    constructor
    case wrapped =>
      intro native handle member
      have live := caches.wrapped native handle member
      rw [Store.recounted, Ledger.get?_set, if_neg]
      · exact live
      · rintro rfl
        rw [live] at found
        cases found
        exact other rfl
    case known =>
      intro other' wrapper' live isKind
      rcases recounted_cases live with ⟨-, rfl⟩ | live
      · exact absurd isKind other
      · exact caches.known other' wrapper' live isKind
  refine ⟨?_, others ordinary.1 formed.platforms, others ordinary.2 formed.devices⟩
  constructor
  case native_lt => exact formed.native_lt
  case wrapper_lt =>
    intro other wrapper' live
    rcases recounted_cases live with ⟨rfl, -⟩ | live
    · exact formed.wrapper_lt other wrapper found
    · exact formed.wrapper_lt other wrapper' live
  case behind_lt =>
    intro other wrapper' live
    rcases recounted_cases live with ⟨-, rfl⟩ | live
    · exact formed.behind_lt id wrapper found
    · exact formed.behind_lt other wrapper' live
  case kind_eq =>
    intro other wrapper' object live behind
    rcases recounted_cases live with ⟨-, rfl⟩ | live
    · exact formed.kind_eq id wrapper object found behind
    · exact formed.kind_eq other wrapper' object live behind
  case tidy => exact formed.tidy
  case held => exact formed.held
  case targeted =>
    have kept : ∀ device : DeviceHandle, store.HasWrapper device →
        (store.recounted id { wrapper with refs := refs }).HasWrapper device := by
      rintro device ⟨wrapper', live, isDevice⟩
      refine ⟨wrapper', ?_, isDevice⟩
      rw [Store.recounted, Ledger.get?_set, if_neg]
      · exact live
      · rintro rfl
        rw [live] at found
        cases found
        exact ordinary.2 isDevice
    intro other wrapper' record live isQueue
    rcases recounted_cases live with ⟨-, rfl⟩ | live
    · exact kept _ (formed.targeted id wrapper record found isQueue)
    · exact kept _ (formed.targeted other wrapper' record live isQueue)

theorem WellFormed.unwrapped (formed : store.WellFormed) {id : Nat} {wrapper : Wrapper}
    (found : store.wrappers.get? id = some wrapper)
    (ordinary : wrapper.data.kind ≠ .platform ∧ wrapper.data.kind ≠ .device) :
    (store.unwrapped id).WellFormed := by
  have others : ∀ {known : WrapperData} {cache : Ledger NativeHandle (Handle known.kind)},
      wrapper.data.kind ≠ known.kind → Caches known store.wrappers cache →
      Caches known (store.unwrapped id).wrappers cache := by
    intro known cache other caches
    constructor
    case wrapped =>
      intro native handle member
      have live := caches.wrapped native handle member
      rw [Store.unwrapped, Ledger.get?_erase, if_neg]
      · exact live
      · rintro rfl
        rw [live] at found
        cases found
        exact other rfl
    case known =>
      intro other' wrapper' live isKind
      exact caches.known other' wrapper' (unwrapped_cases live).2 isKind
  refine ⟨?_, others ordinary.1 formed.platforms, others ordinary.2 formed.devices⟩
  constructor
  case native_lt => exact formed.native_lt
  case wrapper_lt => exact fun other _ live => formed.wrapper_lt other _ (unwrapped_cases live).2
  case behind_lt => exact fun other _ live => formed.behind_lt other _ (unwrapped_cases live).2
  case kind_eq =>
    exact fun other _ object live => formed.kind_eq other _ object (unwrapped_cases live).2
  case tidy => exact formed.tidy
  case held => exact formed.held
  case targeted =>
    intro other wrapper' record live isQueue
    rcases formed.targeted other wrapper' record (unwrapped_cases live).2 isQueue with
      ⟨device, found', isDevice⟩
    refine ⟨device, ?_, isDevice⟩
    rw [Store.unwrapped, Ledger.get?_erase, if_neg]
    · exact found'
    · rintro rfl
      rw [found'] at found
      cases found
      exact ordinary.2 isDevice

theorem WellFormed.renewed (formed : store.WellFormed) {handle : NativeHandle} {refs : Nat}
    {object : NativeObject} (found : store.natives.get? handle = some object) (held : 0 < refs) :
    (store.recorded handle { object with refs := refs }).WellFormed :=
  ⟨formed.toTabled.recorded found rfl (formed.tidy handle object found) held, formed.platforms,
    formed.devices⟩

theorem WellFormed.dropped (formed : store.WellFormed) (handle : NativeHandle) :
    (store.dropped handle).WellFormed := by
  unfold Store.dropped
  cases found : store.natives.get? handle with
  | none => exact formed
  | some object =>
      dsimp only
      split
      · have fewer : ∀ {other : NativeHandle} {live : NativeObject},
            (store.natives.erase handle).get? other = some live →
            store.natives.get? other = some live := by
          intro other live member
          rw [Ledger.get?_erase] at member
          split at member
          · contradiction
          · exact member
        refine ⟨?_, formed.platforms, formed.devices⟩
        constructor
        case native_lt => exact fun other _ live => formed.native_lt other _ (fewer live)
        case wrapper_lt => exact formed.wrapper_lt
        case behind_lt => exact formed.behind_lt
        case kind_eq =>
          exact fun id wrapper _ live behind =>
            formed.kind_eq id wrapper _ live (fewer behind)
        case tidy => exact fun other _ live => formed.tidy other _ (fewer live)
        case held => exact fun other _ live => formed.held other _ (fewer live)
        case targeted => exact formed.targeted
      · rename_i several
        exact formed.renewed found (by omega)

theorem Released.wellFormed {id : Nat} {wrapper : Wrapper} {after : Store}
    (released : store.Released id wrapper after) (formed : store.WellFormed)
    (found : store.wrappers.get? id = some wrapper)
    (ordinary : wrapper.data.kind ≠ .platform ∧ wrapper.data.kind ≠ .device) :
    after.WellFormed := by
  cases released with
  | last =>
      have formed' := formed.unwrapped found ordinary
      unfold discarded
      split
      · exact formed'.dropped wrapper.native
      · exact formed'
  | another => exact formed.recounted found ordinary

end ComputeImport.Store
