import ComputeImport.Proofs.Simulator.Moves
import ComputeImport.Proofs.Simulator.Wrapping

/-!
# The wrappers of platforms and devices

The wrapper of a platform or of a device is made when it is first needed, and no operation takes it
away: from then on, one handle stands for one native object.  What is known of a native device does
not change either, so that a device that has been placed on a platform stays there.
-/

namespace ComputeImport

namespace Store

variable {store after : Store} {wraps : ObjectKind → Prop}

/-- The wrappers of platforms and devices that a store has made are known still. -/
structure Remembers (store after : Store) : Prop where
  platforms : ∀ native handle, store.platformWrappers.get? native = some handle →
    after.platformWrappers.get? native = some handle
  devices : ∀ native handle, store.deviceWrappers.get? native = some handle →
    after.deviceWrappers.get? native = some handle

theorem Remembers.refl (store : Store) : store.Remembers store :=
  ⟨fun _ _ known => known, fun _ _ known => known⟩

theorem Remembers.trans {middle : Store} (first : store.Remembers middle)
    (second : middle.Remembers after) : store.Remembers after := by
  constructor
  case platforms =>
    exact fun native handle known => second.platforms native handle (first.platforms _ _ known)
  case devices =>
    exact fun native handle known => second.devices native handle (first.devices _ _ known)

theorem Remembers.of_caches (platforms : after.platformWrappers = store.platformWrappers)
    (devices : after.deviceWrappers = store.deviceWrappers) : store.Remembers after := by
  constructor
  case platforms => exact fun _ _ known => by rw [platforms]; exact known
  case devices => exact fun _ _ known => by rw [devices]; exact known

theorem Growth.remembers (growth : Growth wraps store after) : store.Remembers after := by
  constructor
  case devices => exact fun _ _ known => growth.get?_deviceWrappers known
  case platforms =>
    intro native handle known
    cases growth with
    | created | recorded | wrapped | device => exact known
    | platform live unknown =>
        rw [Ledger.get?_set, if_neg]
        · exact known
        · rintro rfl
          rw [unknown] at known
          contradiction

theorem Grows.remembers (grows : Grows wraps store after) : store.Remembers after := by
  induction grows with
  | refl => exact .refl _
  | tail _ growth ih => exact ih.trans growth.remembers

theorem remembers_dropped (store : Store) (handle : NativeHandle) :
    store.Remembers (store.dropped handle) := by
  unfold dropped
  split
  · split <;> exact .of_caches rfl rfl
  · exact .refl store

theorem remembers_discarded (store : Store) (id : Nat) (wrapper : Wrapper) :
    store.Remembers (store.discarded id wrapper) := by
  have unwrapped : store.Remembers (store.unwrapped id) := .of_caches rfl rfl
  unfold discarded
  split
  · exact unwrapped.trans (remembers_dropped _ _)
  · exact unwrapped

/-! ## Handles and what they stand for -/

section Behind

variable {native other : NativeHandle} {device : DeviceHandle}

/-- A device has one handle, under which it is known. -/
theorem WellFormed.device_known (formed : store.WellFormed) (behind : store.Behind device native) :
    store.deviceWrappers.get? native = some device := by
  obtain ⟨wrapper, found, isKind, rfl⟩ := behind
  exact formed.devices.known _ wrapper found isKind

/-- Two devices have the same handle just where they are the same native device. -/
theorem WellFormed.device_eq_iff (formed : store.WellFormed) {device' : DeviceHandle}
    (known : store.deviceWrappers.get? native = some device)
    (known' : store.deviceWrappers.get? other = some device') :
    native = other ↔ device = device' := by
  constructor
  · rintro rfl
    exact Option.some.inj (known.symm.trans known')
  · rintro rfl
    exact (formed.behind_device known).unique (formed.behind_device known')

end Behind

/-- A device and a platform are known by their handles, and the device is one of the platform, as
long as it is live. -/
structure Places (store : Store) (native platform : NativeHandle) (device : DeviceHandle)
    (on : PlatformHandle) : Prop where
  device_known : store.deviceWrappers.get? native = some device
  platform_known : store.platformWrappers.get? platform = some on
  data : ∀ object, store.natives.get? native = some object → object.data = .device platform

section Places

variable {native platform : NativeHandle} {device : DeviceHandle} {on : PlatformHandle}

theorem Places.below (places : store.Places native platform device on)
    (formed : store.WellFormed) : native.raw < store.nextNative :=
  formed.behind_lt _ _ (formed.devices.wrapped native device places.device_known)

/-- Where a device is live, the platform that it is one of places it. -/
theorem Places.of_live {refs : Nat} (known : store.deviceWrappers.get? native = some device)
    (on_known : store.platformWrappers.get? platform = some on)
    (found : store.natives.get? native = some ⟨.device platform, refs⟩) :
    store.Places native platform device on := by
  refine ⟨known, on_known, fun object found' => ?_⟩
  obtain rfl := Option.some.inj (found.symm.trans found')
  rfl

end Places

end Store

namespace Simulator

variable {sim : Simulator} {history : List Operation}

theorem Moves.remembers {operation : Operation} {after : Store} (moves : Moves sim operation after) :
    sim.store.Remembers after := by
  cases moves with
  | grown _ grows => exact grows.remembers
  | recounted | taken => exact .of_caches rfl rfl
  | discarded => exact Store.remembers_discarded _ _ _
  | returned => exact Store.remembers_dropped _ _

theorem remembers_replay (formed : sim.store.WellFormed) (history : List Operation) :
    sim.store.Remembers (sim.replay history).store := by
  induction history generalizing sim with
  | nil => exact .refl _
  | cons operation history ih =>
      exact (moves_after formed operation).remembers.trans (ih (wellFormed_after formed operation))

/-- What is known of a device that has been wrapped does not change. -/
theorem device_replay (formed : sim.store.WellFormed) {native platform : NativeHandle}
    (below : native.raw < sim.store.nextNative)
    (data : ∀ object, sim.store.natives.get? native = some object →
      object.data = .device platform) {object : NativeObject}
    (found : (sim.replay history).store.natives.get? native = some object) :
    object.data = .device platform := by
  obtain ⟨old, known, becomes⟩ := becomes_replay formed below found
  have isDevice := data old known
  rw [isDevice] at becomes
  exact becomes.eq nofun

/-- A device that has been placed on a platform stays there. -/
theorem places_replay (formed : sim.store.WellFormed) {native platform : NativeHandle}
    {device : DeviceHandle} {on : PlatformHandle}
    (places : sim.store.Places native platform device on) (history : List Operation) :
    (sim.replay history).store.Places native platform device on := by
  have remembers := remembers_replay formed history
  constructor
  case device_known => exact remembers.devices native device places.device_known
  case platform_known => exact remembers.platforms platform on places.platform_known
  case data => exact fun object => device_replay formed (places.below formed) places.data

/-! ## Wrapping a platform or a device -/

theorem answers_platformCreate {native : NativeHandle} :
    Answers (.platformCreate native) (platformCreate native) sim
      (fun handle store => sim.store.Quiet store ∧
        store.platformWrappers.get? native = some handle ∧ sim.store.HasNative .platform native)
      (fun _ store => store = sim.store ∧ ¬ sim.store.HasNative .platform native) := by
  refine (Works.onStore ?_).answers
  apply Store.ends_wrapPlatform.imp
  · exact fun _ _ wrapped => wrapped
  · exact fun _ _ failed => ⟨failed.1, failed.2.2⟩

theorem answers_deviceCreate {native : NativeHandle} :
    Answers (.deviceCreate native none) (deviceCreate native none) sim
      (fun handle store => sim.store.Quiet store ∧
        store.deviceWrappers.get? native = some handle ∧ sim.store.HasNative .device native)
      (fun _ store => store = sim.store ∧ ¬ sim.store.HasNative .device native) := by
  refine (Works.onStore ?_).answers
  apply Store.ends_wrapDevice.imp
  · exact fun _ _ wrapped => wrapped
  · exact fun _ _ failed => ⟨failed.1, failed.2.2⟩

end Simulator

end ComputeImport
