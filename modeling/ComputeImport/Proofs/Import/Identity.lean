import ComputeImport.Proofs.Import.Caches
import ComputeImport.Proofs.Import.Parts
import ComputeImport.Proofs.Simulator.Placing

/-!
# Which managed platform and device a handle leads to

Platforms and devices are found by their handles in the caches, as long as they are alive, and are made
where none is found.  `Identified` says what this keeps, in the middle of an import too: no two of those
that are alive have the same handle, a device is on the platform of its native device, and an identity
is given once.  All calls of the backend keep it, so that only the two searches have to be looked at.
They bring back what is alive as long as the caches lead to it.
-/

namespace ComputeImport

/-! ## Objects that are found by a key -/

/-- No two of the living have the same key.  Each has been given its identity, and was alive before
identities from a bound on were given or else has one of these. -/
structure Found {α κ : Type} (identity : α → Nat) (key : α → κ) (old : List α) (bound next : Nat)
    (living : List α) : Prop where
  unique : ∀ a ∈ living, ∀ b ∈ living, key a = key b → a = b
  given : ∀ a ∈ living, identity a < next
  since : ∀ a ∈ living, a ∈ old ∨ bound ≤ identity a

namespace Found

variable {α κ : Type} {identity : α → Nat} {key : α → κ} {old living living' : List α}
  {bound next next' : Nat}

theorem empty : Found identity key old bound next [] := by
  constructor <;> simp

theorem mono (found : Found identity key old bound next living) (fewer : living' ⊆ living)
    (later : next ≤ next') : Found identity key old bound next' living' := by
  constructor
  case unique => exact fun a ha b hb => found.unique a (fewer ha) b (fewer hb)
  case given => exact fun a member => Nat.lt_of_lt_of_le (found.given a (fewer member)) later
  case since => exact fun a member => found.since a (fewer member)

/-- One more object, of which the key has not been found and the identity is the next one. -/
theorem cons {a : α} (found : Found identity key old bound next living) (le : bound ≤ next)
    (isNext : identity a = next) (isNew : ∀ b ∈ living, key b ≠ key a) :
    Found identity key old bound (next + 1) (a :: living) := by
  constructor
  case unique =>
    rintro b isB c isC same
    rcases List.mem_cons.mp isB with rfl | memberB <;> rcases List.mem_cons.mp isC with rfl | memberC
    · rfl
    · exact absurd same.symm (isNew c memberC)
    · exact absurd same (isNew b memberB)
    · exact found.unique b memberB c memberC same
  case given =>
    rintro b isB
    rcases List.mem_cons.mp isB with rfl | member
    · exact isNext ▸ Nat.lt_succ_self next
    · exact Nat.lt_succ_of_lt (found.given b member)
  case since =>
    rintro b isB
    rcases List.mem_cons.mp isB with rfl | member
    · exact Or.inr (isNext ▸ le)
    · exact found.since b member

/-- What is alive now is what was alive, from now on. -/
theorem rebase (found : Found identity key old bound next living) :
    Found identity key living next next living :=
  ⟨found.unique, found.given, fun _ member => Or.inl member⟩

end Found

/-! ## Platforms and devices that are alive -/

theorem Managed.platform_mem {value : Managed} {device : Device} (member : device ∈ value.devices) :
    device.platform ∈ value.platforms := by
  cases value with
  | platform => exact absurd member List.not_mem_nil
  | _ => exact List.mem_map_of_mem member

namespace Host

/-- The devices that pending values and the held ones lead to. -/
def livingDevices (host : Host) (pending : List Managed) : List Device :=
  pending.flatMap Managed.devices ++ host.devices

/-- The platforms that pending values and the held ones lead to. -/
def livingPlatforms (host : Host) (pending : List Managed) : List Platform :=
  pending.flatMap Managed.platforms ++ host.platforms

theorem mem_livingDevices {host : Host} {pending : List Managed} {device : Device} :
    device ∈ host.livingDevices pending ↔
      ∃ value ∈ pending ++ host.held.values, device ∈ value.devices := by
  rw [livingDevices, devices, ← List.flatMap_append, List.mem_flatMap]

theorem mem_livingPlatforms {host : Host} {pending : List Managed} {platform : Platform} :
    platform ∈ host.livingPlatforms pending ↔
      ∃ value ∈ pending ++ host.held.values, platform ∈ value.platforms := by
  rw [livingPlatforms, platforms, ← List.flatMap_append, List.mem_flatMap]

/-- The caches lead to all platforms and devices that pending values and the held ones lead to. -/
def CoversLiving (host : Host) (pending : List Managed) : Prop :=
  host.Covers (host.livingPlatforms pending) (host.livingDevices pending)

theorem livingDevices_of_held {host after : Host} (held : after.held = host.held)
    (pending : List Managed) : after.livingDevices pending = host.livingDevices pending := by
  rw [livingDevices, livingDevices, devices_of_held held]

theorem livingPlatforms_of_held {host after : Host} (held : after.held = host.held)
    (pending : List Managed) : after.livingPlatforms pending = host.livingPlatforms pending := by
  rw [livingPlatforms, livingPlatforms, platforms_of_held held]

/-- The platform of a living device is alive. -/
theorem platform_mem_living {host : Host} {pending : List Managed} {device : Device}
    (living : device ∈ host.livingDevices pending) :
    device.platform ∈ host.livingPlatforms pending := by
  obtain ⟨value, member, isDevice⟩ := mem_livingDevices.mp living
  exact mem_livingPlatforms.mpr ⟨value, member, Managed.platform_mem isDevice⟩

/-- Since a start, the platforms and the devices of one provider have been found by their handles,
and every device is on the platform of its native device. -/
structure Identified (provider : Provider) (start : Host) (pending : List Managed) (host : Host) :
    Prop where
  started : (start.simulator provider.table.simulator).store.WellFormed
  later : ∃ history, host.simulator provider.table.simulator =
    (start.simulator provider.table.simulator).replay history
  bound : start.nextIdentity ≤ host.nextIdentity
  platforms : Found Platform.identity Platform.handle start.platforms start.nextIdentity
    host.nextIdentity (host.livingPlatforms pending)
  devices : Found Device.identity Device.handle start.devices start.nextIdentity
    host.nextIdentity (host.livingDevices pending)
  provided : ∀ platform ∈ host.livingPlatforms pending, platform.provider = provider
  /-- The native device is known by its handle, the platform that it is one of by the handle of the
  managed platform, and it was one of that platform at the start. -/
  placed : ∀ device ∈ host.livingDevices pending, ∃ native platform,
    (host.simulator provider.table.simulator).store.Places native platform device.handle
        device.platform.handle ∧
      ∀ object, (start.simulator provider.table.simulator).store.natives.get? native =
        some object → object.data = .device platform

section Identified

variable {provider : Provider} {start host after : Host} {pending pending' : List Managed}

theorem Identified.formed (identified : Identified provider start pending host) :
    (host.simulator provider.table.simulator).store.WellFormed := by
  obtain ⟨history, same⟩ := identified.later
  rw [same]
  exact Simulator.wellFormed_replay identified.started history

/-- Nothing is asked of what is not alive any more. -/
theorem Identified.fewer (identified : Identified provider start pending host)
    (same : after.simulators = host.simulators) (later : host.nextIdentity ≤ after.nextIdentity)
    (devices : after.livingDevices pending' ⊆ host.livingDevices pending)
    (platforms : after.livingPlatforms pending' ⊆ host.livingPlatforms pending) :
    Identified provider start pending' after := by
  have equal : after.simulator provider.table.simulator =
      host.simulator provider.table.simulator :=
    simulator_of_simulators same _
  constructor
  case started => exact identified.started
  case later =>
    rw [equal]
    exact identified.later
  case bound => exact Nat.le_trans identified.bound later
  case platforms => exact identified.platforms.mono platforms later
  case devices => exact identified.devices.mono devices later
  case provided => exact fun platform member => identified.provided platform (platforms member)
  case placed =>
    intro device member
    rw [equal]
    exact identified.placed device (devices member)

/-- Pending values that lead to nothing but what is alive already. -/
theorem Identified.pend (identified : Identified provider start pending host)
    (devices : ∀ value ∈ pending', value.devices ⊆ host.livingDevices pending)
    (platforms : ∀ value ∈ pending', value.platforms ⊆ host.livingPlatforms pending) :
    Identified provider start pending' host := by
  apply identified.fewer rfl (Nat.le_refl _)
  · intro device member
    rcases List.mem_append.mp member with isPending | isHeld
    · obtain ⟨value, isValue, isDevice⟩ := List.mem_flatMap.mp isPending
      exact devices value isValue isDevice
    · exact List.mem_append_right _ isHeld
  · intro platform member
    rcases List.mem_append.mp member with isPending | isHeld
    · obtain ⟨value, isValue, isPlatform⟩ := List.mem_flatMap.mp isPending
      exact platforms value isValue isPlatform
    · exact List.mem_append_right _ isHeld

/-- Fewer pending values. -/
theorem Identified.sub (identified : Identified provider start pending host)
    (fewer : pending' ⊆ pending) : Identified provider start pending' host := by
  apply identified.pend
  · intro value member device isDevice
    exact List.mem_append_left _ (List.mem_flatMap.mpr ⟨value, fewer member, isDevice⟩)
  · intro value member platform isPlatform
    exact List.mem_append_left _ (List.mem_flatMap.mpr ⟨value, fewer member, isPlatform⟩)

/-- A value that leads to devices of pending values or held ones only. -/
theorem Identified.pend_devices (identified : Identified provider start pending host)
    {value : Managed} (own : value.platforms = value.devices.map Device.platform)
    (devices : value.devices ⊆ host.livingDevices pending) :
    Identified provider start [value] host := by
  apply identified.pend
  · intro other member
    obtain rfl := List.mem_singleton.mp member
    exact devices
  · intro other member platform isPlatform
    obtain rfl := List.mem_singleton.mp member
    rw [own] at isPlatform
    obtain ⟨device, isDevice, rfl⟩ := List.mem_map.mp isPlatform
    exact platform_mem_living (devices isDevice)

theorem Identified.drop (identified : Identified provider start pending host) :
    Identified provider start [] host :=
  identified.pend (fun _ => nofun) fun _ => nofun

/-- Whatever happens at the backend, nothing changes for what is alive. -/
theorem Identified.replay (identified : Identified provider start pending host)
    (history : List Simulator.Operation) (held : after.held = host.held)
    (bound : host.nextIdentity ≤ after.nextIdentity)
    (led : after.simulator provider.table.simulator =
      (host.simulator provider.table.simulator).replay history) :
    Identified provider start pending after := by
  have devices := livingDevices_of_held held pending
  have platforms := livingPlatforms_of_held held pending
  constructor
  case started => exact identified.started
  case later =>
    obtain ⟨before, same⟩ := identified.later
    exact ⟨before ++ history, by rw [led, same, Simulator.replay_append]⟩
  case bound => exact Nat.le_trans identified.bound bound
  case platforms =>
    rw [platforms]
    exact identified.platforms.mono (List.Subset.refl _) bound
  case devices =>
    rw [devices]
    exact identified.devices.mono (List.Subset.refl _) bound
  case provided =>
    rw [platforms]
    exact identified.provided
  case placed =>
    intro device member
    rw [devices] at member
    obtain ⟨native, platform, places, data⟩ := identified.placed device member
    refine ⟨native, platform, ?_, data⟩
    rw [led]
    exact Simulator.places_replay identified.formed places history

theorem Identified.notify (identified : Identified provider start pending host) (notice : Notice) :
    Identified provider start pending (host.notify notice) :=
  identified.replay [] rfl (Nat.le_refl _) rfl

theorem Identified.fresh (identified : Identified provider start pending host) :
    Identified provider start pending { host with nextIdentity := host.nextIdentity + 1 } :=
  identified.replay [] rfl (Nat.le_succ _) rfl

/-- An operation at any backend. -/
theorem Identified.advance (identified : Identified provider start pending host) (number : Nat)
    (operation : Simulator.Operation) :
    Identified provider start pending
      (host.advance number ((host.simulator number).after operation)) := by
  by_cases own : number = provider.table.simulator
  · subst own
    exact identified.replay [operation] rfl (Nat.le_refl _) (simulator_advance_self _ _)
  · refine identified.replay [] rfl (Nat.le_refl _) ?_
    rw [simulator_advance, if_neg own]
    rfl

theorem respects_identified :
    Respects (fun _ => True) (fun _ => True) (Identified provider start pending) := by
  apply Respects.uncached
  case call => exact fun _ number call _ _ identified => identified.advance number (.call call)
  case other =>
    intro host after same held bound identified
    refine identified.replay [] held bound ?_
    exact simulator_of_simulators same _

theorem Identified.only {ε α : Type} {body : EStateM ε Host α}
    (identified : Identified provider start pending host) (uses : OnlyCalls body) :
    Ends body host (fun _ after => Identified provider start pending after)
      (fun _ after => Identified provider start pending after) :=
  (uses _ respects_identified).ends host identified

/-- From here on, what is alive now is what was alive at the start. -/
theorem Identified.rebase (identified : Identified provider start [] host) :
    Identified provider host [] host := by
  constructor
  case started => exact identified.formed
  case later => exact ⟨[], rfl⟩
  case bound => exact Nat.le_refl _
  case platforms => exact identified.platforms.rebase
  case devices => exact identified.devices.rebase
  case provided => exact identified.provided
  case placed =>
    intro device member
    obtain ⟨native, platform, places, -⟩ := identified.placed device member
    exact ⟨native, platform, places, places.data⟩

/-- Where nothing is held, nothing is alive. -/
theorem Identified.empty
    (formed : (host.simulator provider.table.simulator).store.WellFormed) (held : host.held = {}) :
    Identified provider host [] host := by
  have devices : host.livingDevices [] = [] := by
    rw [livingDevices, Host.devices, held]
    rfl
  have platforms : host.livingPlatforms [] = [] := by
    rw [livingPlatforms, Host.platforms, held]
    rfl
  constructor
  case started => exact formed
  case later => exact ⟨[], rfl⟩
  case bound => exact Nat.le_refl _
  case platforms => exact platforms ▸ .empty
  case devices => exact devices ▸ .empty
  case provided =>
    rw [platforms]
    exact List.forall_mem_nil _
  case placed =>
    rw [devices]
    exact List.forall_mem_nil _

/-- One more value that leads to nothing but what is alive already. -/
theorem Identified.cons (identified : Identified provider start pending host) {value : Managed}
    (devices : value.devices ⊆ host.livingDevices pending)
    (platforms : value.platforms ⊆ host.livingPlatforms pending) :
    Identified provider start (value :: pending) host := by
  apply identified.fewer rfl (Nat.le_refl _)
  · intro device member
    obtain ⟨other, isOther, isDevice⟩ := mem_livingDevices.mp member
    rcases List.mem_cons.mp isOther with rfl | isOther
    · exact devices isDevice
    · exact mem_livingDevices.mpr ⟨other, isOther, isDevice⟩
  · intro platform member
    obtain ⟨other, isOther, isPlatform⟩ := mem_livingPlatforms.mp member
    rcases List.mem_cons.mp isOther with rfl | isOther
    · exact platforms isPlatform
    · exact mem_livingPlatforms.mpr ⟨other, isOther, isPlatform⟩

/-! ## The searches -/

/-- A platform that is brought back by its handle. -/
theorem Identified.search_platform (identified : Identified provider start pending host)
    {handle : PlatformHandle} {platform : Platform}
    (searched : host.Searched (host.livingPlatforms pending) Platform.identity
      (fun platform => platform.provider = provider ∧ platform.handle = handle) platform after) :
    Identified provider start (.platform platform :: pending) after := by
  have devices : after.livingDevices (.platform platform :: pending) = host.livingDevices pending :=
    livingDevices_of_held searched.held pending
  have platforms : after.livingPlatforms (.platform platform :: pending) =
      platform :: host.livingPlatforms pending :=
    congrArg (platform :: ·) (livingPlatforms_of_held searched.held pending)
  rcases searched.found with ⟨living, next⟩ | ⟨isNext, next, isNew⟩
  · apply identified.fewer searched.simulators (Nat.le_of_eq next.symm)
    · exact devices ▸ List.Subset.refl _
    · exact platforms ▸ List.cons_subset.mpr ⟨living, List.Subset.refl _⟩
  have equal := simulator_of_simulators searched.simulators provider.table.simulator
  constructor
  case started => exact identified.started
  case later =>
    rw [equal]
    exact identified.later
  case bound =>
    rw [next]
    exact Nat.le_succ_of_le identified.bound
  case platforms =>
    rw [platforms, next]
    refine identified.platforms.cons identified.bound isNext fun other living isHandle => ?_
    exact isNew other living
      ⟨identified.provided other living, isHandle.trans searched.isWanted.2⟩
  case devices =>
    rw [devices, next]
    exact identified.devices.mono (List.Subset.refl _) (Nat.le_succ _)
  case provided =>
    rw [platforms]
    exact List.forall_mem_cons.mpr ⟨searched.isWanted.1, identified.provided⟩
  case placed =>
    rw [devices, equal]
    exact identified.placed

/-- A native device is live and known by a handle, and so is its platform. -/
structure Settles (host : Host) (provider : Provider) (handle : DeviceHandle)
    (on : PlatformHandle) (native platform : NativeHandle) : Prop where
  places : (host.simulator provider.table.simulator).store.Places native platform handle on
  live : (host.simulator provider.table.simulator).store.HasNative .device native

/-- A device that is live was on the same platform at the start. -/
theorem Identified.data_start (identified : Identified provider start pending host)
    {handle : DeviceHandle} {on : PlatformHandle} {native platform : NativeHandle}
    (settles : host.Settles provider handle on native platform) (object : NativeObject)
    (found : (start.simulator provider.table.simulator).store.natives.get? native = some object) :
    object.data = .device platform := by
  obtain ⟨history, same⟩ := identified.later
  obtain ⟨current, live, -⟩ := settles.live
  have isDevice := settles.places.data current live
  rw [same] at live
  have below := identified.started.native_lt native object found
  obtain ⟨old, known, becomes⟩ := Simulator.becomes_replay identified.started below live
  obtain rfl := Option.some.inj (found.symm.trans known)
  have isKind : object.data.kind = .device := by
    rw [← becomes.kind_eq, isDevice]
    rfl
  rw [← isDevice]
  exact (becomes.eq (by rw [isKind]; decide)).symm

/-- Whoever has the handle of a live device is on the platform of the device. -/
theorem Identified.platform_eq (identified : Identified provider start pending host)
    {platform : Platform} (living : platform ∈ host.livingPlatforms pending)
    {handle : DeviceHandle} {native on : NativeHandle}
    (settles : host.Settles provider handle platform.handle native on) {device : Device}
    (isDevice : device ∈ host.livingDevices pending) (isHandle : device.handle = handle) :
    device.platform = platform := by
  obtain ⟨native', on', places, -⟩ := identified.placed device isDevice
  have known := settles.places.device_known
  obtain ⟨object, live, -⟩ := settles.live
  obtain rfl : native = native' :=
    (identified.formed.device_eq_iff known places.device_known).mpr isHandle.symm
  have data : NativeData.device on = .device on' :=
    (settles.places.data object live).symm.trans (places.data object live)
  cases data
  have handles : platform.handle = device.platform.handle :=
    Option.some.inj (settles.places.platform_known.symm.trans places.platform_known)
  exact identified.platforms.unique _ (platform_mem_living isDevice) platform living handles.symm

/-- A device that is brought back by its handle, on its platform. -/
theorem Identified.search_device (identified : Identified provider start pending host)
    {platform : Platform} (living : platform ∈ host.livingPlatforms pending)
    {handle : DeviceHandle} {native on : NativeHandle}
    (settles : host.Settles provider handle platform.handle native on) {device : Device}
    (searched : host.Searched (host.livingDevices pending) Device.identity
      (fun device => device.platform = platform ∧ device.handle = handle) device after) :
    Identified provider start (.device device :: pending) after := by
  obtain ⟨isPlatform, isHandle⟩ := searched.isWanted
  have devices : after.livingDevices (.device device :: pending) =
      device :: host.livingDevices pending :=
    congrArg (device :: ·) (livingDevices_of_held searched.held pending)
  have platforms : after.livingPlatforms (.device device :: pending) =
      device.platform :: host.livingPlatforms pending :=
    congrArg (device.platform :: ·) (livingPlatforms_of_held searched.held pending)
  have known : after.livingPlatforms (.device device :: pending) ⊆ host.livingPlatforms pending := by
    rw [platforms, isPlatform]
    exact List.cons_subset.mpr ⟨living, List.Subset.refl _⟩
  rcases searched.found with ⟨living, next⟩ | ⟨isNext, next, isNew⟩
  · refine identified.fewer searched.simulators (Nat.le_of_eq next.symm) ?_ known
    exact devices ▸ List.cons_subset.mpr ⟨living, List.Subset.refl _⟩
  have equal := simulator_of_simulators searched.simulators provider.table.simulator
  constructor
  case started => exact identified.started
  case later =>
    rw [equal]
    exact identified.later
  case bound =>
    rw [next]
    exact Nat.le_succ_of_le identified.bound
  case platforms =>
    rw [next]
    exact identified.platforms.mono known (Nat.le_succ _)
  case devices =>
    rw [devices, next]
    refine identified.devices.cons identified.bound isNext fun other isOther same => ?_
    have isHandle' := same.trans isHandle
    exact isNew other isOther ⟨identified.platform_eq living settles isOther isHandle', isHandle'⟩
  case provided => exact fun other member => identified.provided other (known member)
  case placed =>
    rw [devices, equal]
    refine List.forall_mem_cons.mpr ⟨?_, identified.placed⟩
    rw [isPlatform, isHandle]
    exact ⟨native, on, settles.places, identified.data_start settles⟩

end Identified

end Host

section Searches

variable {ε : Type} {provider : Provider} {start host : Host} {given : List Device}

/-- A search among what is held and what is given looks at all that is alive. -/
theorem mem_searched_platforms {platform : Platform} :
    platform ∈ host.platforms ++ given.map Device.platform ↔
      platform ∈ host.livingPlatforms (given.map .device) := by
  simp [Host.livingPlatforms, List.flatMap_map, Managed.platforms, Managed.devices, or_comm, eq_comm]

theorem mem_searched_devices {device : Device} :
    device ∈ host.devices ++ given ↔ device ∈ host.livingDevices (given.map .device) := by
  simp [Host.livingDevices, List.flatMap_map, Managed.devices, or_comm]

/-- The platform that is found or made has the handle that was asked for. -/
theorem Host.Identified.findOrMakePlatform (given : List Device)
    (identified : start.Identified provider (given.map .device) host)
    (covers : host.CoversLiving (given.map .device)) (handle : PlatformHandle) :
    Ends (findOrMakePlatform provider handle given : EStateM ε Host Platform) host
      (fun platform after => platform.handle = handle ∧ after.simulators = host.simulators ∧
        start.Identified provider (.platform platform :: given.map .device) after ∧
        after.CoversLiving (.platform platform :: given.map .device))
      (fun _ _ => False) := by
  apply (Host.Covers.findOrMakePlatform covers (fun _ => mem_searched_platforms.symm) provider
    handle).imp
  · rintro platform after ⟨searched, covers⟩
    refine ⟨searched.isWanted.2, searched.simulators, identified.search_platform searched, ?_⟩
    rw [Host.CoversLiving, Host.livingPlatforms_of_held searched.held,
      Host.livingDevices_of_held searched.held]
    exact covers
  · exact fun _ _ => False.elim

/-- The device that is found or made on the platform of its native device has the handle that was
asked for. -/
theorem Host.Identified.findOrMakeDevice {platform : Platform} {handle : DeviceHandle}
    {native on : NativeHandle}
    (identified : start.Identified provider (.platform platform :: given.map .device) host)
    (covers : host.CoversLiving (.platform platform :: given.map .device))
    (settles : host.Settles provider handle platform.handle native on) :
    Ends (findOrMakeDevice platform handle given : EStateM ε Host Device) host
      (fun device after => device.handle = handle ∧
        start.Identified provider (.device device :: given.map .device) after ∧
        after.CoversLiving (.device device :: given.map .device))
      (fun _ _ => False) := by
  have platform_living : platform ∈ host.livingPlatforms (.platform platform :: given.map .device) :=
    List.mem_cons_self
  apply (Host.Covers.findOrMakeDevice covers (fun _ => mem_searched_devices.symm) platform handle).imp
  · rintro device after ⟨searched, covers⟩
    refine ⟨searched.isWanted.2, ?_, ?_⟩
    -- Of the pending values, the platform has done its duty.
    · apply (identified.search_device platform_living settles searched).sub
      exact List.cons_subset_cons _ (List.subset_cons_self _ _)
    · rw [Host.CoversLiving, Host.livingPlatforms_of_held searched.held,
        Host.livingDevices_of_held searched.held]
      apply covers.fewer
      · exact searched.isWanted.1 ▸ List.Subset.refl _
      · exact List.Subset.refl _
  · exact fun _ _ => False.elim

end Searches

/-! ## Managing devices -/

section Managing

variable {provider : Provider} {start host : Host} {given : List Device}

/-- The backend is asked for the platform of a device, and knows both from then on. -/
theorem ends_devicePlatform_settles (handle : DeviceHandle)
    (formed : (host.simulator provider.table.simulator).store.WellFormed) :
    Ends (provider.table.call (Simulator.devicePlatform handle)) host
      (fun on after => ∃ native platform, after.Settles provider handle on native platform)
      (fun _ _ => True) := by
  apply ends_call.mpr
  apply Ends.imp Simulator.answers_devicePlatform
  · rintro on after ⟨-, -, quiet, native, platform, refs, behind, found, -, known⟩
    refine ⟨native, platform, ?_⟩
    have device_known := quiet.grows.remembers.devices _ _ (formed.device_known behind)
    rw [← quiet.natives] at found
    constructor
    · rw [Host.simulator_advance_self]
      exact .of_live device_known known found
    · rw [Host.simulator_advance_self]
      exact ⟨_, found, rfl⟩
  · exact fun _ _ _ => trivial

/-- A device is managed by its handle. -/
theorem Host.Identified.manageDevice (given : List Device)
    (identified : start.Identified provider (given.map .device) host)
    (covers : host.CoversLiving (given.map .device)) (handle : DeviceHandle) :
    Ends (manageDevice provider given handle) host
      (fun device after => device.handle = handle ∧
        start.Identified provider (.device device :: given.map .device) after ∧
        after.CoversLiving (.device device :: given.map .device))
      (fun _ after => start.Identified provider [] after) := by
  have asks : OnlyCalls (provider.table.call (Simulator.devicePlatform handle)) :=
    .call (.of_answer (.devicePlatform handle) rfl)
  have covered : Ends (provider.table.call (Simulator.devicePlatform handle)) host
      (fun _ after => after.CoversLiving (given.map .device)) (fun _ _ => True) := by
    apply ends_call.mpr
    exact Ends.trivial.imp (fun _ _ _ => covers.of_caches rfl) fun _ _ _ => trivial
  have asked := ((ends_devicePlatform_settles handle identified.formed).and
    (identified.only asks)).and covered
  unfold ComputeImport.manageDevice
  apply Ends.bind (ends_native.mpr (asked.imp (fun _ _ ended => ended)
    fun _ _ ended => ended.1.2.drop))
  rintro on middle ⟨⟨⟨native, platform, settles⟩, identified⟩, covers⟩
  apply Ends.bind ((identified.findOrMakePlatform given covers on).imp (fun _ _ ended => ended)
    fun _ _ => False.elim)
  rintro platform' after ⟨rfl, same, identified, covers⟩
  have settles : after.Settles provider handle platform'.handle native platform := by
    have equal : after.simulator provider.table.simulator =
        middle.simulator provider.table.simulator :=
      Host.simulator_of_simulators same _
    constructor
    · rw [equal]
      exact settles.places
    · rw [equal]
      exact settles.live
  exact (identified.findOrMakeDevice covers settles).imp (fun _ _ ended => ended)
    fun _ _ => False.elim

/-- Devices are managed one after another, and those that have been managed are found by the
others. -/
theorem Host.Identified.manageDevices (given : List Device)
    (identified : start.Identified provider (given.map .device) host)
    (covers : host.CoversLiving (given.map .device)) (handles : List DeviceHandle) :
    Ends (manageDevices provider given handles) host
      (fun devices after => start.Identified provider ((given ++ devices).map .device) after)
      (fun _ after => start.Identified provider [] after) := by
  induction handles generalizing given host with
  | nil => simpa [ComputeImport.manageDevices] using identified
  | cons handle handles ih =>
      apply Ends.bind (identified.manageDevice given covers handle)
      rintro device middle ⟨-, identified, covers⟩
      have identified : start.Identified provider ((given ++ [device]).map .device) middle := by
        apply identified.sub
        simp
      have covers : middle.CoversLiving ((given ++ [device]).map .device) := by
        apply covers.fewer
        · intro platform
          simp only [← mem_searched_platforms, ← List.map_cons]
          simp [or_comm, or_left_comm]
        · intro device
          simp only [← mem_searched_devices, ← List.map_cons]
          simp [or_comm, or_assoc]
      apply Ends.bind (ih _ identified covers)
      intro devices after identified
      simpa using identified

end Managing

/-! ## Imports -/

section Imports

variable {provider : Provider} {start host : Host} {registry : Registry} {backend : Backend}
  {native : NativeHandle}

/-- A registry resolves a backend to no other provider. -/
def Registry.ResolvesTo (registry : Registry) (backend : Backend) (provider : Provider) : Prop :=
  ∀ found, registry.provider? backend = some found → found = provider

/-- What is resolved is the one provider. -/
theorem Host.Identified.resolve_bind {α : Type} {pending : List Managed}
    {next : Provider → ImportM α} {ok : α → Host → Prop} {failed : ImportError → Host → Prop}
    (identified : start.Identified provider pending host) (covered : host.Covered)
    (sole : registry.ResolvesTo backend provider) (missing : ∀ e, failed e host)
    (rest : ∀ after, start.Identified provider pending after → after.Covered →
      Ends (next provider) after ok failed) :
    Ends (registry.resolve backend >>= next) host ok failed := by
  apply (ends_resolve.imp (fun _ _ found => found) ?_).bind
  · rintro found after ⟨resolved, notice, rfl⟩
    obtain rfl := sole found resolved
    exact rest _ (identified.notify notice) (respects_covered.notify notice covered)
  · rintro e _ ⟨-, rfl⟩
    exact missing e

/-- A program that is run while some values are pending, and while the caches lead to what is held,
leaves what it brings back pending. -/
def Makes {α : Type} (provider : Provider) (start : Host) (pending : List Managed)
    (value : α → Managed) (body : ImportM α) : Prop :=
  ∀ host, start.Identified provider pending host → host.Covered →
    Ends body host (fun a after => start.Identified provider [value a] after)
      (fun _ after => start.Identified provider [] after)

/-- Calls come first, and whatever they bring back does not matter. -/
theorem Host.Identified.bind {α β : Type} {pending : List Managed} {value : β → Managed}
    {body : ImportM α} {next : α → ImportM β} (identified : start.Identified provider pending host)
    (covered : host.Covered) (uses : OnlyCalls body) (rest : ∀ a, Makes provider start pending value (next a)) :
    Ends (body >>= next) host (fun b after => start.Identified provider [value b] after)
      (fun _ after => start.Identified provider [] after) :=
  (((identified.only uses).and ((uses _ respects_covered).ends host covered)).imp
    (fun _ _ ended => ended) fun _ _ ended => ended.1.drop).bind
      fun a after ended => rest a after ended.1 ended.2

theorem makes_makePlatform (sole : registry.ResolvesTo backend provider) :
    Makes provider start [] .platform (makePlatform registry native backend) := by
  intro host identified covered
  apply identified.bind covered (Uses.notify _)
  intro _ host identified covered
  apply identified.resolve_bind covered sole fun _ => identified
  intro host identified covered
  apply identified.bind covered (Uses.native (OnlyCalls.call (.of_answer (.platformCreate native) rfl)))
  intro wrapper host identified covered
  exact (identified.findOrMakePlatform [] covered wrapper).imp (fun _ _ ended => ended.2.2.1)
    fun _ _ => False.elim

theorem makes_makeDevice (sole : registry.ResolvesTo backend provider) :
    Makes provider start [] .device (makeDevice registry native backend) := by
  intro host identified covered
  apply identified.bind covered (Uses.notify _)
  intro _ host identified covered
  apply identified.resolve_bind covered sole fun _ => identified
  intro host identified covered
  apply identified.bind covered (Uses.native (OnlyCalls.call (.of_answer (.deviceCreate native none) rfl)))
  intro wrapper host identified covered
  exact (identified.manageDevice [] covered wrapper).imp (fun _ _ ended => ended.2.1)
    fun _ _ ended => ended

theorem makes_deviceOfQueue {queue : QueueHandle} :
    Makes provider start [] .device (deviceOfQueue provider queue) := by
  intro host identified covered
  have finds : Makes provider start [] .device (do
      let handle ← ComputeImport.native (provider.table.call (Simulator.queueDevice queue))
      manageDevice provider [] handle) := by
    intro host identified covered
    apply identified.bind covered (Uses.native (OnlyCalls.call (.of_answer (.queueDevice queue) rfl)))
    intro handle host identified covered
    exact (identified.manageDevice [] covered handle).imp (fun _ _ ended => ended.2.1)
      fun _ _ ended => ended
  -- Where there is no device, all that has been done are calls.
  have calls := identified.only (OnlyCalls.deviceOfQueue provider queue)
  rw [ends_deviceOfQueue_iff] at calls ⊢
  apply (Ends.and (finds host identified covered) calls).imp
  · exact fun _ _ ended => ended.1
  · exact fun _ _ ended => ended.2

theorem makes_makeQueue (sole : registry.ResolvesTo backend provider) {descriptor : Int32}
    {context : Context} (device : Option Device) {keeps : Bool} {properties : QueueProperties} :
    Makes provider start (device.toList.map .device) .queue
      (makeQueue registry native descriptor context device keeps properties backend) := by
  intro host identified covered
  apply identified.bind covered (Uses.notify _)
  intro _ host identified covered
  dsimp only
  split
  · exact identified.drop
  apply identified.resolve_bind covered sole fun _ => identified.drop
  intro host identified covered
  apply identified.bind covered (Uses.native (OnlyCalls.call (.of_answer (.queueCreate native context.handle
    (device.map Device.handle) _) rfl)))
  intro wrapper host identified covered
  apply identified.bind covered (OnlyCalls.takeReferenceIfNeeded provider
    (.of_done (.queueRetain wrapper) rfl) (.of_done (.queueRelease wrapper) rfl))
  intro _ host identified covered
  have holds : ∀ (device : Device) {host : Host}, start.Identified provider [.device device] host →
      Ends (do
          let identity ← freshIdentity
          return ⟨identity, wrapper, context, device, properties, provider⟩ : ImportM Queue) host
        (fun queue after => start.Identified provider [.queue queue] after)
        (fun _ after => start.Identified provider [] after) := by
    intro device host identified
    rw [ends_bind, ends_freshIdentity]
    exact identified.fresh.pend_devices rfl (List.subset_append_left _ _)
  cases device with
  | some device => exact holds device identified
  | none => exact (makes_deviceOfQueue host identified covered).bind fun device _ => holds device

theorem Host.Identified.orRelease {α : Type} {pending : List Managed} {body : ImportM α}
    {programs : List ProgramRef} {ok : α → Host → Prop}
    (ended : Ends body host ok fun _ after => start.Identified provider pending after) :
    Ends (ComputeImport.orRelease programs body) host ok
      (fun _ after => start.Identified provider pending after) := by
  apply ends_orRelease.mpr
  apply ended.imp (fun _ _ ended => ended)
  exact fun _ after identified =>
    callsOnly_releasePrograms (fun _ _ => trivial) trivial _ respects_identified after identified

theorem makes_importProgram (sole : registry.ResolvesTo backend provider) {context : Context}
    {keeps : Bool} {target : BundleState} :
    Makes provider start [] .bundle
      (importProgram registry native context keeps target backend) := by
  intro host identified covered
  apply identified.bind covered (Uses.notify _)
  intro _ host identified covered
  apply Ends.timed _ (fun _ _ _ made => made.notify _) fun _ _ _ kept => kept.notify _
  apply identified.resolve_bind covered sole fun _ => identified
  intro host identified covered
  apply identified.bind covered (Uses.native (OnlyCalls.call (.of_answer (.programCreate native
    context.handle (Ownership.ofKeep keeps).ownsNative) rfl)))
  intro wrapper host identified covered
  apply identified.bind covered (OnlyCalls.takeReferenceIfNeeded provider
    (.of_done (.programRetain wrapper) rfl) (.of_done (.programRelease wrapper) rfl))
  intro _ host identified covered
  apply identified.bind covered (OnlyCalls.orRelease (.of_quiet (Uses.listDevices trivial wrapper)))
  intro handles host identified covered
  apply identified.bind covered (Uses.notify _)
  intro _ host identified covered
  apply identified.bind covered (OnlyCalls.advance _ target _ _ handles)
  intro built host identified covered
  apply Ends.bind (Host.Identified.orRelease (identified.manageDevices [] covered handles))
  intro devices host identified
  rw [ends_bind, ends_freshIdentity]
  refine Host.Identified.fresh (identified.pend_devices rfl ?_)
  have living : devices ⊆ host.livingDevices (devices.map .device) := by
    intro device member
    exact mem_searched_devices.mp (List.mem_append_right _ member)
  simpa [Managed.devices, KernelBundle.reachableDevices] using living

theorem makes_importKernel (sole : registry.ResolvesTo backend provider) {context : Context}
    {bundle : KernelBundle} {keeps : Bool} :
    Makes provider start [.bundle bundle] .kernel
      (importKernel registry context bundle native keeps backend) := by
  intro host identified covered
  apply identified.bind covered (Uses.notify _)
  intro _ host identified covered
  apply Ends.timed _ (fun _ _ _ made => made.notify _) fun _ _ _ kept => kept.notify _
  apply identified.resolve_bind covered sole fun _ => identified.drop
  intro host identified covered
  split
  · exact identified.drop
  apply identified.bind covered (Uses.kernelProgram? provider bundle)
  intro program host identified covered
  apply identified.bind covered (Uses.native (OnlyCalls.call (.of_answer (.kernelCreate native
    context.handle program (Ownership.ofKeep keeps).ownsNative) rfl)))
  intro wrapper host identified covered
  apply identified.bind covered (OnlyCalls.takeReferenceIfNeeded provider
    (.of_done (.kernelRetain wrapper) rfl) (.of_done (.kernelRelease wrapper) rfl))
  intro _ host identified covered
  apply identified.bind covered (Uses.notify _)
  intro _ host identified covered
  apply identified.bind covered Uses.freshIdentity
  intro identity host identified covered
  apply identified.pend_devices rfl
  exact fun device member => Host.mem_livingDevices.mpr ⟨_, List.mem_cons_self, member⟩

/-! ### What is behind the handles -/

/-- The platform that is made of a native one has its handle.  It is made where the native platform
is live, unless that has been told to fail. -/
theorem ends_makePlatform_known (resolved : registry.provider? backend = some provider) :
    Ends (makePlatform registry native backend) host
      (fun made after => (after.simulator provider.table.simulator).store.platformWrappers.get?
        native = some made.handle)
      (fun _ _ =>
        (host.simulator provider.table.simulator).failures.get? .platformCreate ≠ none ∨
        ¬ (host.simulator provider.table.simulator).store.HasNative .platform native) := by
  unfold makePlatform
  rw [ends_bind, ends_notify]
  apply (ends_resolve.imp (fun _ _ found => found) ?_).bind
  · rintro found noticed ⟨isFound, notice, isNoticed⟩
    obtain rfl := Option.some.inj (resolved.symm.trans isFound)
    have same : noticed.simulator provider.table.simulator =
        host.simulator provider.table.simulator := by
      rw [isNoticed]
      rfl
    have creates : Ends (provider.table.call (Simulator.platformCreate native)) noticed
          (fun handle after => (after.simulator provider.table.simulator).store.platformWrappers.get?
            native = some handle)
          (fun _ _ =>
            (host.simulator provider.table.simulator).failures.get? .platformCreate ≠ none ∨
            ¬ (host.simulator provider.table.simulator).store.HasNative .platform native) := by
      apply ends_call.mpr
      rw [same]
      apply Ends.imp Simulator.answers_platformCreate
      · intro handle after ended
        rw [Host.simulator_advance_self]
        exact ended.2.2.2.1
      · rintro e after ⟨-, ⟨injected, -⟩ | ⟨-, -, dead⟩⟩
        · exact Or.inl fun unset => Option.some_ne_none e (injected.symm.trans unset)
        · exact Or.inr dead
    apply (ends_native.mpr creates).bind
    rintro wrapper middle known
    apply ends_findOrMakePlatform.imp
    · rintro made after ⟨⟨isHandle, -⟩, same⟩
      rw [Host.simulator, same, isHandle]
      exact known
    · exact fun _ _ => False.elim
  · rintro e _ ⟨missing, -⟩
    rw [resolved] at missing
    contradiction

/-- The device that is made of a native one has its handle. -/
theorem ends_makeDevice_known (resolved : registry.provider? backend = some provider)
    (formed : (host.simulator provider.table.simulator).store.WellFormed) :
    Ends (makeDevice registry native backend) host
      (fun made after =>
        (after.simulator provider.table.simulator).store.Behind made.handle native)
      (fun _ _ => True) := by
  unfold makeDevice
  rw [ends_bind, ends_notify]
  apply (ends_resolve.imp (fun _ _ found => found) fun _ _ _ => trivial).bind
  rintro found noticed ⟨isFound, notice, isNoticed⟩
  obtain rfl := Option.some.inj (resolved.symm.trans isFound)
  have same : noticed.simulator provider.table.simulator =
      host.simulator provider.table.simulator := by
    rw [isNoticed]
    rfl
  have creates : Ends (provider.table.call (Simulator.deviceCreate native none)) noticed
        (fun handle after => (after.simulator provider.table.simulator).store.WellFormed ∧
          (after.simulator provider.table.simulator).store.Behind handle native)
        (fun _ _ => True) := by
    apply ends_call.mpr
    rw [same]
    apply Ends.imp Simulator.answers_deviceCreate
    · rintro handle after ⟨-, -, quiet, known, -⟩
      have formed := quiet.grows.wellFormed formed
      rw [Host.simulator_advance_self]
      exact ⟨formed, formed.behind_device known⟩
    · exact fun _ _ _ => trivial
  apply (ends_native.mpr creates).bind
  rintro wrapper middle ⟨formed, behind⟩
  apply (ends_manageDevice rfl).imp
  · rintro made after ⟨rfl, quiet, -⟩
    exact behind.grows quiet.grows formed
  · exact fun _ _ _ => trivial

/-- Devices that have been alive at the start and devices that are alive now stand for the same
native device just where they have the same handle. -/
theorem Host.Identified.handle_eq_iff {first : Host}
    (before : first.Identified provider [] start) (identified : start.Identified provider [] host)
    {a b : Device} (isBefore : a ∈ start.devices) (isNow : b ∈ host.devices) :
    ∃ native other,
      (host.simulator provider.table.simulator).store.Behind a.handle native ∧
      (host.simulator provider.table.simulator).store.Behind b.handle other ∧
      (native = other ↔ a.handle = b.handle) := by
  obtain ⟨native, _, places, -⟩ := before.placed a isBefore
  obtain ⟨other, _, places', -⟩ := identified.placed b isNow
  obtain ⟨history, led⟩ := identified.later
  have remembers := Simulator.remembers_replay identified.started history
  rw [← led] at remembers
  have known := remembers.devices native a.handle places.device_known
  exact ⟨native, other, identified.formed.behind_device known,
    identified.formed.behind_device places'.device_known,
    identified.formed.device_eq_iff known places'.device_known⟩

/-- The platform that is made of the native one that a device was created on is the platform of the
device. -/
theorem Host.Identified.ends_makePlatform (identified : start.Identified provider [] host)
    (covered : host.Covered) (resolved : registry.provider? backend = some provider) {device : Device}
    (living : device ∈ host.devices) {native platform : NativeHandle} {refs : Nat}
    (behind : (host.simulator provider.table.simulator).store.Behind device.handle native)
    (created : (start.simulator provider.table.simulator).store.natives.get? native =
      some ⟨.device platform, refs⟩) :
    Ends (makePlatform registry platform backend) host (fun made _ => made = device.platform)
      (fun _ _ =>
        (host.simulator provider.table.simulator).failures.get? .platformCreate ≠ none ∨
        ¬ (host.simulator provider.table.simulator).store.HasNative .platform platform) := by
  obtain ⟨native', on, places, data⟩ := identified.placed device living
  obtain rfl := behind.unique (identified.formed.behind_device places.device_known)
  cases data _ created
  have sole : registry.ResolvesTo backend provider :=
    fun found isFound => Option.some.inj (isFound.symm.trans resolved)
  have holds := OnlyCalls.of_quiet (Uses.makePlatform (OnlyCalls.within registry) platform backend)
  have made := ((ends_makePlatform_known resolved).and
    (makes_makePlatform sole host identified.rebase covered)).and
      ((holds _ (respects_held host.held)).ends host rfl)
  apply made.imp
  · rintro made after ⟨⟨known, identified'⟩, held⟩
    obtain ⟨history, led⟩ := identified'.later
    have remembers := Simulator.remembers_replay identified.formed history
    rw [← led] at remembers
    have sameHandle : made.handle = device.platform.handle :=
      Option.some.inj (known.symm.trans (remembers.platforms platform _ places.platform_known))
    have living : device.platform ∈ host.livingPlatforms [] := Host.platform_mem_living living
    apply identified'.platforms.unique made List.mem_cons_self _ _ sameHandle
    apply List.mem_cons_of_mem
    exact (Host.platforms_of_held held).symm ▸ living
  · exact fun _ _ ended => ended.1.1

end Imports

end ComputeImport
