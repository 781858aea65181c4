import ComputeImport.Proofs.Import.Identity
import ComputeImport.Proofs.Import.Numbering

/-!
# Devices that several imports share

Over all tables at once, a living platform is found by its table and its handle, and a living device by
its platform and its handle, since the caches lead to all that is alive.  A device that an import manages
is on the platform that its native device is one of, so that another import through the same table finds
it by its handle, as long as it is alive.
-/

namespace ComputeImport

/-- Devices are known to their backends as what they are, and found by their table and handle. -/
structure Host.Settled (host : Host) (settled : List Device) : Prop where
  formed : ∀ number, (host.simulator number).store.WellFormed
  placed : ∀ device ∈ settled, ∃ native on,
    (host.simulator device.platform.provider.table.simulator).store.Places native on device.handle
      device.platform.handle
  unique : ∀ a ∈ settled, ∀ b ∈ settled,
    a.platform.provider = b.platform.provider → a.handle = b.handle → a = b

/-- The caches lead to platforms and devices, and while backends are numbered, some of the devices are
settled. -/
structure Sharing (platforms : List Platform) (devices settled : List Device) (host : Host) : Prop where
  covers : host.Covers platforms devices
  settled : host.Numbered → host.Settled settled

section Sharing

variable {platforms platforms' : List Platform} {devices devices' settled settled' : List Device}
  {host after : Host} {provider : Provider} {platform : Platform} {device : Device}
  {handle : DeviceHandle} {α ε : Type}

namespace Host.Settled

theorem fewer (isSettled : host.Settled settled) (fewer : settled' ⊆ settled) :
    host.Settled settled' := by
  constructor
  case formed => exact isSettled.formed
  case placed => exact fun device member => isSettled.placed device (fewer member)
  case unique => exact fun a isA b isB => isSettled.unique a (fewer isA) b (fewer isB)

theorem of_stores (isSettled : host.Settled settled)
    (same : ∀ number, (after.simulator number).store = (host.simulator number).store) :
    after.Settled settled := by
  constructor
  case formed =>
    intro number
    rw [same]
    exact isSettled.formed number
  case placed =>
    intro device member
    rw [same]
    exact isSettled.placed device member
  case unique => exact isSettled.unique

theorem of_simulators (isSettled : host.Settled settled)
    (same : after.simulators = host.simulators) : after.Settled settled := by
  refine isSettled.of_stores fun number => ?_
  rw [Host.simulator_of_simulators same]

/-- Whatever a backend does, nothing changes. -/
theorem advance (isSettled : host.Settled settled) (number : Nat)
    (operation : Simulator.Operation) :
    (host.advance number ((host.simulator number).after operation)).Settled settled := by
  constructor
  case formed =>
    intro other
    rw [Host.simulator_advance]
    split
    · exact Simulator.wellFormed_after (isSettled.formed number) operation
    · exact isSettled.formed other
  case placed =>
    intro device member
    obtain ⟨native, on, places⟩ := isSettled.placed device member
    refine ⟨native, on, ?_⟩
    rw [Host.simulator_advance]
    split
    · rename_i same
      subst same
      exact Simulator.places_replay (isSettled.formed _) places [operation]
    · exact places
  case unique => exact isSettled.unique

/-- A living device whose native device is live and known by its handle, on a platform that is known by
that of its platform, is settled. -/
theorem cons {native on : NativeHandle} (isSettled : host.Settled settled)
    (covers : host.Covers platforms devices)
    (on_platforms : ∀ device ∈ devices, device.platform ∈ platforms) (living : settled ⊆ devices)
    (isLiving : device ∈ devices)
    (settles : host.Settles device.platform.provider device.handle device.platform.handle native on) :
    host.Settled (device :: settled) := by
  -- Another one with the same table and handle is on the same platform, and therefore the same.
  have same : ∀ other ∈ settled, other.platform.provider = device.platform.provider →
      other.handle = device.handle → other = device := by
    intro other isOther provider handle
    obtain ⟨native', on', places⟩ := isSettled.placed other isOther
    rw [provider, handle] at places
    obtain rfl : native = native' :=
      ((isSettled.formed _).device_eq_iff settles.places.device_known places.device_known).mpr rfl
    obtain ⟨object, live, -⟩ := settles.live
    have data : NativeData.device on = .device on' :=
      (settles.places.data object live).symm.trans (places.data object live)
    cases data
    have platform : other.platform.handle = device.platform.handle :=
      Option.some.inj (places.platform_known.symm.trans settles.places.platform_known)
    have isPlatform := covers.platforms.unique (on_platforms other (living isOther))
      (on_platforms device isLiving) provider platform
    exact covers.devices.unique (living isOther) isLiving isPlatform handle
  constructor
  case formed => exact isSettled.formed
  case placed =>
    exact List.forall_mem_cons.mpr ⟨⟨native, on, settles.places⟩, isSettled.placed⟩
  case unique =>
    intro a isA b isB provider handle
    rcases List.mem_cons.mp isA with rfl | memberA <;> rcases List.mem_cons.mp isB with rfl | memberB
    · rfl
    · exact (same b memberB provider.symm handle.symm).symm
    · exact same a memberA provider handle
    · exact isSettled.unique a memberA b memberB provider handle

end Host.Settled

/-- Only the backends tell whether they are numbered, and whether devices are settled. -/
theorem settled_of_simulators (isSettled : host.Numbered → host.Settled settled)
    (same : after.simulators = host.simulators) : after.Numbered → after.Settled settled :=
  fun numbered => (isSettled (numbered.of_simulators same)).of_simulators same

/-- While backends are numbered, devices stay settled whatever is done. -/
theorem respects_settled : Respects (fun _ => True) (fun _ => True)
    fun host => host.Numbered → host.Settled settled := by
  apply Respects.uncached
  case call =>
    exact fun _ number call _ _ isSettled numbered =>
      (isSettled numbered.of_advance).advance number (.call call)
  case other =>
    exact fun _ _ same _ _ isSettled => settled_of_simulators isSettled same

namespace Sharing

theorem fewer (sharing : Sharing platforms devices settled host) (platforms_le : platforms' ⊆ platforms)
    (devices_le : devices' ⊆ devices) (settled_le : settled' ⊆ settled) :
    Sharing platforms' devices' settled' host :=
  ⟨sharing.covers.fewer platforms_le devices_le,
    fun numbered => (sharing.settled numbered).fewer settled_le⟩

theorem of_simulators (sharing : Sharing platforms devices settled host)
    (same : after.simulators = host.simulators) (caches : after.caches = host.caches) :
    Sharing platforms devices settled after :=
  ⟨sharing.covers.of_caches caches, settled_of_simulators sharing.settled same⟩

theorem advance (sharing : Sharing platforms devices settled host) (number : Nat)
    (operation : Simulator.Operation) :
    Sharing platforms devices settled
      (host.advance number ((host.simulator number).after operation)) :=
  ⟨sharing.covers.of_caches rfl,
    fun numbered => (sharing.settled numbered.of_advance).advance number operation⟩

/-- A backend that gets a new number takes the place of no other. -/
theorem setUp (sharing : Sharing platforms devices settled host) (config : SimulatorConfig) :
    Sharing platforms devices settled
      { host with simulators := host.simulators.set host.simulators.size { config } } := by
  refine ⟨sharing.covers.of_caches rfl, fun numbered => ?_⟩
  have unknown := numbered.of_set.size_unknown
  refine (sharing.settled numbered.of_set).of_stores fun other => ?_
  rw [Host.simulator, Ledger.get?_set]
  split
  · rename_i same
    rw [← same, Host.simulator, Ledger.get?_eq_none_of_not_mem unknown]
    rfl
  · rfl

/-- One more of the living devices is settled. -/
theorem settle (sharing : Sharing platforms devices settled host)
    (onPlatforms : ∀ device ∈ devices, device.platform ∈ platforms) (living : settled ⊆ devices)
    (isLiving : device ∈ devices)
    (settles : host.Numbered → ∃ native on,
      host.Settles device.platform.provider device.handle device.platform.handle native on) :
    Sharing platforms devices (device :: settled) host := by
  refine ⟨sharing.covers, fun numbered => ?_⟩
  obtain ⟨native, on, settles⟩ := settles numbered
  exact (sharing.settled numbered).cons sharing.covers onPlatforms living isLiving settles

theorem call {table : Table} {step : Native α} {call : Call}
    (sharing : Sharing platforms devices settled host) (isCall : IsCall step call) :
    Ends (table.call step) host (fun _ after => Sharing platforms devices settled after)
      (fun _ after => Sharing platforms devices settled after) := by
  apply ends_call.mpr
  apply ends_stateAfter.mpr
  rw [isCall]
  exact sharing.advance table.simulator (.call call)

/-! ## The searches -/

/-- The platform that is found or made has the table and the handle that were asked for. -/
theorem findOrMakePlatform {pending : List Device}
    (sharing : Sharing (pending.map Device.platform ++ host.platforms) devices settled host)
    (provider : Provider) (handle : PlatformHandle) :
    Ends (ComputeImport.findOrMakePlatform provider handle pending : EStateM ε Host Platform) host
      (fun made after => made.provider = provider ∧ made.handle = handle ∧
        after.simulators = host.simulators ∧ after.held = host.held ∧
        Sharing (made :: (pending.map Device.platform ++ host.platforms)) devices settled after)
      (fun _ _ => False) := by
  apply (sharing.covers.findOrMakePlatform (fun _ => List.perm_append_comm.mem_iff) provider
    handle).imp
  · rintro made after ⟨searched, covers⟩
    exact ⟨searched.isWanted.1, searched.isWanted.2, searched.simulators, searched.held, covers,
      settled_of_simulators sharing.settled searched.simulators⟩
  · exact fun _ _ => False.elim

/-- The device that is found or made has the platform and the handle that were asked for. -/
theorem findOrMakeDevice {pending : List Device}
    (sharing : Sharing platforms (pending ++ host.devices) settled host) (platform : Platform)
    (handle : DeviceHandle) :
    Ends (ComputeImport.findOrMakeDevice platform handle pending : EStateM ε Host Device) host
      (fun made after => made.platform = platform ∧ made.handle = handle ∧
        after.simulators = host.simulators ∧ after.held = host.held ∧
        Sharing platforms (made :: (pending ++ host.devices)) settled after)
      (fun _ _ => False) := by
  apply (sharing.covers.findOrMakeDevice (fun _ => List.perm_append_comm.mem_iff) platform
    handle).imp
  · rintro made after ⟨searched, covers⟩
    exact ⟨searched.isWanted.1, searched.isWanted.2, searched.simulators, searched.held, covers,
      settled_of_simulators sharing.settled searched.simulators⟩
  · exact fun _ _ => False.elim

/-! ## Managing devices -/

theorem platform_mem {pending : List Device} (member : device ∈ pending ++ host.devices) :
    device.platform ∈ pending.map Device.platform ++ host.platforms := by
  rcases List.mem_append.mp member with isPending | isHeld
  · exact List.mem_append_left _ (List.mem_map_of_mem isPending)
  · obtain ⟨value, isValue, isDevice⟩ := List.mem_flatMap.mp isHeld
    exact List.mem_append_right _
      (List.mem_flatMap.mpr ⟨value, isValue, Managed.platform_mem isDevice⟩)

/-- A device is managed by its handle, on the platform that its native device is one of. -/
theorem manageDevice {pending : List Device}
    (sharing : Sharing (pending.map Device.platform ++ host.platforms) (pending ++ host.devices)
      settled host)
    (living : settled ⊆ pending ++ host.devices) (provider : Provider) (handle : DeviceHandle) :
    Ends (ComputeImport.manageDevice provider pending handle) host
      (fun made after => made.platform.provider = provider ∧ after.held = host.held ∧
        Sharing ((pending ++ [made]).map Device.platform ++ host.platforms)
          (pending ++ [made] ++ host.devices) (made :: settled) after)
      (fun _ _ => True) := by
  have isCall : IsCall (Simulator.devicePlatform handle) _ := .of_answer (.devicePlatform handle) rfl
  have asks : OnlyCalls (provider.table.call (Simulator.devicePlatform handle)) := .call isCall
  have settles : Ends (provider.table.call (Simulator.devicePlatform handle)) host
      (fun on after => after.Numbered →
        ∃ native platform, after.Settles provider handle on native platform)
      (fun _ _ => True) :=
    Unlisting.whileNumbered (Unlisting.call isCall nofun) fun numbered =>
      ends_devicePlatform_settles handle ((sharing.settled numbered).formed _)
  have asked := (settles.and (sharing.call isCall)).and
    ((asks _ (respects_held host.held)).ends host rfl)
  unfold ComputeImport.manageDevice
  apply Ends.bind (ends_native.mpr (asked.imp (fun _ _ ended => ended) fun _ _ _ => trivial))
  rintro on middle ⟨⟨settles, shares⟩, held⟩
  have platforms_eq := Host.platforms_of_held held
  rw [← platforms_eq] at shares
  apply Ends.bind ((shares.findOrMakePlatform provider on).imp (fun _ _ ended => ended)
    fun _ _ => False.elim)
  rintro platform found ⟨rfl, rfl, same, held', shares⟩
  have devices_eq := Host.devices_of_held (held'.trans held)
  rw [← devices_eq] at shares
  apply (shares.findOrMakeDevice platform handle).imp
  · rintro device after ⟨rfl, rfl, same', held'', shares⟩
    rw [platforms_eq, devices_eq] at shares
    have onPlatforms : ∀ other ∈ device :: (pending ++ host.devices),
        other.platform ∈ device.platform :: (pending.map Device.platform ++ host.platforms) :=
      List.forall_mem_cons.mpr
        ⟨List.mem_cons_self, fun other member => List.mem_cons_of_mem _ (platform_mem member)⟩
    have isShared := shares.settle onPlatforms (List.subset_cons_of_subset _ living)
      List.mem_cons_self fun numbered => by
        obtain ⟨native, isOn, settles⟩ := settles (numbered.of_simulators (same'.trans same))
        have equal : after.simulator device.platform.provider.table.simulator =
            middle.simulator device.platform.provider.table.simulator :=
          Host.simulator_of_simulators (same'.trans same) _
        exact ⟨native, isOn, equal ▸ settles.places, equal ▸ settles.live⟩
    refine ⟨rfl, held''.trans (held'.trans held), isShared.fewer ?_ ?_ (List.Subset.refl _)⟩
    · intro other
      simp only [List.map_append, List.mem_append, List.map_cons, List.map_nil, List.mem_cons]
      tauto
    · intro other
      simp only [List.mem_append, List.mem_cons]
      tauto
  · exact fun _ _ => False.elim

/-- Devices are managed one after another. -/
theorem manageDevices {pending : List Device}
    (sharing : Sharing (pending.map Device.platform ++ host.platforms) (pending ++ host.devices)
      (pending ++ settled) host)
    (living : settled ⊆ host.devices) (provider : Provider) (handles : List DeviceHandle) :
    Ends (ComputeImport.manageDevices provider pending handles) host
      (fun made after => (∀ device ∈ made, device.platform.provider = provider) ∧
        after.held = host.held ∧
        Sharing ((pending ++ made).map Device.platform ++ host.platforms)
          (pending ++ made ++ host.devices) (pending ++ made ++ settled) after)
      (fun _ _ => True) := by
  induction handles generalizing pending host with
  | nil =>
      refine ⟨List.forall_mem_nil _, rfl, ?_⟩
      rw [List.append_nil]
      exact sharing
  | cons handle handles ih =>
      have living' : pending ++ settled ⊆ pending ++ host.devices :=
        List.append_subset.mpr ⟨List.subset_append_left _ _,
          List.subset_append_of_subset_right _ living⟩
      apply Ends.bind (sharing.manageDevice living' provider handle)
      rintro device middle ⟨own, held, shares⟩
      have platforms_eq := Host.platforms_of_held held
      have devices_eq := Host.devices_of_held held
      rw [← platforms_eq, ← devices_eq] at shares
      have next := ih (shares.fewer (List.Subset.refl _) (List.Subset.refl _) ?_)
        (devices_eq ▸ living)
      · apply next.bind
        rintro made after ⟨owns, held', shares⟩
        rw [platforms_eq, devices_eq] at shares
        refine ⟨List.forall_mem_cons.mpr ⟨own, owns⟩, held'.trans held, ?_⟩
        simpa using shares
      · intro other
        simp only [List.mem_append, List.mem_cons, List.not_mem_nil, or_false]
        tauto

end Sharing

end Sharing

end ComputeImport
