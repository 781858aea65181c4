import ComputeImport.Proofs.Import.Uses

/-!
# What the caches lead to

Platforms and devices are looked up in caches of their providers and platforms, where an entry keeps
nothing alive and is taken out once it leads nowhere.  `Host.Covers` says that the caches lead to all
that is alive.  Then no two of the living have the same place in a cache, and a search brings back the
living object with that place, if there is one.  Making an object keeps this, although other entries may
be taken out before it is entered.
-/

namespace ComputeImport

namespace WeakCaches

variable {ι κ α : Type} [DecidableEq ι] [DecidableEq κ] {owner : α → ι} {key : α → κ}
  {all : WeakCaches owner key} {living fewer searched : List α} {a b : α}

/-- The caches lead to each of the living by its owner and its key. -/
def Covers (all : WeakCaches owner key) (living : List α) : Prop :=
  ∀ a ∈ living, all.get? (owner a) (key a) = some a

namespace Covers

/-- Objects may go. -/
theorem mono (covers : all.Covers living) (gone : fewer ⊆ living) : all.Covers fewer :=
  fun a member => covers a (gone member)

/-- No two of the living have the same place in a cache. -/
theorem unique (covers : all.Covers living) (isA : a ∈ living) (isB : b ∈ living)
    (sameOwner : owner a = owner b) (sameKey : key a = key b) : a = b := by
  have found := covers a isA
  rw [sameOwner, sameKey, covers b isB] at found
  exact (Option.some.inj found).symm

variable [DecidableEq α]

/-- Where a search finds nothing, none of the living has the owner and the key. -/
theorem not_mem_of_missing (covers : all.Covers living) (alive : living ⊆ searched) {of : ι}
    {handle : κ} (missing : all.upgrade? searched of handle = none) (isA : a ∈ living) :
    ¬ (owner a = of ∧ key a = handle) := by
  rintro ⟨rfl, rfl⟩
  have found := upgrade?_eq_some.mpr ⟨covers a isA, alive isA⟩
  rw [missing] at found
  contradiction

/-- A new object is entered where the living ones stay. -/
theorem insert (covers : all.Covers living) (alive : living ⊆ searched)
    (missing : all.upgrade? searched (owner a) (key a) = none) :
    (all.insert searched a).Covers (a :: living) := by
  intro b member
  rw [get?_insert]
  rcases List.mem_cons.mp member with rfl | member
  · rw [if_pos rfl, if_pos rfl]
  · split
    · rename_i sameOwner
      rw [if_neg fun sameKey =>
        covers.not_mem_of_missing alive missing member ⟨sameOwner.symm, sameKey.symm⟩]
      exact upgrade?_eq_some.mpr ⟨covers b member, alive member⟩
    · exact covers b member

end Covers

end WeakCaches

namespace Host

variable {ε : Type} {host after : Host} {platforms fewerPlatforms : List Platform}
  {devices fewerDevices pending : List Device}

/-- The caches lead to all of some platforms and devices. -/
structure Covers (host : Host) (platforms : List Platform) (devices : List Device) : Prop where
  platforms : host.caches.platforms.Covers platforms
  devices : host.caches.devices.Covers devices

/-- The caches lead to all platforms and devices that what is held leads to. -/
def Covered (host : Host) : Prop :=
  host.Covers host.platforms host.devices

namespace Covers

theorem fewer (covers : host.Covers platforms devices) (platforms_le : fewerPlatforms ⊆ platforms)
    (devices_le : fewerDevices ⊆ devices) : host.Covers fewerPlatforms fewerDevices :=
  ⟨covers.platforms.mono platforms_le, covers.devices.mono devices_le⟩

theorem of_caches (covers : host.Covers platforms devices) (same : after.caches = host.caches) :
    after.Covers platforms devices := by
  constructor
  · exact same ▸ covers.platforms
  · exact same ▸ covers.devices

/-- Whatever a new object is entered for, what is held is led to. -/
theorem enter (covers : host.Covers platforms devices) (platforms_le : platforms ⊆ host.platforms)
    (devices_le : devices ⊆ host.devices) {caches : Caches} (enters : host.Enters caches) :
    ({ host with caches } : Host).Covers platforms devices := by
  cases enters with
  | platform held missing =>
      have entered := covers.platforms.insert (List.Subset.trans platforms_le held) missing
      exact ⟨entered.mono (List.subset_cons_self _ _), covers.devices⟩
  | device held missing =>
      have entered := covers.devices.insert (List.Subset.trans devices_le held) missing
      exact ⟨covers.platforms, entered.mono (List.subset_cons_self _ _)⟩

end Covers

/-- Whatever is done, what is held is led to. -/
theorem respects_covered : Respects (fun _ => True) (fun _ => True) Host.Covered := by
  constructor
  case call => exact fun _ _ _ _ _ covered => covered.of_caches rfl
  case enter =>
    exact fun _ _ enters covered =>
      covered.enter (List.Subset.refl _) (List.Subset.refl _) enters
  case other =>
    intro host after _ held caches _ covered
    have kept := covered.of_caches caches
    rw [Host.platforms, Host.devices, ← held] at kept
    exact kept

/-! ## Letting go -/

/-- A release enters nothing in a cache. -/
theorem caches_releaseWith {kind : ObjectKind} (provider : Provider) (handle : Handle kind)
    (release : Handle kind → Native Unit) (host : Host) :
    (host.releaseWith provider handle release).caches = host.caches := by
  unfold releaseWith Table.call onSimulator
  cases release handle (host.simulator provider.table.simulator) <;> rfl

theorem caches_release (program : ProgramRef) (host : Host) :
    (program.release host).caches = host.caches := by
  unfold ProgramRef.release Table.call onSimulator
  cases Simulator.programRelease program.handle
    (host.simulator program.provider.table.simulator) <;> rfl

theorem caches_releasePrograms (programs : List ProgramRef) (host : Host) :
    (releasePrograms programs host).caches = host.caches := by
  induction programs generalizing host with
  | nil => rfl
  | cons program programs ih => exact (ih (program.release host)).trans (caches_release program host)

theorem caches_ownerRelease (owner : Owner) (host : Host) :
    (owner.release host).caches = host.caches := by
  cases owner with
  | context | queue | event | kernel => exact caches_releaseWith _ _ _ host
  | image ended => exact caches_releasePrograms (ended.program :: ended.superseded) host

/-- What ends with a value stays in the caches, where it leads nowhere. -/
theorem caches_letGo (value : Managed) (host : Host) : (host.letGo value).caches = host.caches := by
  unfold letGo
  generalize value.ending host.held.values = owners
  induction owners generalizing host with
  | nil => rfl
  | cons owner owners ih => exact (ih (owner.release host)).trans (caches_ownerRelease owner host)

/-! ## The searches -/

/-- A search leaves everything as it is and finds one of the living, or brings back a new object where
none of the living is what is searched for. -/
structure Searched {α : Type} (host : Host) (living : List α) (identity : α → Nat)
    (wanted : α → Prop) (brought : α) (after : Host) : Prop where
  simulators : after.simulators = host.simulators
  held : after.held = host.held
  isWanted : wanted brought
  found : (brought ∈ living ∧ after.nextIdentity = host.nextIdentity) ∨
    (identity brought = host.nextIdentity ∧ after.nextIdentity = host.nextIdentity + 1 ∧
      ∀ other ∈ living, ¬ wanted other)

/-- The platform that is alive with a provider and a handle is found, or a new one is made. -/
theorem Covers.findOrMakePlatform (covers : host.Covers platforms devices)
    (alive : ∀ platform, platform ∈ platforms ↔
      platform ∈ host.platforms ++ pending.map Device.platform)
    (provider : Provider) (handle : PlatformHandle) :
    Ends (findOrMakePlatform provider handle pending : EStateM ε Host Platform) host
      (fun made after =>
        host.Searched platforms Platform.identity
          (fun platform => platform.provider = provider ∧ platform.handle = handle) made after ∧
        after.Covers (made :: platforms) devices)
      (fun _ _ => False) := by
  have searched : platforms ⊆ host.platforms ++ pending.map Device.platform :=
    fun platform => (alive platform).mp
  apply ends_findOrMakePlatform_of
  · intro platform found
    obtain ⟨entered, living⟩ := WeakCaches.upgrade?_eq_some.mp found
    have known := (alive platform).mpr living
    refine ⟨⟨rfl, rfl, WeakCaches.own_of_get? entered, Or.inl ⟨known, rfl⟩⟩, ?_⟩
    exact covers.fewer (List.cons_subset.mpr ⟨known, List.Subset.refl _⟩) (List.Subset.refl _)
  · intro missing
    refine ⟨⟨rfl, rfl, ⟨rfl, rfl⟩, Or.inr ⟨rfl, rfl, ?_⟩⟩, ?_, covers.devices⟩
    · exact fun _ => covers.platforms.not_mem_of_missing searched missing
    · exact covers.platforms.insert searched missing

/-- The device that is alive with a platform and a handle is found, or a new one is made. -/
theorem Covers.findOrMakeDevice (covers : host.Covers platforms devices)
    (alive : ∀ device, device ∈ devices ↔ device ∈ host.devices ++ pending)
    (platform : Platform) (handle : DeviceHandle) :
    Ends (findOrMakeDevice platform handle pending : EStateM ε Host Device) host
      (fun made after =>
        host.Searched devices Device.identity
          (fun device => device.platform = platform ∧ device.handle = handle) made after ∧
        after.Covers platforms (made :: devices))
      (fun _ _ => False) := by
  have searched : devices ⊆ host.devices ++ pending := fun device => (alive device).mp
  apply ends_findOrMakeDevice_of
  · intro device found
    obtain ⟨entered, living⟩ := WeakCaches.upgrade?_eq_some.mp found
    have known := (alive device).mpr living
    refine ⟨⟨rfl, rfl, WeakCaches.own_of_get? entered, Or.inl ⟨known, rfl⟩⟩, ?_⟩
    exact covers.fewer (List.Subset.refl _) (List.cons_subset.mpr ⟨known, List.Subset.refl _⟩)
  · intro missing
    refine ⟨⟨rfl, rfl, ⟨rfl, rfl⟩, Or.inr ⟨rfl, rfl, ?_⟩⟩, covers.platforms, ?_⟩
    · exact fun _ => covers.devices.not_mem_of_missing searched missing
    · exact covers.devices.insert searched missing

end Host

end ComputeImport
