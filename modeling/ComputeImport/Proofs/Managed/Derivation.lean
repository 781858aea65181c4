import ComputeImport.Session.Run

/-!
# What is made of values without asking a backend

A part of a value is taken, or an image of a bundle, or a context is made into a bundle of its own, or
bundles are joined.  Whatever is derived from values in these ways leads to nothing but what they lead
to: to no other owners, through no other providers, and to no other devices and platforms.
-/

namespace ComputeImport

/-! ## What a value leads to -/

/-- The providers of an image and of its devices. -/
def DeviceImage.providers (image : DeviceImage) : List Provider :=
  image.program.provider :: image.devices.map fun device => device.platform.provider

/-- The providers that a bundle leads to. -/
def KernelBundle.providers (bundle : KernelBundle) : List Provider :=
  bundle.context.provider :: (bundle.devices.map fun device => device.platform.provider) ++
    bundle.images.flatMap DeviceImage.providers

/-- The providers that a value leads to, through which its parts may be asked. -/
def Managed.providers : Managed → List Provider
  | platform held => [held.provider]
  | device held => [held.platform.provider]
  | context held => [held.provider]
  | queue held => [held.provider, held.context.provider, held.device.platform.provider]
  | event held => [held.provider, held.context.provider]
  | image held => held.providers
  | bundle held => held.providers
  | kernel held => held.provider :: held.context.provider :: held.bundle.providers
  | provider held => [held]

namespace Session

variable {value whole : Managed}

/-- A device of several is reached through its own provider. -/
theorem led_device {devices : List Device} {index : Nat}
    (found : devices[index]?.map Managed.device = some value) :
    value.owners = [] ∧ ∀ provider ∈ value.providers,
      provider ∈ devices.map fun device => device.platform.provider := by
  rw [Option.map_eq_some_iff] at found
  obtain ⟨device, isDevice, rfl⟩ := found
  constructor
  · rfl
  · intro provider member
    obtain rfl := List.mem_singleton.mp member
    exact List.mem_map_of_mem (List.mem_of_getElem? isDevice)

/-- A part of a value leads to nothing that the value does not lead to. -/
theorem led_part {part : Part} (found : part? part whole = some value) :
    value.owners ⊆ whole.owners ∧ value.providers ⊆ whole.providers := by
  unfold part? at found
  split at found
  case h_5 | h_6 =>
    obtain ⟨owners, providers⟩ := led_device found
    constructor
    · rw [owners]
      exact List.nil_subset _
    · intro provider member
      have member := providers provider member
      simp [Managed.providers, KernelBundle.providers, DeviceImage.providers, member]
  case h_12 => contradiction
  all_goals
    obtain rfl := Option.some.inj found
    simp [Managed.owners, Managed.providers, KernelBundle.providers, KernelBundle.owners]

/-- A part of a value leads to no more platforms and devices than the value. -/
theorem devices_part {part : Part} (found : part? part whole = some value) :
    value.devices ⊆ whole.devices ∧ value.platforms ⊆ whole.platforms := by
  have several : ∀ {devices : List Device} {index : Nat},
      devices[index]?.map Managed.device = some value → devices ⊆ whole.devices →
      value.devices ⊆ whole.devices ∧ value.platforms ⊆ whole.devices.map Device.platform := by
    intro devices index isPart fewer
    obtain ⟨device, isDevice, rfl⟩ := Option.map_eq_some_iff.mp isPart
    have member := fewer (List.mem_of_getElem? isDevice)
    exact ⟨List.cons_subset.mpr ⟨member, List.nil_subset _⟩,
      List.cons_subset.mpr ⟨List.mem_map_of_mem member, List.nil_subset _⟩⟩
  unfold part? at found
  split at found
  case h_5 => exact several found (List.subset_append_left _ _)
  case h_6 => exact several found (List.Subset.refl _)
  case h_12 => contradiction
  all_goals
    obtain rfl := Option.some.inj found
    simp [Managed.devices, Managed.platforms]

theorem led_image {bundle : KernelBundle} {image : DeviceImage} (member : image ∈ bundle.images) :
    (Managed.image image).owners ⊆ (Managed.bundle bundle).owners ∧
      (Managed.image image).providers ⊆ (Managed.bundle bundle).providers := by
  constructor
  · intro owner isOwner
    obtain rfl := List.mem_singleton.mp isOwner
    exact List.mem_cons_of_mem _ (List.mem_map_of_mem member)
  · intro provider isProvider
    exact List.mem_append_right _ (List.mem_flatMap.mpr ⟨image, member, isProvider⟩)

/-- An image leads to no more platforms and devices than its bundle. -/
theorem devices_image {bundle : KernelBundle} {image : DeviceImage}
    (member : image ∈ bundle.images) :
    (Managed.image image).devices ⊆ (Managed.bundle bundle).devices := by
  intro device isDevice
  exact List.mem_append_right _ (List.mem_flatMap.mpr ⟨image, member, isDevice⟩)

/-- A joined bundle has the context of one of the bundles, and the devices and images of all. -/
theorem eq_of_join {bundles : List KernelBundle} {joined : KernelBundle}
    (isJoined : KernelBundle.join bundles = .ok joined) :
    ∃ first ∈ bundles, joined = ⟨first.context,
      addDevices [] (bundles.flatMap KernelBundle.devices), first.state,
      bundles.flatMap KernelBundle.images⟩ := by
  cases bundles with
  | nil => contradiction
  | cons first rest =>
      refine ⟨first, List.mem_cons_self, ?_⟩
      rw [KernelBundle.join] at isJoined
      cases checked : KernelBundle.checkJoin first rest with
      | error e =>
          rw [checked] at isJoined
          contradiction
      | ok _ =>
          rw [checked] at isJoined
          exact (Except.ok.inj isJoined).symm

section Joining

variable {bundles : List KernelBundle} {joined : KernelBundle} {device : Device}

theorem mem_union (member : device ∈ addDevices [] (bundles.flatMap KernelBundle.devices)) :
    ∃ bundle ∈ bundles, device ∈ bundle.devices := by
  rw [mem_addDevices] at member
  rcases member with member | member
  · contradiction
  · exact List.mem_flatMap.mp member

/-- A joined bundle leads to the owners that the bundles lead to. -/
theorem owners_join (isJoined : KernelBundle.join bundles = .ok joined) {owner : Owner}
    (member : owner ∈ joined.owners) : ∃ bundle ∈ bundles, owner ∈ bundle.owners := by
  obtain ⟨first, isFirst, rfl⟩ := eq_of_join isJoined
  rcases List.mem_cons.mp member with rfl | member
  · exact ⟨first, isFirst, List.mem_cons_self⟩
  · obtain ⟨image, isImage, rfl⟩ := List.mem_map.mp member
    obtain ⟨bundle, isBundle, isImage⟩ := List.mem_flatMap.mp isImage
    exact ⟨bundle, isBundle, (led_image isImage).1 List.mem_cons_self⟩

/-- A joined bundle leads to the providers that the bundles lead to. -/
theorem providers_join (isJoined : KernelBundle.join bundles = .ok joined) {provider : Provider}
    (member : provider ∈ joined.providers) : ∃ bundle ∈ bundles, provider ∈ bundle.providers := by
  obtain ⟨first, isFirst, rfl⟩ := eq_of_join isJoined
  rcases List.mem_append.mp member with member | member
  · rcases List.mem_cons.mp member with rfl | member
    · exact ⟨first, isFirst, List.mem_append_left _ List.mem_cons_self⟩
    · obtain ⟨device, isDevice, rfl⟩ := List.mem_map.mp member
      obtain ⟨bundle, isBundle, isDevice⟩ := mem_union isDevice
      refine ⟨bundle, isBundle, List.mem_append_left _ (List.mem_cons_of_mem _ ?_)⟩
      exact List.mem_map.mpr ⟨device, isDevice, rfl⟩
  · obtain ⟨image, isImage, isProvider⟩ := List.mem_flatMap.mp member
    obtain ⟨bundle, isBundle, isImage⟩ := List.mem_flatMap.mp isImage
    exact ⟨bundle, isBundle, (led_image isImage).2 isProvider⟩

/-- A joined bundle leads to the devices that the bundles lead to. -/
theorem devices_join (isJoined : KernelBundle.join bundles = .ok joined)
    (member : device ∈ joined.reachableDevices) :
    ∃ bundle ∈ bundles, device ∈ bundle.reachableDevices := by
  obtain ⟨first, -, rfl⟩ := eq_of_join isJoined
  rcases List.mem_append.mp member with member | member
  · obtain ⟨bundle, isBundle, isDevice⟩ := mem_union member
    exact ⟨bundle, isBundle, List.mem_append_left _ isDevice⟩
  · obtain ⟨image, isImage, isDevice⟩ := List.mem_flatMap.mp member
    obtain ⟨bundle, isBundle, isImage⟩ := List.mem_flatMap.mp isImage
    exact ⟨bundle, isBundle, devices_image isImage isDevice⟩

end Joining

end Session

/-! ## What is derived -/

namespace Managed

variable {values : List Managed} {value whole : Managed}

/-- What commands derive from values. -/
inductive DerivedFrom (values : List Managed) : Managed → Prop
  | whole {value : Managed} (member : value ∈ values) : DerivedFrom values value
  | part {part : Part} {whole value : Managed} (member : whole ∈ values)
      (found : Session.part? part whole = some value) : DerivedFrom values value
  | image {bundle : KernelBundle} {image : DeviceImage} (member : .bundle bundle ∈ values)
      (isImage : image ∈ bundle.images) : DerivedFrom values (.image image)
  | empty {context : Context} {state : BundleState} (member : .context context ∈ values) :
      DerivedFrom values (.bundle (.empty context state))
  | join {bundles : List KernelBundle} {joined : KernelBundle}
      (members : ∀ bundle ∈ bundles, .bundle bundle ∈ values)
      (isJoined : KernelBundle.join bundles = .ok joined) : DerivedFrom values (.bundle joined)

/-- A value leads to nothing but what others lead to. -/
structure LedBy (values : List Managed) (value : Managed) : Prop where
  owners : value.owners ⊆ values.flatMap owners
  providers : value.providers ⊆ values.flatMap providers
  devices : value.devices ⊆ values.flatMap devices
  platforms : value.platforms ⊆ values.flatMap platforms

/-- A value that leads to less than one of the others. -/
theorem LedBy.of_mem (member : whole ∈ values) (owners : value.owners ⊆ whole.owners)
    (providers : value.providers ⊆ whole.providers) (devices : value.devices ⊆ whole.devices)
    (platforms : value.platforms ⊆ whole.platforms) : value.LedBy values :=
  ⟨fun _ isOwner => List.mem_flatMap.mpr ⟨whole, member, owners isOwner⟩,
    fun _ isProvider => List.mem_flatMap.mpr ⟨whole, member, providers isProvider⟩,
    fun _ isDevice => List.mem_flatMap.mpr ⟨whole, member, devices isDevice⟩,
    fun _ isPlatform => List.mem_flatMap.mpr ⟨whole, member, platforms isPlatform⟩⟩

/-- A bundle alone leads to what its context leads to. -/
theorem LedBy.empty {context : Context} {state : BundleState} (member : .context context ∈ values) :
    (Managed.bundle (.empty context state)).LedBy values :=
  .of_mem member (List.Subset.refl _) (List.Subset.refl _) (List.Subset.refl _) (List.Subset.refl _)

theorem LedBy.join {bundles : List KernelBundle} {joined : KernelBundle}
    (members : ∀ bundle ∈ bundles, .bundle bundle ∈ values)
    (isJoined : KernelBundle.join bundles = .ok joined) : (Managed.bundle joined).LedBy values := by
  have reached : ∀ device ∈ joined.reachableDevices, ∃ bundle,
      .bundle bundle ∈ values ∧ device ∈ bundle.reachableDevices := by
    intro device isDevice
    obtain ⟨bundle, isBundle, isDevice⟩ := Session.devices_join isJoined isDevice
    exact ⟨bundle, members bundle isBundle, isDevice⟩
  constructor
  case owners =>
    intro owner isOwner
    obtain ⟨bundle, isBundle, isOwner⟩ := Session.owners_join isJoined isOwner
    exact List.mem_flatMap.mpr ⟨_, members bundle isBundle, isOwner⟩
  case providers =>
    intro provider isProvider
    obtain ⟨bundle, isBundle, isProvider⟩ := Session.providers_join isJoined isProvider
    exact List.mem_flatMap.mpr ⟨_, members bundle isBundle, isProvider⟩
  case devices =>
    intro device isDevice
    obtain ⟨bundle, isBundle, isDevice⟩ := reached device isDevice
    exact List.mem_flatMap.mpr ⟨_, isBundle, isDevice⟩
  case platforms =>
    intro platform isPlatform
    obtain ⟨device, isDevice, rfl⟩ := List.mem_map.mp isPlatform
    obtain ⟨bundle, isBundle, isDevice⟩ := reached device isDevice
    exact List.mem_flatMap.mpr ⟨_, isBundle, List.mem_map_of_mem isDevice⟩

/-- What is derived from values leads to nothing but what they lead to. -/
theorem DerivedFrom.ledBy (derived : value.DerivedFrom values) : value.LedBy values := by
  cases derived with
  | whole member =>
      exact .of_mem member (List.Subset.refl _) (List.Subset.refl _) (List.Subset.refl _)
        (List.Subset.refl _)
  | part member found =>
      obtain ⟨owners, providers⟩ := Session.led_part found
      obtain ⟨devices, platforms⟩ := Session.devices_part found
      exact .of_mem member owners providers devices platforms
  | image member isImage =>
      obtain ⟨owners, providers⟩ := Session.led_image isImage
      have devices := Session.devices_image isImage
      exact .of_mem member owners providers devices (List.map_subset _ devices)
  | empty member => exact .empty member
  | join members isJoined => exact .join members isJoined

end Managed

end ComputeImport
