import ComputeImport.Proofs.Import.Joining
import ComputeImport.Proofs.Import.Sharing
import ComputeImport.Proofs.Session.Upkeep

/-!
# What the objects of a session share

In every session, the caches lead to all platforms and devices that are alive: each command keeps this of
what is held, and brings it about for what it makes, so that it holds after every run.  The devices of
images are settled meanwhile, on the platforms of their native devices.
-/

namespace ComputeImport

/-- The platforms that values lead to. -/
abbrev platformsOf (values : List Managed) : List Platform :=
  values.flatMap Managed.platforms

/-- The devices that values lead to. -/
abbrev devicesOf (values : List Managed) : List Device :=
  values.flatMap Managed.devices

/-- The images that values lead to. -/
abbrev imagesOf (values : List Managed) : List DeviceImage :=
  values.flatMap Managed.images

/-- The devices of the images that values lead to. -/
abbrev targetsOf (values : List Managed) : List Device :=
  (imagesOf values).flatMap DeviceImage.devices

/-- Values share their platforms and devices, which the caches lead to, and the devices of their images
are those of the tables that the images have been imported through. -/
structure Shares (values : List Managed) (host : Host) : Prop where
  sharing : Sharing (platformsOf values) (devicesOf values) (targetsOf values) host
  provided : ∀ image ∈ imagesOf values, ∀ device ∈ image.devices,
    device.platform.provider = image.program.provider

theorem Managed.devices_of_image {value : Managed} {image : DeviceImage}
    (member : image ∈ value.images) : image.devices ⊆ value.devices := by
  cases value with
  | image held =>
      obtain rfl := List.mem_singleton.mp member
      exact List.Subset.refl _
  | bundle held => exact Session.devices_image member
  | kernel held => exact Session.devices_image member
  | _ => contradiction

/-- A part of a value leads to no other images than the value. -/
theorem Session.images_part {part : Part} {value whole : Managed}
    (found : part? part whole = some value) : value.images ⊆ whole.images := by
  unfold part? at found
  split at found
  case h_5 | h_6 =>
    obtain ⟨device, -, rfl⟩ := Option.map_eq_some_iff.mp found
    exact List.nil_subset _
  case h_12 => contradiction
  all_goals
    obtain rfl := Option.some.inj found
    simp [Managed.images]

/-- A joined bundle leads to the images that the bundles lead to. -/
theorem Session.images_join {bundles : List KernelBundle} {joined : KernelBundle}
    (isJoined : KernelBundle.join bundles = .ok joined) {image : DeviceImage}
    (member : image ∈ joined.images) : ∃ bundle ∈ bundles, image ∈ bundle.images := by
  rw [(KernelBundle.join_eq_ok.mp isJoined).2.images] at member
  exact List.mem_flatMap.mp member

namespace Shares

variable {values fewer : List Managed} {host : Host} {value whole : Managed}
  {held : Ledger String Managed} {α ε : Type}

theorem mono (shares : Shares values host) (platforms : platformsOf fewer ⊆ platformsOf values)
    (devices : devicesOf fewer ⊆ devicesOf values) (images : imagesOf fewer ⊆ imagesOf values) :
    Shares fewer host := by
  refine ⟨shares.sharing.fewer platforms devices ?_, fun image member =>
    shares.provided image (images member)⟩
  intro device member
  obtain ⟨image, isImage, isDevice⟩ := List.mem_flatMap.mp member
  exact List.mem_flatMap.mpr ⟨image, images isImage, isDevice⟩

/-- One more value that leads to nothing else. -/
theorem cons (shares : Shares values host) (platforms : value.platforms ⊆ platformsOf values)
    (devices : value.devices ⊆ devicesOf values) (images : value.images ⊆ imagesOf values) :
    Shares (value :: values) host := by
  apply shares.mono
  · exact List.append_subset.mpr ⟨platforms, List.Subset.refl _⟩
  · exact List.append_subset.mpr ⟨devices, List.Subset.refl _⟩
  · exact List.append_subset.mpr ⟨images, List.Subset.refl _⟩

/-- A value other than a platform leads to the platforms of its devices. -/
theorem cons_devices (shares : Shares values host)
    (own : value.platforms = value.devices.map Device.platform)
    (devices : value.devices ⊆ devicesOf values) (images : value.images ⊆ imagesOf values) :
    Shares (value :: values) host := by
  refine shares.cons ?_ devices images
  rw [own]
  intro platform member
  obtain ⟨device, isDevice, rfl⟩ := List.mem_map.mp member
  obtain ⟨other, isOther, isDevice⟩ := List.mem_flatMap.mp (devices isDevice)
  exact List.mem_flatMap.mpr ⟨other, isOther, Managed.platform_mem isDevice⟩

/-- A queue leads to what its device leads to. -/
theorem cons_queue {queue : Queue} (shares : Shares (.device queue.device :: values) host) :
    Shares (.queue queue :: values) host := by
  apply shares.mono
  · exact List.Subset.refl (platformsOf (.device queue.device :: values))
  · exact List.Subset.refl (devicesOf (.device queue.device :: values))
  · exact List.Subset.refl (imagesOf (.device queue.device :: values))

theorem of_simulators {after : Host} (shares : Shares values host)
    (same : after.simulators = host.simulators) (caches : after.caches = host.caches) :
    Shares values after :=
  ⟨shares.sharing.of_simulators same caches, shares.provided⟩

/-- Whatever is done, what is held stays shared: no object that is entered in a cache takes the place of
one that is held. -/
theorem respects : Respects (fun _ => True) (fun _ => True) (Over Shares held) := by
  constructor
  case call =>
    exact fun host number call _ _ kept =>
      ⟨⟨kept.1.sharing.advance number (.call call), kept.1.provided⟩, kept.2⟩
  case enter =>
    rintro host caches enters ⟨shares, isHeld⟩
    subst isHeld
    have covers := shares.sharing.covers.enter (List.Subset.refl _) (List.Subset.refl _) enters
    exact ⟨⟨⟨covers, respects_settled.enter host caches enters shares.sharing.settled⟩,
      shares.provided⟩, rfl⟩
  case other =>
    exact fun _ _ same isHeld caches _ kept =>
      ⟨kept.1.of_simulators same caches, isHeld.trans kept.2⟩

/-- A value that goes leaves the others shared. -/
theorem letGo (shares : Shares values host) (value : Managed) : Shares values (host.letGo value) :=
  ⟨⟨shares.sharing.covers.of_caches (Host.caches_letGo value host),
    callsOnly_letGo value _ respects_settled host shares.sharing.settled⟩, shares.provided⟩

/-- What a value leads to is among what all values lead to. -/
theorem subset_of_mem {β : Type} {of : Managed → List β} (member : whole ∈ values) :
    of whole ⊆ values.flatMap of :=
  fun _ isPart => List.mem_flatMap.mpr ⟨whole, member, isPart⟩

theorem flatMap_subset {β : Type} {of : Managed → List β} (subset : fewer ⊆ values) :
    fewer.flatMap of ⊆ values.flatMap of := by
  intro part member
  obtain ⟨value, isValue, isPart⟩ := List.mem_flatMap.mp member
  exact subset_of_mem (subset isValue) isPart

/-! ## Imports -/

section Imports

variable {registry : Registry} {native : NativeHandle} {backend : Backend}

/-- Calls come first, and whatever they bring back does not matter. -/
theorem bind {β : Type} {body : ImportM α} {next : α → ImportM β} {ok : β → Host → Prop}
    (isHeld : host.held = held) (shares : Shares held.values host) (uses : OnlyCalls body)
    (rest : ∀ a after, after.held = held → Shares held.values after →
      Ends (next a) after ok (fun _ _ => True)) :
    Ends (body >>= next) host ok (fun _ _ => True) := by
  have kept := (uses _ respects).ends host ⟨shares, isHeld⟩
  exact (kept.imp (fun _ _ ended => ended) fun _ _ _ => trivial).bind
    fun a after ended => rest a after ended.2 ended.1

theorem targets_subset (isHeld : host.held = held) : targetsOf held.values ⊆ host.devices := by
  intro device member
  obtain ⟨image, isImage, isDevice⟩ := List.mem_flatMap.mp member
  obtain ⟨value, isValue, isImage⟩ := List.mem_flatMap.mp isImage
  rw [Host.devices, isHeld]
  exact List.mem_flatMap.mpr ⟨value, isValue, Managed.devices_of_image isImage isDevice⟩

theorem ends_makePlatform (isHeld : host.held = held) (shares : Shares held.values host) :
    Ends (makePlatform registry native backend) host
      (fun made after => Shares (.platform made :: held.values) after) (fun _ _ => True) := by
  apply shares.bind isHeld (Uses.notify _)
  intro _ host isHeld shares
  apply shares.bind isHeld (Uses.resolve registry backend)
  intro provider host isHeld shares
  apply shares.bind isHeld
    (Uses.native (OnlyCalls.call (.of_answer (.platformCreate native) rfl)))
  intro wrapper host isHeld shares
  subst isHeld
  have sharing : Sharing (([] : List Device).map Device.platform ++ host.platforms) _ _ host :=
    shares.sharing
  apply (sharing.findOrMakePlatform provider wrapper).imp
  · exact fun _ _ made => ⟨made.2.2.2.2, shares.provided⟩
  · exact fun _ _ => False.elim

/-- A device is managed among those that are held. -/
theorem ends_manageDevice (isHeld : host.held = held) (shares : Shares held.values host)
    (provider : Provider) (handle : DeviceHandle) :
    Ends (manageDevice provider [] handle) host
      (fun made after => Shares (.device made :: held.values) after) (fun _ _ => True) := by
  have living := targets_subset isHeld
  subst isHeld
  have sharing : Sharing (([] : List Device).map Device.platform ++ host.platforms)
      ([] ++ host.devices) _ host := shares.sharing
  apply (sharing.manageDevice living provider handle).imp
  · rintro made after ⟨-, -, sharing⟩
    exact ⟨sharing.fewer (List.Subset.refl _) (List.Subset.refl _) (List.subset_cons_self _ _),
      shares.provided⟩
  · exact fun _ _ _ => trivial

theorem ends_makeDevice (isHeld : host.held = held) (shares : Shares held.values host) :
    Ends (makeDevice registry native backend) host
      (fun made after => Shares (.device made :: held.values) after) (fun _ _ => True) := by
  apply shares.bind isHeld (Uses.notify _)
  intro _ host isHeld shares
  apply shares.bind isHeld (Uses.resolve registry backend)
  intro provider host isHeld shares
  apply shares.bind isHeld
    (Uses.native (OnlyCalls.call (.of_answer (.deviceCreate native none) rfl)))
  intro wrapper host isHeld shares
  exact shares.ends_manageDevice isHeld provider wrapper

theorem ends_findOrMakeDevice (isHeld : host.held = held) (shares : Shares held.values host)
    {platform : Platform} (living : .platform platform ∈ held.values) (handle : DeviceHandle) :
    Ends (findOrMakeDevice platform handle [] : EStateM ε Host Device) host
      (fun made after => Shares (.device made :: held.values) after) (fun _ _ => True) := by
  subst isHeld
  have sharing : Sharing _ ([] ++ host.devices) _ host := shares.sharing
  apply (sharing.findOrMakeDevice platform handle).imp
  · rintro made after ⟨rfl, -, -, -, sharing⟩
    refine ⟨sharing.fewer ?_ (List.Subset.refl _) (List.Subset.refl _), shares.provided⟩
    refine List.cons_subset.mpr ⟨?_, List.Subset.refl _⟩
    exact List.mem_flatMap.mpr ⟨_, living, List.mem_cons_self⟩
  · exact fun _ _ _ => trivial

/-- The device of a queue is managed among those that are held. -/
theorem ends_deviceOfQueue (isHeld : host.held = held) (shares : Shares held.values host)
    (provider : Provider) (wrapper : QueueHandle) :
    Ends (deviceOfQueue provider wrapper) host
      (fun made after => Shares (.device made :: held.values) after) (fun _ _ => True) := by
  apply ends_deviceOfQueue_iff.mpr
  have finds : Ends (do
      let handle ← ComputeImport.native (provider.table.call (Simulator.queueDevice wrapper))
      manageDevice provider [] handle) host
      (fun made after => Shares (.device made :: held.values) after) (fun _ _ => True) := by
    apply shares.bind isHeld (Uses.native (OnlyCalls.call (.of_answer (.queueDevice wrapper) rfl)))
    exact fun handle host isHeld shares => shares.ends_manageDevice isHeld provider handle
  exact finds.imp (fun _ _ ended => ended) fun _ _ _ => Ends.trivial

theorem ends_makeQueue (isHeld : host.held = held) (shares : Shares held.values host)
    {descriptor : Int32} {context : Context} {device : Option Device} {keeps : Bool}
    {properties : QueueProperties} (living : ∀ given, device = some given →
      .device given ∈ held.values) :
    Ends (makeQueue registry native descriptor context device keeps properties backend) host
      (fun made after => Shares (.queue made :: held.values) after) (fun _ _ => True) := by
  apply shares.bind isHeld (Uses.notify _)
  intro _ host isHeld shares
  dsimp only
  split
  · trivial
  apply shares.bind isHeld (Uses.resolve registry backend)
  intro provider host isHeld shares
  apply shares.bind isHeld (Uses.native (OnlyCalls.call (.of_answer (.queueCreate native context.handle
    (device.map Device.handle) _) rfl)))
  intro wrapper host isHeld shares
  apply shares.bind isHeld (OnlyCalls.takeReferenceIfNeeded provider
    (.of_done (.queueRetain wrapper) rfl) (.of_done (.queueRelease wrapper) rfl))
  intro _ host isHeld shares
  have holds : ∀ (device : Device) {host : Host}, Shares (.device device :: held.values) host →
      Ends (do
          let identity ← freshIdentity
          return ⟨identity, wrapper, context, device, properties, provider⟩ : ImportM Queue) host
        (fun made after => Shares (.queue made :: held.values) after) (fun _ _ => True) := by
    intro device host shares
    rw [ends_bind, ends_freshIdentity]
    exact ends_pure.mpr (@of_simulators _ host _ (cons_queue shares) rfl rfl)
  cases device with
  | some device =>
      exact holds device (shares.cons_devices rfl (subset_of_mem (living device rfl))
        (List.nil_subset _))
  | none =>
      exact (shares.ends_deviceOfQueue isHeld provider wrapper).bind
        fun device _ shares => holds device shares

theorem ends_importProgram (isHeld : host.held = held) (shares : Shares held.values host)
    {context : Context} {keeps : Bool} {target : BundleState} :
    Ends (importProgram registry native context keeps target backend) host
      (fun made after => Shares (.bundle made :: held.values) after) (fun _ _ => True) := by
  apply shares.bind isHeld (Uses.notify _)
  intro _ host isHeld shares
  apply Ends.timed _ (fun _ _ _ shares => shares.of_simulators rfl rfl) fun _ _ _ _ => trivial
  apply shares.bind isHeld (Uses.resolve registry backend)
  intro provider host isHeld shares
  apply shares.bind isHeld (Uses.native (OnlyCalls.call (.of_answer (.programCreate native
    context.handle (Ownership.ofKeep keeps).ownsNative) rfl)))
  intro wrapper host isHeld shares
  apply shares.bind isHeld (OnlyCalls.takeReferenceIfNeeded provider
    (.of_done (.programRetain wrapper) rfl) (.of_done (.programRelease wrapper) rfl))
  intro _ host isHeld shares
  apply shares.bind isHeld (OnlyCalls.orRelease (.of_quiet (Uses.listDevices trivial wrapper)))
  intro handles host isHeld shares
  apply shares.bind isHeld (Uses.notify _)
  intro _ host isHeld shares
  have advances : OnlyCalls (Builder.advance ⟨provider, context, registry.options⟩ target
      ⟨wrapper, provider⟩ [] handles) := OnlyCalls.advance _ _ _ _ _
  have owned : Ends (Builder.advance ⟨provider, context, registry.options⟩ target
      ⟨wrapper, provider⟩ [] handles) host
      (fun built _ => ∀ program ∈ built.current :: built.superseded, program.provider = provider)
      (fun _ _ => True) := ends_advance_own (List.forall_mem_singleton.mpr rfl)
  have advanced := ((advances _ respects).ends host ⟨shares, isHeld⟩).and owned
  apply (advanced.imp (fun _ _ ended => ended) fun _ _ _ => trivial).bind
  rintro built host ⟨⟨shares, isHeld⟩, owns⟩
  have living := targets_subset isHeld
  subst isHeld
  have sharing : Sharing (([] : List Device).map Device.platform ++ host.platforms)
      ([] ++ host.devices) ([] ++ targetsOf host.held.values) host := shares.sharing
  have manages := sharing.manageDevices living provider handles
  apply Ends.bind (ends_orRelease.mpr (manages.imp (fun _ _ ended => ended) fun _ _ _ => trivial))
  rintro devices after ⟨own, -, sharing⟩
  rw [ends_bind, ends_freshIdentity]
  refine ends_pure.mpr (@Shares.of_simulators _ after _ ⟨?_, ?_⟩ rfl rfl)
  · apply sharing.fewer
    · simp [Managed.platforms, Managed.devices, KernelBundle.reachableDevices, Host.platforms]
    · simp [Managed.devices, KernelBundle.reachableDevices, Host.devices]
    · simp [targetsOf, imagesOf, Managed.images]
  · apply List.forall_mem_cons.mpr ⟨?_, shares.provided⟩
    intro device member
    exact (own device member).trans (owns _ List.mem_cons_self).symm

theorem ends_importKernel (isHeld : host.held = held) (shares : Shares held.values host)
    {context : Context} {bundle : KernelBundle} {keeps : Bool}
    (isBundle : .bundle bundle ∈ held.values ∨ bundle = .empty context .executable) :
    Ends (importKernel registry context bundle native keeps backend) host
      (fun made after => Shares (.kernel made :: held.values) after) (fun _ _ => True) := by
  have imports : OnlyCalls (importKernel registry context bundle native keeps backend) :=
    OnlyCalls.importKernel _ _ _ _ _ _
  apply (((imports _ respects).ends host ⟨shares, isHeld⟩).and ends_importKernel_keeps).imp
  · rintro kernel after ⟨⟨shares, -⟩, rfl, rfl⟩
    rcases isBundle with isBundle | isEmpty
    · apply shares.cons_devices rfl
      · exact fun device member => List.mem_flatMap.mpr ⟨_, isBundle, member⟩
      · exact fun image member => List.mem_flatMap.mpr ⟨_, isBundle, member⟩
    · apply shares.cons_devices rfl
      · rw [Managed.devices, isEmpty]
        exact List.nil_subset _
      · rw [Managed.images, isEmpty]
        exact List.nil_subset _
  · exact fun _ _ _ => trivial

end Imports

/-- A backend that gets a new number takes the place of no other. -/
theorem setUp (shares : Shares values host) (config : SimulatorConfig) :
    Shares values { host with simulators := host.simulators.set host.simulators.size { config } } :=
  ⟨shares.sharing.setUp config, shares.provided⟩

theorem withstands (values : List Managed) : Upheld.Withstands (Shares values) :=
  fun _ number operation shares => ⟨shares.sharing.advance number operation, shares.provided⟩

/-- What is shared stays so, in all that is made. -/
theorem upheld (held : Ledger String Managed) : Upheld held Shares := by
  constructor
  case setUp => exact fun config shares => shares.setUp config
  constructor
  case fewer =>
    exact fun shares fewer =>
      shares.mono (flatMap_subset fewer) (flatMap_subset fewer) (flatMap_subset fewer)
  case overlooks => exact fun held => respects.overlooks
  case letGo => exact fun value shares => shares.letGo value
  case hold => exact fun _ shares => shares.of_simulators rfl rfl
  case bare =>
    intro values host value shares bare
    cases value with
    | context | event | provider =>
        exact shares.cons (List.nil_subset _) (List.nil_subset _) (List.nil_subset _)
    | _ => contradiction
  case part =>
    intro values host part whole value shares isHeld isPart
    obtain ⟨devices, platforms⟩ := Session.devices_part isPart
    exact shares.cons (List.Subset.trans platforms (subset_of_mem isHeld))
      (List.Subset.trans devices (subset_of_mem isHeld))
      (List.Subset.trans (Session.images_part isPart) (subset_of_mem isHeld))
  case image =>
    intro values host bundle image shares isHeld isImage
    apply shares.cons_devices rfl
    · exact List.Subset.trans (Session.devices_image isImage) (subset_of_mem isHeld)
    · exact List.cons_subset.mpr ⟨subset_of_mem isHeld isImage, List.nil_subset _⟩
  case empty =>
    exact fun shares _ => shares.cons_devices rfl (List.nil_subset _) (List.nil_subset _)
  case join =>
    intro values host bundles joined shares areHeld isJoined
    apply shares.cons_devices rfl
    · intro device isDevice
      obtain ⟨bundle, isBundle, isDevice⟩ := Session.devices_join isJoined isDevice
      exact subset_of_mem (areHeld bundle isBundle) isDevice
    · intro image isImage
      obtain ⟨bundle, isBundle, isImage⟩ := Session.images_join isJoined isImage
      exact subset_of_mem (areHeld bundle isBundle) isImage
  case platform => exact fun isHeld shares => shares.ends_makePlatform isHeld
  case device => exact fun isHeld shares => shares.ends_makeDevice isHeld
  case found => exact fun isHeld shares living => shares.ends_findOrMakeDevice isHeld living _
  case queue => exact fun isHeld shares _ isDevice => shares.ends_makeQueue isHeld isDevice
  case program => exact fun isHeld shares _ => shares.ends_importProgram isHeld
  case kernel => exact fun isHeld shares _ isBundle => shares.ends_importKernel isHeld isBundle
  case names =>
    intro held host value image kept _ _
    have asks : OnlyCalls image.kernelNames := .of_quiet (Uses.imageKernelNames trivial)
    exact ((asks _ respects).ends host kept).imp (fun _ _ ended => ended.1) fun _ _ ended => ended.1

end Shares

namespace Session

variable {session : Session}

theorem shares_opening (configs : List SimulatorConfig) (plans : List RegistryPlan)
    (environment : Text.Environment) :
    (opening configs plans environment).Maintains Shares := by
  rw [Maintains, held_opening]
  refine ⟨⟨⟨List.forall_mem_nil _, List.forall_mem_nil _⟩, fun _ => ?_⟩, List.forall_mem_nil _⟩
  exact ⟨Session.Reachable.wellFormed ⟨_, _, _, [], rfl⟩, List.forall_mem_nil _,
    List.forall_mem_nil _⟩

/-- Whatever a session has come to hold is shared, and the caches lead to it. -/
theorem Reachable.shares (reachable : session.Reachable) : session.Maintains Shares := by
  obtain ⟨configs, plans, environment, steps, rfl⟩ := reachable
  exact Upheld.run Shares.upheld Shares.withstands (shares_opening configs plans environment) steps

/-- So is whatever is alive after a step. -/
theorem Reachable.shares_step (reachable : session.Reachable) (next : Step) :
    Shares (shownValues (session.step next).1 ++ (session.step next).2.host.held.values)
      (session.step next).2.host :=
  Upheld.stepAny Shares.upheld Shares.withstands reachable.shares next

/-- In every session the caches lead to all platforms and devices that what is held leads to. -/
theorem Reachable.covered (reachable : session.Reachable) : session.host.Covered :=
  reachable.shares.sharing.covers

end Session

end ComputeImport
