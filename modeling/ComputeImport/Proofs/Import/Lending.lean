import ComputeImport.Proofs.Import.Provenance

/-!
# The handles that imports pass on

Every import passes only handles that are known, where the objects that are lent to it lead to known
ones.  What it brings back leads to known handles only.  The context, the device and the program that
something is wrapped with are lent, and their handles go to the backend of the import.
-/

namespace ComputeImport

variable {kind : ObjectKind} {α ε : Type} {foreign known wider : Knowledge}
  {provider : Provider} {registry : Registry} {backend : Backend}

/-- The wrapper of a platform. -/
def Platform.token (platform : Platform) : Token :=
  platform.provider.token platform.handle

/-- The wrapper of a device. -/
def Device.token (device : Device) : Token :=
  device.platform.provider.token device.handle

/-- The wrapper of a context. -/
def Context.token (context : Context) : Token :=
  context.provider.token context.handle

namespace Managed

/-- A value leads to known handles only. -/
structure Known (known : Knowledge) (value : Managed) : Prop where
  owners : ∀ owner ∈ value.owners, ∀ token ∈ owner.tokens, known token
  devices : ∀ device ∈ value.devices, known device.token
  platforms : ∀ platform ∈ value.platforms, known platform.token

variable {value whole : Managed}

theorem Known.mono (isKnown : value.Known known) (within : known.Within wider) :
    value.Known wider :=
  ⟨fun owner member token isToken => within token (isKnown.owners owner member token isToken),
    fun device member => within _ (isKnown.devices device member),
    fun platform member => within _ (isKnown.platforms platform member)⟩

/-- What leads nowhere else than a known value is known. -/
theorem Known.part (isKnown : whole.Known known) (owners : value.owners ⊆ whole.owners)
    (devices : value.devices ⊆ whole.devices) (platforms : value.platforms ⊆ whole.platforms) :
    value.Known known :=
  ⟨fun owner member => isKnown.owners owner (owners member),
    fun device member => isKnown.devices device (devices member),
    fun platform member => isKnown.platforms platform (platforms member)⟩

theorem known_provider (provider : Provider) : (Managed.provider provider).Known known :=
  ⟨fun _ => nofun, fun _ => nofun, fun _ => nofun⟩

theorem known_platform {platform : Platform} (isKnown : known platform.token) :
    (Managed.platform platform).Known known :=
  ⟨fun _ => nofun, fun _ => nofun, List.forall_mem_singleton.mpr isKnown⟩

theorem known_device {device : Device} (isKnown : known device.token)
    (platform : known device.platform.token) : (Managed.device device).Known known :=
  ⟨fun _ => nofun, List.forall_mem_singleton.mpr isKnown, List.forall_mem_singleton.mpr platform⟩

theorem known_context {context : Context} (isKnown : known context.token) :
    (Managed.context context).Known known :=
  ⟨List.forall_mem_singleton.mpr (List.forall_mem_singleton.mpr isKnown),
    fun _ => nofun, fun _ => nofun⟩

theorem known_queue {queue : Queue} (isKnown : known (queue.provider.token queue.handle))
    (context : (Managed.context queue.context).Known known)
    (device : (Managed.device queue.device).Known known) : (Managed.queue queue).Known known :=
  ⟨List.forall_mem_cons.mpr ⟨List.forall_mem_singleton.mpr isKnown, context.owners⟩,
    device.devices, device.platforms⟩

theorem known_event {event : Event} (isKnown : known (event.provider.token event.handle))
    (context : (Managed.context event.context).Known known) : (Managed.event event).Known known :=
  ⟨List.forall_mem_cons.mpr ⟨List.forall_mem_singleton.mpr isKnown, context.owners⟩,
    fun _ => nofun, fun _ => nofun⟩

theorem known_kernel {kernel : Kernel} (isKnown : known (kernel.provider.token kernel.handle))
    (context : (Managed.context kernel.context).Known known)
    (bundle : (Managed.bundle kernel.bundle).Known known) : (Managed.kernel kernel).Known known :=
  ⟨List.forall_mem_cons.mpr ⟨List.forall_mem_singleton.mpr isKnown,
      List.forall_mem_cons.mpr ⟨context.owners _ List.mem_cons_self, bundle.owners⟩⟩,
    bundle.devices, bundle.platforms⟩

/-- An image of a known bundle. -/
theorem Known.image {bundle : KernelBundle} {image : DeviceImage}
    (isKnown : (Managed.bundle bundle).Known known) (member : image ∈ bundle.images) :
    (Managed.image image).Known known := by
  have devices : (Managed.image image).devices ⊆ (Managed.bundle bundle).devices :=
    fun device isDevice => List.mem_append_right _ (List.mem_flatMap.mpr ⟨image, member, isDevice⟩)
  refine isKnown.part ?_ devices (List.map_subset _ devices)
  intro owner isOwner
  obtain rfl := List.mem_singleton.mp isOwner
  exact List.mem_cons_of_mem _ (List.mem_map_of_mem member)

end Managed

namespace Faithful

/-! ## Platforms and devices -/

/-- The device for a known handle leads to known handles. -/
theorem manageDevice {pending : List Device} {handle : DeviceHandle}
    (isKnown : known (provider.token handle)) :
    Faithful foreign known (ComputeImport.manageDevice provider pending handle)
      (fun device wider => (Managed.device device).Known wider) := by
  refine (native (call (.devicePlatform handle) rfl (List.forall_mem_singleton.mpr isKnown)
    fun _ => nofun)).bind fun platformHandle wider within brought => ?_
  refine silent_bind (fun platform => platform.handle = platformHandle ∧
    platform.provider = provider) (fun host => ends_findOrMakePlatform.imp (fun _ _ made => made)
      fun _ _ => False.elim) fun platform isPlatform => ?_
  refine (silent fun host => ends_findOrMakeDevice.imp (fun _ _ made => made)
    fun _ _ => False.elim).imp fun device later within' isDevice => ?_
  obtain ⟨rfl, rfl⟩ := isPlatform
  obtain ⟨rfl, rfl⟩ := isDevice
  exact Managed.known_device (within' _ (within _ isKnown))
    (within' _ (brought _ List.mem_cons_self))

theorem manageDevices {pending : List Device} {handles : List DeviceHandle}
    (areKnown : ∀ handle ∈ handles, known (provider.token handle)) :
    Faithful foreign known (ComputeImport.manageDevices provider pending handles)
      (fun devices wider => ∀ device ∈ devices, (Managed.device device).Known wider) := by
  induction handles generalizing pending known with
  | nil => exact pure fun _ => nofun
  | cons handle handles ih =>
      obtain ⟨first, rest⟩ := List.forall_mem_cons.mp areKnown
      refine (manageDevice first).bind fun device wider within isKnown => ?_
      refine (ih fun handle member => within _ (rest handle member)).bind
        fun devices later within' othersKnown => ?_
      exact pure (List.forall_mem_cons.mpr ⟨isKnown.mono within', othersKnown⟩)

theorem makePlatform {handle : NativeHandle} :
    Faithful foreign known (ComputeImport.makePlatform registry handle backend)
      (fun platform wider => (Managed.platform platform).Known wider) := by
  refine notify_bind (resolve_bind fun provider _ => ?_)
  refine (native (call (.platformCreate handle) rfl (fun _ => nofun) fun _ => nofun)).bind
    fun wrapper wider within brought => ?_
  refine (silent fun host => ends_findOrMakePlatform.imp (fun _ _ made => made)
    fun _ _ => False.elim).imp fun platform later within' isPlatform => ?_
  obtain ⟨rfl, rfl⟩ := isPlatform
  exact Managed.known_platform (within' _ (brought _ List.mem_cons_self))

theorem makeDevice {handle : NativeHandle} :
    Faithful foreign known (ComputeImport.makeDevice registry handle backend)
      (fun device wider => (Managed.device device).Known wider) := by
  refine notify_bind (resolve_bind fun provider _ => ?_)
  refine (native (call (.deviceCreate handle none) rfl (fun _ => nofun) fun _ => nofun)).bind
    fun wrapper wider within brought => ?_
  exact manageDevice (brought _ List.mem_cons_self)

/-! ## Contexts, queues and events -/

/-- The importer's own reference is taken, or dropped again, with the handle of the wrapper. -/
theorem takeReferenceIfNeeded {handle : Handle kind} {retain release : Handle kind → Native Unit}
    (retains releases : Call)
    (retained : Simulator.answer retains = do let _ ← retain handle; return .done)
    (released : Simulator.answer releases = do let _ ← release handle; return .done)
    (own : retains.own provider.table.simulator = [provider.token handle] ∧
      releases.own provider.table.simulator = [provider.token handle])
    (lent : retains.lent provider.table.simulator = [] ∧
      releases.lent provider.table.simulator = [])
    (isKnown : known (provider.token handle)) :
    Faithful foreign known
      (ComputeImport.takeReferenceIfNeeded provider handle retain release)
      (fun _ wider => wider (provider.token handle)) := by
  unfold ComputeImport.takeReferenceIfNeeded
  split
  · refine (attempt (call retains retained (by simpa [own] using isKnown) (by simp [lent]))).bind
      fun outcome wider within _ => ?_
    cases outcome with
    | ok _ => exact pure (within _ isKnown)
    | error e =>
        refine (attempt (call releases released (by simpa [own] using within _ isKnown)
          (by simp [lent]))).bind fun outcome later within' _ => ?_
        cases outcome with
        | ok _ => exact throw
        | error e' => exact notify_bind throw
  · exact pure isKnown

theorem makeContext {handle : NativeHandle} :
    Faithful foreign known (ComputeImport.makeContext registry handle backend)
      (fun context wider => (Managed.context context).Known wider) := by
  refine notify_bind (resolve_bind fun provider _ => ?_)
  refine (native (call (.contextCreate handle [] false) rfl (fun _ => nofun)
    fun _ => nofun)).bind fun wrapper wider within brought => ?_
  refine (takeReferenceIfNeeded (.contextRetain wrapper) (.contextRelease wrapper) rfl rfl
    ⟨rfl, rfl⟩ ⟨rfl, rfl⟩ (brought _ List.mem_cons_self)).bind fun _ later _ isKnown => ?_
  exact freshIdentity_bind fun identity => pure (Managed.known_context isKnown)

/-- The device of a queue is asked for with the handle of the queue, and the queue is released with
it as well. -/
theorem deviceOfQueue {queue : QueueHandle} (isKnown : known (provider.token queue)) :
    Faithful foreign known (ComputeImport.deviceOfQueue provider queue)
      (fun device wider => (Managed.device device).Known wider) := by
  have finds : Faithful foreign known (do
      let handle ← ComputeImport.native (provider.table.call (Simulator.queueDevice queue))
      ComputeImport.manageDevice provider [] handle)
      (fun device wider => (Managed.device device).Known wider) := by
    refine (native (call (.queueDevice queue) rfl (List.forall_mem_singleton.mpr isKnown)
      fun _ => nofun)).bind fun handle wider within brought => ?_
    exact manageDevice (brought _ List.mem_cons_self)
  have releases : Faithful foreign known
      (provider.table.call (Simulator.queueRelease queue)) _ :=
    call (.queueRelease queue) rfl (List.forall_mem_singleton.mpr isKnown) fun _ => nofun
  intro host
  rw [ends_deviceOfQueue_iff]
  apply (finds host).imp
  · exact fun _ _ ended => ended
  rintro e middle ⟨deeds, does, trusted⟩
  apply (releases middle).imp
  · rintro _ after ⟨more, does', trusted', -⟩
    exact ⟨deeds ++ more, does.trans does',
      trusted.append (trusted'.mono Knowledge.within_after)⟩
  · rintro e' after ⟨more, does', trusted'⟩
    have quiet : Does after [] (after.notify (.queueCleanupFailed queue e')) := .quiet rfl
    exact ⟨deeds ++ more, by simpa using (does.trans does').trans quiet,
      trusted.append (trusted'.mono Knowledge.within_after)⟩

end Faithful

/-- A context that is lent to imports through a provider has a known handle, which is known or else
foreign where it is passed. -/
structure Context.Lent (foreign known : Knowledge) (provider : Provider)
    (context : Context) : Prop where
  isKnown : (Managed.context context).Known known
  lent : known (provider.token context.handle) ∨ foreign (provider.token context.handle)

theorem Context.Lent.mono {context : Context} (lent : context.Lent foreign known provider)
    (within : known.Within wider) : context.Lent foreign wider provider :=
  ⟨lent.isKnown.mono within, lent.lent.imp_left (within _)⟩

namespace Faithful

variable {context : Context}

theorem makeQueue {handle : NativeHandle} {descriptor : Int32} {device : Option Device}
    {keeps : Bool} {properties : QueueProperties}
    (lent : ∀ provider, registry.provider? backend = some provider →
      context.Lent foreign known provider)
    (deviceKnown : ∀ chosen ∈ device, (Managed.device chosen).Known known)
    (deviceLent : ∀ provider, registry.provider? backend = some provider →
      ∀ chosen ∈ device, known (provider.token chosen.handle) ∨
        foreign (provider.token chosen.handle)) :
    Faithful foreign known (ComputeImport.makeQueue registry handle descriptor context device keeps
      properties backend) (fun queue wider => (Managed.queue queue).Known wider) := by
  refine notify_bind ?_
  dsimp only
  by_cases indexed : properties.computeIndex.isSome = true
  · rw [if_pos indexed]
    exact throw
  rw [if_neg indexed]
  refine resolve_bind fun provider resolved => ?_
  have passed : ∀ token ∈ (Call.queueCreate handle context.handle (device.map Device.handle)
      ⟨(Ownership.ofKeep keeps).ownsNative, properties.flags, descriptor⟩).lent
        provider.table.simulator, known token ∨ foreign token := by
    refine List.forall_mem_cons.mpr ⟨(lent provider resolved).lent, ?_⟩
    intro token member
    cases device with
    | none => contradiction
    | some chosen =>
        obtain rfl := List.mem_singleton.mp member
        exact deviceLent provider resolved chosen rfl
  refine (native (call (.queueCreate handle context.handle (device.map Device.handle) _) rfl
    (fun _ => nofun) passed)).bind fun wrapper wider within brought => ?_
  refine (takeReferenceIfNeeded (.queueRetain wrapper) (.queueRelease wrapper) rfl rfl
    ⟨rfl, rfl⟩ ⟨rfl, rfl⟩ (brought _ List.mem_cons_self)).bind fun _ later within' isKnown => ?_
  have contextKnown : (Managed.context context).Known later :=
    ((lent provider resolved).isKnown.mono within).mono within'
  cases device with
  | some chosen =>
      have chosenKnown := ((deviceKnown chosen rfl).mono within).mono within'
      have chooses : Faithful foreign later (Pure.pure chosen : ImportM Device) fun device wider =>
          (Managed.device device).Known wider := pure chosenKnown
      refine chooses.bind fun chosen latest within'' chosenKnown => ?_
      exact freshIdentity_bind fun identity =>
        pure (Managed.known_queue (within'' _ isKnown) (contextKnown.mono within'') chosenKnown)
  | none =>
      refine (deviceOfQueue isKnown).bind fun chosen latest within'' chosenKnown => ?_
      exact freshIdentity_bind fun identity =>
        pure (Managed.known_queue (within'' _ isKnown) (contextKnown.mono within'') chosenKnown)

theorem makeEvent {handle : NativeHandle} {keeps : Bool}
    (lent : ∀ provider, registry.provider? backend = some provider →
      context.Lent foreign known provider) :
    Faithful foreign known (ComputeImport.makeEvent registry handle context keeps backend)
      (fun event wider => (Managed.event event).Known wider) := by
  refine notify_bind (resolve_bind fun provider resolved => ?_)
  refine (native (call (.eventCreate handle context.handle _) rfl (fun _ => nofun)
    (List.forall_mem_singleton.mpr (lent provider resolved).lent))).bind
      fun wrapper wider within brought => ?_
  refine (takeReferenceIfNeeded (.eventRetain wrapper) (.eventRelease wrapper) rfl rfl
    ⟨rfl, rfl⟩ ⟨rfl, rfl⟩ (brought _ List.mem_cons_self)).bind fun _ later within' isKnown => ?_
  have contextKnown := ((lent provider resolved).isKnown.mono within).mono within'
  exact freshIdentity_bind fun identity => pure (Managed.known_event isKnown contextKnown)

/-! ## Programs -/

theorem listDevices {table : Table} {program : ProgramHandle}
    (isKnown : known (program.at table.simulator)) :
    Faithful foreign known (ComputeImport.listDevices table program)
      (fun handles wider => ∀ handle ∈ handles, wider (handle.at table.simulator)) := by
  have counts : Faithful foreign known (table.programNumDevices program) fun _ _ => True :=
    (call (.programNumDevices program) rfl (List.forall_mem_singleton.mpr isKnown)
      fun _ => nofun).bind fun _ _ _ _ => pure trivial
  refine counts.native.bind fun count wider within _ => ?_
  refine (native (call (.programDevices program) rfl
    (List.forall_mem_singleton.mpr (within _ isKnown)) fun _ => nofun)).bind
      fun handles later within' brought => ?_
  split
  · refine pure fun handle member => brought _ ?_
    exact List.mem_map_of_mem (f := fun id => (⟨table.simulator, .device, id⟩ : Token))
      (List.mem_map_of_mem member)
  · exact throw

/-- Whichever entry point is called, what it brings back is known. -/
theorem withFallback {operation : BuildOperation} {device : DeviceHandle}
    {perDevice whole : TableM α} {ok : α → Knowledge → Prop}
    (first : Faithful foreign known perDevice ok)
    (second : ∀ wider, known.Within wider → Faithful foreign wider whole ok) :
    Faithful foreign known (ComputeImport.withFallback operation device perDevice whole) ok := by
  refine first.attempt.bind fun outcome wider within brought => ?_
  cases outcome with
  | ok a => exact pure (brought a rfl)
  | error e =>
      dsimp only
      split
      · refine notify_bind ((second wider within).attempt.bind fun outcome later _ brought => ?_)
        cases outcome with
        | ok a => exact pure (brought a rfl)
        | error e => exact throw
      · exact throw

variable {builder : Builder} {program : ProgramHandle} {device : DeviceHandle}

theorem build_compile (lent : builder.context.Lent foreign known builder.provider)
    (isKnown : known (builder.provider.token program))
    (deviceKnown : known (builder.provider.token device)) :
    Faithful foreign known (builder.compile program device) fun _ _ => True := by
  refine withFallback (callFor ((call (.programCompileFor program [device] _) rfl
    (List.forall_mem_cons.mpr ⟨isKnown, List.forall_mem_singleton.mpr deviceKnown⟩)
    fun _ => nofun).imp fun _ _ _ _ => trivial)) fun wider within => ?_
  exact (call (.programCompile builder.context.handle program _) rfl
    (List.forall_mem_singleton.mpr (within _ isKnown))
    (List.forall_mem_singleton.mpr (lent.mono within).lent)).imp fun _ _ _ _ => trivial

theorem build_build (lent : builder.context.Lent foreign known builder.provider)
    (isKnown : known (builder.provider.token program))
    (deviceKnown : known (builder.provider.token device)) :
    Faithful foreign known (builder.build program device) fun _ _ => True := by
  refine withFallback (callFor ((call (.programBuildFor program [device] _) rfl
    (List.forall_mem_cons.mpr ⟨isKnown, List.forall_mem_singleton.mpr deviceKnown⟩)
    fun _ => nofun).imp fun _ _ _ _ => trivial)) fun wider within => ?_
  exact (call (.programBuild builder.context.handle program _) rfl
    (List.forall_mem_singleton.mpr (within _ isKnown))
    (List.forall_mem_singleton.mpr (lent.mono within).lent)).imp fun _ _ _ _ => trivial

theorem build_link (lent : builder.context.Lent foreign known builder.provider)
    (isKnown : known (builder.provider.token program))
    (deviceKnown : known (builder.provider.token device)) :
    Faithful foreign known (builder.link program device)
      (fun linked wider => wider (builder.provider.token linked)) := by
  refine withFallback (callFor ((call (.programLinkFor builder.context.handle [device] [program] _)
    rfl (List.forall_mem_cons.mpr ⟨deviceKnown, List.forall_mem_singleton.mpr isKnown⟩)
    (List.forall_mem_singleton.mpr lent.lent)).imp
      fun _ _ _ brought => brought _ List.mem_cons_self)) fun wider within => ?_
  exact (call (.programLink builder.context.handle [program] _) rfl
    (List.forall_mem_singleton.mpr (within _ isKnown))
    (List.forall_mem_singleton.mpr (lent.mono within).lent)).imp
      fun _ _ _ brought => brought _ List.mem_cons_self

variable {target : BundleState} {current : ProgramRef} {superseded : List ProgramRef}

theorem advanceDevice (lent : builder.context.Lent foreign known builder.provider)
    (isKnown : known (builder.provider.token current.handle))
    (deviceKnown : known (builder.provider.token device)) :
    Faithful foreign known (builder.advanceDevice target current device)
      (fun replacement wider => ∀ linked ∈ replacement, linked.provider = builder.provider ∧
        wider linked.token) := by
  refine (native (call (.programBinaryType current.handle device) rfl
    (List.forall_mem_cons.mpr ⟨isKnown, List.forall_mem_singleton.mpr deviceKnown⟩)
    fun _ => nofun)).bind fun discovered wider within _ => ?_
  refine notify_bind ?_
  have lent' := lent.mono within
  have isKnown' := within _ isKnown
  have deviceKnown' := within _ deviceKnown
  split
  · exact pure fun _ => nofun
  · exact throw
  · exact (build_compile lent' isKnown' deviceKnown').bind fun _ _ _ _ => pure fun _ => nofun
  · exact (build_build lent' isKnown' deviceKnown').bind fun _ _ _ _ => pure fun _ => nofun
  · refine (build_link lent' isKnown' deviceKnown').bind fun linked later _ linkedKnown => ?_
    refine notify_bind (pure ?_)
    rintro _ ⟨⟩
    exact ⟨rfl, linkedKnown⟩

/-- While a program is taken further, the programs that an import keeps are known, and so they are at
the end. -/
theorem advance {devices : List DeviceHandle}
    (lent : builder.context.Lent foreign known builder.provider)
    (currentOf : current.provider = builder.provider)
    (areKnown : ∀ program ∈ superseded ++ [current], known program.token)
    (devicesKnown : ∀ device ∈ devices, known (builder.provider.token device)) :
    Faithful foreign known (builder.advance target current superseded devices)
      (fun built wider => ∀ program ∈ built.current :: built.superseded, wider program.token) := by
  induction devices generalizing known current superseded with
  | nil =>
      refine pure fun program member => areKnown program ?_
      rcases List.mem_cons.mp member with rfl | member
      · exact List.mem_append_right _ List.mem_cons_self
      · exact List.mem_append_left _ member
  | cons device devices ih =>
      obtain ⟨deviceKnown, othersKnown⟩ := List.forall_mem_cons.mp devicesKnown
      have isKnown : known (builder.provider.token current.handle) := by
        rw [← currentOf]
        exact areKnown current (List.mem_append_right _ List.mem_cons_self)
      refine ((advanceDevice lent isKnown deviceKnown).orRelease
        (Innocent.releasePrograms areKnown)).bind fun replacement wider within brought => ?_
      have areKnown' : ∀ program ∈ superseded ++ [current], wider program.token :=
        fun program member => within _ (areKnown program member)
      have othersKnown' : ∀ device ∈ devices, wider (builder.provider.token device) :=
        fun device member => within _ (othersKnown device member)
      cases replacement with
      | none => exact ih (lent.mono within) currentOf areKnown' othersKnown'
      | some linked =>
          obtain ⟨linkedOf, linkedKnown⟩ := brought linked rfl
          refine ih (lent.mono within) linkedOf ?_ othersKnown'
          exact List.forall_mem_append.mpr ⟨areKnown', List.forall_mem_singleton.mpr linkedKnown⟩

theorem importProgram {handle : NativeHandle} {keeps : Bool}
    (lent : ∀ provider, registry.provider? backend = some provider →
      context.Lent foreign known provider) :
    Faithful foreign known
      (ComputeImport.importProgram registry handle context keeps target backend)
      (fun bundle wider => (Managed.bundle bundle).Known wider) := by
  refine notify_bind (timed (resolve_bind fun provider resolved => ?_))
  have lent := lent provider resolved
  refine (native (call (.programCreate handle context.handle _) rfl (fun _ => nofun)
    (List.forall_mem_singleton.mpr lent.lent))).bind fun wrapper wider within brought => ?_
  replace lent := lent.mono within
  refine (takeReferenceIfNeeded (.programRetain wrapper) (.programRelease wrapper) rfl rfl
    ⟨rfl, rfl⟩ ⟨rfl, rfl⟩ (brought _ List.mem_cons_self)).bind fun _ wider within isKnown => ?_
  replace lent := lent.mono within
  have ownKnown : ∀ program ∈ [(⟨wrapper, provider⟩ : ProgramRef)], wider program.token :=
    List.forall_mem_singleton.mpr isKnown
  refine ((listDevices isKnown).orRelease (Innocent.releasePrograms ownKnown)).bind
    fun handles wider within handlesKnown => ?_
  replace lent := lent.mono within
  refine notify_bind ?_
  have advances : Faithful foreign wider (Builder.advance ⟨provider, context, registry.options⟩
      target ⟨wrapper, provider⟩ [] handles) _ :=
    advance lent rfl (fun program member => within _ (ownKnown program member)) handlesKnown
  refine advances.bind fun built wider within builtKnown => ?_
  replace lent := lent.mono within
  refine ((manageDevices fun handle member => within _ (handlesKnown handle member)).orRelease
    (Innocent.releasePrograms builtKnown)).bind fun devices wider within devicesKnown => ?_
  replace lent := lent.mono within
  refine freshIdentity_bind fun identity => pure ?_
  have isDevice : ∀ device ∈ devices ++ (devices ++ []), device ∈ devices := by
    intro device member
    simpa using member
  constructor
  case owners =>
    refine List.forall_mem_cons.mpr ⟨lent.isKnown.owners _ List.mem_cons_self,
      List.forall_mem_singleton.mpr ?_⟩
    exact List.forall_mem_map.mpr fun program member => within _ (builtKnown program member)
  case devices =>
    exact fun device member =>
      (devicesKnown device (isDevice device member)).devices device List.mem_cons_self
  case platforms =>
    refine List.forall_mem_map.mpr fun device member => ?_
    exact (devicesKnown device (isDevice device member)).platforms _ List.mem_cons_self

/-! ## Kernels -/

theorem importKernel {bundle : KernelBundle} {handle : NativeHandle} {keeps : Bool}
    (lent : ∀ provider, registry.provider? backend = some provider →
      context.Lent foreign known provider)
    (bundleKnown : (Managed.bundle bundle).Known known)
    (bundleLent : ∀ provider, registry.provider? backend = some provider →
      ∀ image ∈ bundle.images, known (provider.token image.program.handle) ∨
        foreign (provider.token image.program.handle)) :
    Faithful foreign known
      (ComputeImport.importKernel registry context bundle handle keeps backend)
      (fun kernel wider => (Managed.kernel kernel).Known wider) := by
  refine notify_bind (timed (resolve_bind fun provider resolved => ?_))
  have lent := lent provider resolved
  split
  · exact throw
  have chosen : Faithful foreign known (kernelProgram? provider bundle) fun program _ =>
      ∀ handle ∈ program, known (provider.token handle) ∨ foreign (provider.token handle) := by
    unfold kernelProgram?
    split
    · split
      · rename_i image isImages
        refine pure ?_
        rintro _ ⟨⟩
        exact bundleLent provider resolved image (isImages ▸ List.mem_cons_self)
      · exact throw
    · exact pure fun _ => nofun
  refine chosen.bind fun program wider within programLent => ?_
  have passed : ∀ token ∈ (Call.kernelCreate handle context.handle program
      (Ownership.ofKeep keeps).ownsNative).lent provider.table.simulator,
        wider token ∨ foreign token := by
    refine List.forall_mem_cons.mpr ⟨(lent.mono within).lent, ?_⟩
    intro token member
    cases program with
    | none => contradiction
    | some handle =>
        obtain rfl := List.mem_singleton.mp member
        exact (programLent handle rfl).imp_left (within _)
  refine (native (call (.kernelCreate handle context.handle program _) rfl (fun _ => nofun)
    passed)).bind fun wrapper later within' brought => ?_
  refine (takeReferenceIfNeeded (.kernelRetain wrapper) (.kernelRelease wrapper) rfl rfl
    ⟨rfl, rfl⟩ ⟨rfl, rfl⟩ (brought _ List.mem_cons_self)).bind fun _ latest within'' isKnown => ?_
  refine notify_bind (freshIdentity_bind fun identity => pure ?_)
  exact Managed.known_kernel isKnown (((lent.isKnown.mono within).mono within').mono within'')
    (((bundleKnown.mono within).mono within').mono within'')

/-! ## Using what has been imported -/

theorem imageKernelNames {image : DeviceImage} (isKnown : (Managed.image image).Known known) :
    Faithful foreign known image.kernelNames fun _ _ => True := by
  have program : known image.program.token :=
    isKnown.owners _ List.mem_cons_self _ List.mem_cons_self
  refine get_bind fun host => ?_
  have stores : ∀ {wider : Knowledge} {names : List String}, Faithful foreign wider (do
      modify fun host : Host =>
        { host with kernelLists := host.kernelLists.set image.identity names }
      Pure.pure names : ImportM (List String)) fun _ _ => True :=
    silent_bind (fun _ => True) (fun _ => ⟨trivial, rfl⟩) fun _ _ => pure trivial
  split
  · exact pure trivial
  · split
    · exact (native (call (.programKernelNames image.program.handle) rfl
        (List.forall_mem_singleton.mpr program) fun _ => nofun)).bind fun _ _ _ _ => stores
    · have named : Faithful foreign known (Pure.pure [] : ImportM (List String)) fun _ _ => True :=
        pure trivial
      exact named.bind fun _ _ _ _ => stores
    · have named : Faithful foreign known (Pure.pure [] : ImportM (List String)) fun _ _ => True :=
        pure trivial
      exact named.bind fun _ _ _ _ => stores

theorem imageHasKernel {image : DeviceImage} {name : String}
    (isKnown : (Managed.image image).Known known) :
    Faithful foreign known (image.hasKernel name) fun _ _ => True :=
  (imageKernelNames isKnown).bind fun _ _ _ _ => pure trivial

theorem kernelNames {bundle : KernelBundle} (isKnown : (Managed.bundle bundle).Known known) :
    Faithful foreign known bundle.kernelNames fun _ _ => True := by
  have lists : ∀ {known : Knowledge} (images : List DeviceImage),
      (∀ image ∈ images, (Managed.image image).Known known) →
      Faithful foreign known (ComputeImport.imageKernelNames images) fun _ _ => True := by
    intro known images areKnown
    induction images generalizing known with
    | nil => exact pure trivial
    | cons image images ih =>
        obtain ⟨first, rest⟩ := List.forall_mem_cons.mp areKnown
        refine (imageKernelNames first).bind fun _ wider within _ => ?_
        refine (ih fun image member => (rest image member).mono within).bind fun _ _ _ _ => ?_
        exact pure trivial
  exact (lists bundle.images fun image => isKnown.image).bind fun _ _ _ _ => pure trivial

theorem hasKernel {bundle : KernelBundle} {name : String}
    (isKnown : (Managed.bundle bundle).Known known) :
    Faithful foreign known (bundle.hasKernel name) fun _ _ => True := by
  have asks : ∀ {known : Knowledge} (images : List DeviceImage),
      (∀ image ∈ images, (Managed.image image).Known known) →
      Faithful foreign known (imagesHaveKernel name images) fun _ _ => True := by
    intro known images areKnown
    induction images generalizing known with
    | nil => exact pure trivial
    | cons image images ih =>
        obtain ⟨first, rest⟩ := List.forall_mem_cons.mp areKnown
        refine (imageHasKernel first).bind fun found wider within _ => ?_
        split
        · exact pure trivial
        · exact ih fun image member => (rest image member).mono within
  exact asks bundle.images fun image => isKnown.image

theorem platformHandle {platform : Platform} (isKnown : known platform.token) :
    Faithful foreign known platform.nativeHandle fun _ _ => True :=
  (native (call (.platformNative platform.handle) rfl (List.forall_mem_singleton.mpr isKnown)
    fun _ => nofun)).imp fun _ _ _ _ => trivial

theorem reportedBackend {platform : Platform} (isKnown : known platform.token) :
    Faithful foreign known platform.reportedBackend fun _ _ => True :=
  (native (call (.platformBackend platform.handle) rfl (List.forall_mem_singleton.mpr isKnown)
    fun _ => nofun)).bind fun _ _ _ _ => pure trivial

theorem deviceHandle {device : Device} (isKnown : known device.token) :
    Faithful foreign known device.nativeHandle fun _ _ => True :=
  (native (call (.deviceNative device.handle) rfl (List.forall_mem_singleton.mpr isKnown)
    fun _ => nofun)).imp fun _ _ _ _ => trivial

theorem contextHandle (isKnown : known context.token) :
    Faithful foreign known context.nativeHandle fun _ _ => True :=
  (native (call (.contextNative context.handle) rfl (List.forall_mem_singleton.mpr isKnown)
    fun _ => nofun)).imp fun _ _ _ _ => trivial

variable {queue : Queue}

theorem queueHandle (isKnown : known (queue.provider.token queue.handle)) :
    Faithful foreign known queue.nativeHandle fun _ _ => True :=
  (native (call (.queueNative queue.handle) rfl (List.forall_mem_singleton.mpr isKnown)
    fun _ => nofun)).imp fun _ _ _ _ => trivial

theorem eventHandle {event : Event} (isKnown : known (event.provider.token event.handle)) :
    Faithful foreign known event.nativeHandle fun _ _ => True :=
  (native (call (.eventNative event.handle) rfl (List.forall_mem_singleton.mpr isKnown)
    fun _ => nofun)).imp fun _ _ _ _ => trivial

theorem kernelHandle {kernel : Kernel} (isKnown : known (kernel.provider.token kernel.handle)) :
    Faithful foreign known kernel.nativeHandle fun _ _ => True :=
  (native (call (.kernelNative kernel.handle) rfl (List.forall_mem_singleton.mpr isKnown)
    fun _ => nofun)).imp fun _ _ _ _ => trivial

/-- The device of a queue is lent to the queue, and a memory object is of the caller's own. -/
theorem nativeMem {memory : List (Nat × MemHandle)} {requirement : Nat}
    (memKnown : ∀ entry ∈ memory, known (queue.provider.token entry.2))
    (deviceLent : known (queue.provider.token queue.device.handle) ∨
      foreign (queue.provider.token queue.device.handle)) :
    Faithful foreign known (queue.nativeMem memory requirement) fun _ _ => True := by
  unfold Queue.nativeMem
  split
  · rename_i mem found
    exact (native (call (.memNative mem queue.device.handle) rfl
      (List.forall_mem_singleton.mpr (memKnown _ (List.mem_of_find?_eq_some found)))
      (List.forall_mem_singleton.mpr deviceLent))).imp fun _ _ _ _ => trivial
  · exact throw

end Faithful

end ComputeImport
