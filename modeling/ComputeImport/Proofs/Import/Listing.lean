import ComputeImport.Proofs.Import.Uses

/-!
# Which programs list no kernels

The kernels of an image are asked for when they are first needed, and are remembered from then on.
No import does so, no object that ends, and none that hands its native object out: `Unlisting` says
of a program that it calls everything but the entry point that lists kernels, and that it leaves what
is remembered as it is.
-/

namespace ComputeImport

/-- What holds of a host is kept by all calls but those that list the kernels of a program, and when an
object is entered in a cache.  It depends on nothing but the backends, what is held, the caches, which
identities have been given, and which kernels are remembered. -/
structure Overlooks (holds : Host → Prop) : Prop where
  call : ∀ host number call, call.entryPoint ≠ .programKernelNames → holds host →
    holds (host.advance number ((host.simulator number).after (.call call)))
  enter : ∀ host caches, Host.Enters host caches → holds host → holds { host with caches }
  other : ∀ host after : Host, after.simulators = host.simulators → after.held = host.held →
    after.caches = host.caches → after.kernelLists = host.kernelLists →
    host.nextIdentity ≤ after.nextIdentity → holds host → holds after

/-- What does not depend on the caches, either. -/
theorem Overlooks.uncached {holds : Host → Prop}
    (call : ∀ host number call, call.entryPoint ≠ .programKernelNames → holds host →
      holds (host.advance number ((host.simulator number).after (.call call))))
    (other : ∀ host after : Host, after.simulators = host.simulators → after.held = host.held →
      after.kernelLists = host.kernelLists → host.nextIdentity ≤ after.nextIdentity →
      holds host → holds after) : Overlooks holds := by
  constructor
  case call => exact call
  case enter => exact fun host caches _ => other host _ rfl rfl rfl (Nat.le_refl _)
  case other => exact fun host after same held _ => other host after same held

/-- A program keeps whatever overlooks how kernels are listed. -/
def Unlisting {ε α : Type} (program : EStateM ε Host α) : Prop :=
  ∀ holds, Overlooks holds → Keeps holds program

/-- What is kept by all calls overlooks how kernels are listed. -/
theorem Respects.overlooks {holds : Host → Prop}
    (respects : Respects (fun _ => True) (fun _ => True) holds) : Overlooks holds :=
  ⟨fun host number call _ => respects.call host number call trivial trivial, respects.enter,
    fun host after same held caches _ => respects.other host after same held caches⟩

theorem Overlooks.notify {holds : Host → Prop} (overlooks : Overlooks holds) {host : Host}
    (notice : Notice) (kept : holds host) : holds (host.notify notice) :=
  overlooks.other host (host.notify notice) rfl rfl rfl rfl (Nat.le_refl _) kept

theorem Overlooks.and {holds holds' : Host → Prop} (first : Overlooks holds)
    (second : Overlooks holds') : Overlooks fun host => holds host ∧ holds' host := by
  constructor
  case call =>
    exact fun host number call unlisting kept =>
      ⟨first.call host number call unlisting kept.1, second.call host number call unlisting kept.2⟩
  case enter =>
    exact fun host caches enters kept =>
      ⟨first.enter host caches enters kept.1, second.enter host caches enters kept.2⟩
  case other =>
    exact fun host after same held caches lists le kept =>
      ⟨first.other host after same held caches lists le kept.1,
        second.other host after same held caches lists le kept.2⟩

/-- What is held stays as it is. -/
theorem overlooks_held (held : Ledger String Managed) : Overlooks fun host => host.held = held :=
  (respects_held held).overlooks

/-- What is remembered stays as it is. -/
theorem overlooks_kernelLists (lists : Ledger Nat (List String)) :
    Overlooks fun host => host.kernelLists = lists := by
  apply Overlooks.uncached
  case call => exact fun _ _ _ _ same => same
  case other => exact fun _ _ _ _ same' _ same => same'.trans same

namespace Unlisting

variable {ε α β : Type} {program : EStateM ε Host α} {table : Table} {kind : ObjectKind}

/-! ## The parts of a program -/

theorem pure (a : α) : Unlisting (Pure.pure a : EStateM ε Host α) :=
  fun _ _ => Keeps.pure a

theorem throw (e : ε) : Unlisting (MonadExcept.throw e : EStateM ε Host α) :=
  fun _ _ => Keeps.throw e

theorem get : Unlisting (MonadState.get : EStateM ε Host Host) :=
  fun _ _ => Keeps.get

theorem bind {next : α → EStateM ε Host β} (first : Unlisting program)
    (rest : ∀ a, Unlisting (next a)) : Unlisting (program >>= next) :=
  fun holds overlooks => (first holds overlooks).bind fun a => rest a holds overlooks

theorem notify (notice : Notice) : Unlisting (ComputeImport.notify notice : EStateM ε Host Unit) :=
  fun _ overlooks => ⟨fun _ kept => overlooks.notify notice kept⟩

theorem freshIdentity : Unlisting (ComputeImport.freshIdentity : EStateM ε Host Nat) :=
  fun _ overlooks => ⟨fun host kept =>
    overlooks.other host { host with nextIdentity := host.nextIdentity + 1 } rfl rfl rfl rfl
      (Nat.le_succ _) kept⟩

theorem call {step : Native α} {call : Call} (isCall : IsCall step call)
    (unlisting : call.entryPoint ≠ .programKernelNames) : Unlisting (table.call step) := by
  refine fun holds overlooks => ⟨fun host kept => ?_⟩
  have after := overlooks.call host table.simulator call unlisting kept
  rw [← isCall] at after
  exact ends_call.mpr (ends_stateAfter.mpr after)

theorem callFor {step : Native α} {entryPoint : String} {call : Call} (isCall : IsCall step call)
    (unlisting : call.entryPoint ≠ .programKernelNames) :
    Unlisting (table.callFor entryPoint step) := by
  unfold Table.callFor
  cases table.delegation with
  | some _ => exact throw _
  | none => exact Unlisting.call isCall unlisting

theorem native {call : TableM α} (unlisting : Unlisting call) :
    Unlisting (ComputeImport.native call) :=
  fun holds overlooks => ⟨fun host kept =>
    ends_native.mpr ((unlisting holds overlooks).ends host kept)⟩

theorem attempt {call : TableM α} (unlisting : Unlisting call) :
    Unlisting (ComputeImport.attempt call) :=
  fun holds overlooks => ⟨fun host kept =>
    ends_attempt.mpr ((unlisting holds overlooks).ends host kept)⟩

theorem timed {operation : String} {body : ImportM α} (unlisting : Unlisting body) :
    Unlisting (ComputeImport.timed operation body) :=
  fun holds overlooks => ⟨fun host kept => ((unlisting holds overlooks).ends host kept).timed
    (fun _ _ notice => overlooks.notify notice) fun _ _ notice => overlooks.notify notice⟩

theorem resolve (registry : Registry) (backend : Backend) : Unlisting (registry.resolve backend) := by
  unfold Registry.resolve
  split
  · exact bind get fun _ => bind (notify _) fun _ => pure _
  · exact throw _

/-! ## Letting go -/

/-- A step of the host keeps whatever overlooks how kernels are listed. -/
def Steps (step : Host → Host) : Prop :=
  ∀ holds, Overlooks holds → ∀ host, holds host → holds (step host)

theorem steps_foldl {items : List α} {step : Host → α → Host}
    (steps : ∀ item, Steps fun host => step host item) :
    Steps fun host => items.foldl step host := by
  intro holds overlooks host kept
  induction items generalizing host with
  | nil => exact kept
  | cons item items ih => exact ih (step host item) (steps item holds overlooks host kept)

theorem steps_releaseWith {provider : Provider} {handle : Handle kind}
    {release : Handle kind → Native Unit} {call : Call} (isCall : IsCall (release handle) call)
    (unlisting : call.entryPoint ≠ .programKernelNames) :
    Steps (Host.releaseWith provider handle release) := by
  intro holds overlooks host kept
  apply Host.holds_releaseWith isCall
  · exact overlooks.call host _ call unlisting kept
  · exact fun _ notice => overlooks.notify notice

theorem steps_releasePrograms (programs : List ProgramRef) : Steps (releasePrograms programs) := by
  apply steps_foldl
  intro program holds overlooks host kept
  apply program.holds_release
  · exact overlooks.call host _ (.programRelease program.handle) nofun kept
  · exact fun _ notice => overlooks.notify notice

theorem steps_ownerRelease (owner : Owner) : Steps owner.release := by
  cases owner with
  | context ended => exact steps_releaseWith (.of_done (.contextRelease ended.handle) rfl) nofun
  | queue ended => exact steps_releaseWith (.of_done (.queueRelease ended.handle) rfl) nofun
  | event ended => exact steps_releaseWith (.of_done (.eventRelease ended.handle) rfl) nofun
  | kernel ended => exact steps_releaseWith (.of_done (.kernelRelease ended.handle) rfl) nofun
  | image ended => exact steps_releasePrograms _

theorem steps_letGo (value : Managed) : Steps (Host.letGo value) :=
  fun holds overlooks host => steps_foldl steps_ownerRelease holds overlooks host

theorem orRelease {programs : List ProgramRef} {body : ImportM α} (unlisting : Unlisting body) :
    Unlisting (ComputeImport.orRelease programs body) := by
  refine fun holds overlooks => ⟨fun host kept => ?_⟩
  apply ends_orRelease.mpr
  apply ((unlisting holds overlooks).ends host kept).imp
  · exact fun _ _ kept => kept
  · exact fun _ after kept => steps_releasePrograms programs holds overlooks after kept

/-! ## Platforms, devices, contexts, queues and events -/

theorem findOrMakePlatform (provider : Provider) (handle : PlatformHandle)
    (pending : List Device) :
    Unlisting
      (ComputeImport.findOrMakePlatform provider handle pending : EStateM ε Host Platform) := by
  refine fun holds overlooks => ⟨fun host kept => ?_⟩
  apply ends_findOrMakePlatform_of
  · exact fun _ _ => kept
  · intro missing
    have given : holds { host with nextIdentity := host.nextIdentity + 1 } :=
      overlooks.other host _ rfl rfl rfl rfl (Nat.le_succ _) kept
    have enters : Host.Enters { host with nextIdentity := host.nextIdentity + 1 } _ :=
      @Host.Enters.platform _ _ ⟨host.nextIdentity, handle, provider⟩
        (List.subset_append_left _ _) missing
    exact overlooks.notify _ (overlooks.enter _ _ enters given)

theorem findOrMakeDevice (platform : Platform) (handle : DeviceHandle) (pending : List Device) :
    Unlisting (ComputeImport.findOrMakeDevice platform handle pending : EStateM ε Host Device) := by
  refine fun holds overlooks => ⟨fun host kept => ?_⟩
  apply ends_findOrMakeDevice_of
  · exact fun _ _ => kept
  · intro missing
    have given : holds { host with nextIdentity := host.nextIdentity + 1 } :=
      overlooks.other host _ rfl rfl rfl rfl (Nat.le_succ _) kept
    have enters : Host.Enters { host with nextIdentity := host.nextIdentity + 1 } _ :=
      @Host.Enters.device _ _ ⟨host.nextIdentity, handle, platform⟩
        (List.subset_append_left _ _) missing
    exact overlooks.notify _ (overlooks.enter _ _ enters given)

theorem manageDevice (provider : Provider) (pending : List Device) (handle : DeviceHandle) :
    Unlisting (ComputeImport.manageDevice provider pending handle) :=
  bind (native (call (.of_answer (.devicePlatform handle) rfl) nofun)) fun _ =>
    bind (findOrMakePlatform _ _ _) fun _ => findOrMakeDevice _ _ _

theorem manageDevices (provider : Provider) (pending : List Device) (handles : List DeviceHandle) :
    Unlisting (ComputeImport.manageDevices provider pending handles) := by
  induction handles generalizing pending with
  | nil => exact pure _
  | cons handle handles ih =>
      exact bind (manageDevice _ _ _) fun _ => bind (ih _) fun _ => pure _

theorem takeReferenceIfNeeded (provider : Provider) {handle : Handle kind}
    {retain release : Handle kind → Native Unit} {retains releases : Call}
    (isRetain : IsCall (retain handle) retains)
    (unlisting : retains.entryPoint ≠ .programKernelNames)
    (isRelease : IsCall (release handle) releases)
    (unlisting' : releases.entryPoint ≠ .programKernelNames) :
    Unlisting (ComputeImport.takeReferenceIfNeeded provider handle retain release) := by
  unfold ComputeImport.takeReferenceIfNeeded
  split
  · refine bind (attempt (call isRetain unlisting)) fun outcome => ?_
    cases outcome with
    | ok _ => exact pure _
    | error e =>
        refine bind (attempt (call isRelease unlisting')) fun outcome => ?_
        cases outcome with
        | ok _ => exact throw _
        | error e => exact bind (notify _) fun _ => throw _
  · exact pure _

theorem makePlatform (registry : Registry) (handle : NativeHandle) (backend : Backend) :
    Unlisting (ComputeImport.makePlatform registry handle backend) :=
  bind (notify _) fun _ => bind (resolve registry backend) fun _ =>
    bind (native (call (.of_answer (.platformCreate handle) rfl) nofun)) fun _ =>
      findOrMakePlatform _ _ _

theorem makeDevice (registry : Registry) (handle : NativeHandle) (backend : Backend) :
    Unlisting (ComputeImport.makeDevice registry handle backend) :=
  bind (notify _) fun _ => bind (resolve registry backend) fun _ =>
    bind (native (call (.of_answer (.deviceCreate handle none) rfl) nofun)) fun _ =>
      manageDevice _ _ _

theorem makeContext (registry : Registry) (handle : NativeHandle) (backend : Backend) :
    Unlisting (ComputeImport.makeContext registry handle backend) := by
  refine bind (notify _) fun _ => bind (resolve registry backend) fun provider => ?_
  refine bind (native (call (.of_answer (.contextCreate handle [] false) rfl) nofun))
    fun wrapper => ?_
  exact bind (takeReferenceIfNeeded provider (.of_done (.contextRetain wrapper) rfl) nofun
    (.of_done (.contextRelease wrapper) rfl) nofun) fun _ => bind freshIdentity fun _ => pure _

theorem deviceOfQueue (provider : Provider) (queue : QueueHandle) :
    Unlisting (ComputeImport.deviceOfQueue provider queue) := by
  refine fun holds overlooks => ⟨fun host kept => ?_⟩
  have found : Unlisting (do
      let handle ← ComputeImport.native (provider.table.call (Simulator.queueDevice queue))
      ComputeImport.manageDevice provider [] handle) :=
    bind (native (call (.of_answer (.queueDevice queue) rfl) nofun)) fun _ => manageDevice _ _ _
  have releases : Unlisting (provider.table.call (Simulator.queueRelease queue)) :=
    call (.of_done (.queueRelease queue) rfl) nofun
  rw [ends_deviceOfQueue_iff]
  apply ((found holds overlooks).ends host kept).imp
  · exact fun _ _ kept => kept
  · intro e after kept
    apply ((releases holds overlooks).ends after kept).imp
    · exact fun _ _ kept => kept
    · exact fun _ _ kept => overlooks.notify _ kept

theorem makeQueue (registry : Registry) (handle : NativeHandle) (descriptor : Int32)
    (context : Context) (device : Option Device) (keeps : Bool) (properties : QueueProperties)
    (backend : Backend) :
    Unlisting (ComputeImport.makeQueue registry handle descriptor context device keeps properties
      backend) := by
  refine bind (notify _) fun _ => ?_
  dsimp only
  by_cases given : properties.computeIndex.isSome = true
  · rw [if_pos given]
    exact throw _
  rw [if_neg given]
  refine bind (resolve registry backend) fun provider => ?_
  refine bind (native (call (.of_answer (.queueCreate handle context.handle
    (device.map Device.handle) _) rfl) nofun)) fun wrapper => ?_
  refine bind (takeReferenceIfNeeded provider (.of_done (.queueRetain wrapper) rfl) nofun
    (.of_done (.queueRelease wrapper) rfl) nofun) fun _ => ?_
  cases device with
  | some device => exact bind (pure device) fun _ => bind freshIdentity fun _ => pure _
  | none => exact bind (deviceOfQueue provider wrapper) fun _ => bind freshIdentity fun _ => pure _

theorem makeEvent (registry : Registry) (handle : NativeHandle) (context : Context)
    (keeps : Bool) (backend : Backend) :
    Unlisting (ComputeImport.makeEvent registry handle context keeps backend) := by
  refine bind (notify _) fun _ => bind (resolve registry backend) fun provider => ?_
  refine bind (native (call (.of_answer (.eventCreate handle context.handle
    (Ownership.ofKeep keeps).ownsNative) rfl) nofun)) fun wrapper => ?_
  exact bind (takeReferenceIfNeeded provider (.of_done (.eventRetain wrapper) rfl) nofun
    (.of_done (.eventRelease wrapper) rfl) nofun) fun _ => bind freshIdentity fun _ => pure _

/-! ## Programs and kernels -/

theorem listDevices (table : Table) (program : ProgramHandle) :
    Unlisting (ComputeImport.listDevices table program) := by
  refine bind (native (bind (call (.of_answer (.programNumDevices program) rfl) nofun)
    fun _ => pure _)) fun _ => ?_
  refine bind (native (call (.of_answer (.programDevices program) rfl) nofun)) fun _ => ?_
  split
  · exact pure _
  · exact throw _

theorem withFallback {operation : BuildOperation} {device : DeviceHandle}
    {perDevice whole : TableM α} (first : Unlisting perDevice) (second : Unlisting whole) :
    Unlisting (ComputeImport.withFallback operation device perDevice whole) := by
  refine bind (attempt first) fun outcome => ?_
  cases outcome with
  | ok a => exact pure a
  | error e =>
      dsimp only
      split
      · refine bind (notify _) fun _ => bind (attempt second) fun outcome => ?_
        cases outcome with
        | ok a => exact pure a
        | error e => exact throw _
      · exact throw _

theorem advanceDevice (builder : Builder) (target : BundleState) (current : ProgramRef)
    (device : DeviceHandle) : Unlisting (builder.advanceDevice target current device) := by
  refine bind (native (call (.of_answer (.programBinaryType current.handle device) rfl) nofun))
    fun stage => ?_
  refine bind (notify _) fun _ => ?_
  cases stage.plan target with
  | keep => exact pure _
  | mismatch => exact throw _
  | run operation =>
      cases operation with
      | compile =>
          refine bind (withFallback (callFor (.of_done (.programCompileFor current.handle [device]
            builder.options.compile) rfl) nofun) ?_) fun _ => pure _
          exact call (.of_done (.programCompile builder.context.handle current.handle
            builder.options.compile) rfl) nofun
      | build =>
          refine bind (withFallback (callFor (.of_done (.programBuildFor current.handle [device]
            builder.options.compile) rfl) nofun) ?_) fun _ => pure _
          exact call (.of_done (.programBuild builder.context.handle current.handle
            builder.options.compile) rfl) nofun
      | link =>
          refine bind (withFallback (callFor (.of_answer (.programLinkFor builder.context.handle
            [device] [current.handle] builder.options.link) rfl) nofun) ?_)
            fun _ => bind (notify _) fun _ => pure _
          exact call (.of_answer (.programLink builder.context.handle [current.handle]
            builder.options.link) rfl) nofun

theorem advance (builder : Builder) (target : BundleState) (current : ProgramRef)
    (superseded : List ProgramRef) (devices : List DeviceHandle) :
    Unlisting (builder.advance target current superseded devices) := by
  induction devices generalizing current superseded with
  | nil => exact pure _
  | cons device devices ih =>
      refine bind (orRelease (advanceDevice builder target current device)) fun next => ?_
      cases next with
      | none => exact ih current superseded
      | some linked => exact ih linked (superseded ++ [current])

theorem importProgram (registry : Registry) (handle : NativeHandle) (context : Context)
    (keeps : Bool) (target : BundleState) (backend : Backend) :
    Unlisting (ComputeImport.importProgram registry handle context keeps target backend) := by
  refine bind (notify _) fun _ => timed (bind (resolve registry backend) fun provider => ?_)
  refine bind (native (call (.of_answer (.programCreate handle context.handle
    (Ownership.ofKeep keeps).ownsNative) rfl) nofun)) fun wrapper => ?_
  refine bind (takeReferenceIfNeeded provider (.of_done (.programRetain wrapper) rfl) nofun
    (.of_done (.programRelease wrapper) rfl) nofun) fun _ => ?_
  refine bind (orRelease (listDevices _ wrapper)) fun handles => bind (notify _) fun _ => ?_
  refine bind (advance _ target _ [] handles) fun built => ?_
  exact bind (orRelease (manageDevices provider [] handles)) fun _ =>
    bind freshIdentity fun _ => pure _

theorem importKernel (registry : Registry) (context : Context) (bundle : KernelBundle)
    (handle : NativeHandle) (keeps : Bool) (backend : Backend) :
    Unlisting (ComputeImport.importKernel registry context bundle handle keeps backend) := by
  refine bind (notify _) fun _ => timed (bind (resolve registry backend) fun provider => ?_)
  split
  · exact throw _
  have chooses : Unlisting (kernelProgram? provider bundle) := by
    unfold kernelProgram?
    split
    · split
      · exact pure _
      · exact throw _
    · exact pure _
  refine bind chooses fun program => ?_
  refine bind (native (call (.of_answer (.kernelCreate handle context.handle program
    (Ownership.ofKeep keeps).ownsNative) rfl) nofun)) fun wrapper => ?_
  refine bind (takeReferenceIfNeeded provider (.of_done (.kernelRetain wrapper) rfl) nofun
    (.of_done (.kernelRelease wrapper) rfl) nofun) fun _ => ?_
  exact bind (notify _) fun _ => bind freshIdentity fun _ => pure _

/-! ## Handing native objects out again -/

theorem platformHandle (platform : Platform) : Unlisting platform.nativeHandle :=
  native (call (.of_answer (.platformNative platform.handle) rfl) nofun)

theorem reportedBackend (platform : Platform) : Unlisting platform.reportedBackend :=
  bind (native (call (.of_answer (.platformBackend platform.handle) rfl) nofun)) fun _ => pure _

theorem deviceHandle (device : Device) : Unlisting device.nativeHandle :=
  native (call (.of_answer (.deviceNative device.handle) rfl) nofun)

theorem contextHandle (context : Context) : Unlisting context.nativeHandle :=
  native (call (.of_answer (.contextNative context.handle) rfl) nofun)

theorem queueHandle (queue : Queue) : Unlisting queue.nativeHandle :=
  native (call (fun sim => (stateAfter_bind_pure _ (fun (native, descriptor) =>
    Answer.queue native descriptor) sim).symm : IsCall _ (.queueNative queue.handle)) nofun)

theorem eventHandle (event : Event) : Unlisting event.nativeHandle :=
  native (call (.of_answer (.eventNative event.handle) rfl) nofun)

theorem kernelHandle (kernel : Kernel) : Unlisting kernel.nativeHandle :=
  native (call (.of_answer (.kernelNative kernel.handle) rfl) nofun)

theorem nativeMem (queue : Queue) (memory : List (Nat × MemHandle)) (requirement : Nat) :
    Unlisting (queue.nativeMem memory requirement) := by
  unfold Queue.nativeMem
  split
  · rename_i mem _
    exact native (call (.of_answer (.memNative mem queue.device.handle) rfl) nofun)
  · exact throw _

end Unlisting

end ComputeImport
