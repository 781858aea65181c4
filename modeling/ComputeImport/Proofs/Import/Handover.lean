import ComputeImport.Proofs.Import.Custody

/-!
# What imports hand on

An import that succeeds hands the wrappers that it has made on to one new owner, an image together
with the programs that its program has replaced.  One that fails has none left.
-/

namespace ComputeImport

/-- The backend of a provider has been set up, and takes a reference to a new wrapper exactly where
the provider does not demand that the importer takes one. -/
def Provider.Suits (provider : Provider) (host : Host) : Prop :=
  provider.table.simulator ∈ host.simulators.keys ∧
    provider.demands.needsRetain =
      !(host.simulator provider.table.simulator).config.retainsOnImport

/-- Every provider that a registry resolves suits its backend. -/
def Registry.Suits (registry : Registry) (host : Host) : Prop :=
  ∀ backend provider, registry.provider? backend = some provider → provider.Suits host

section Imports

open Host

variable {α : Type} {start host : Host} {tokens : List Token} {kind : ObjectKind}
  {provider : Provider} {registry : Registry} {backend : Backend}

theorem Ledger.get?_ne_none_of_mem {κ α : Type} [DecidableEq κ] {ledger : Ledger κ α} {key : κ}
    (member : key ∈ ledger.keys) : ledger.get? key ≠ none := by
  rw [← Ledger.contains_iff_mem_keys, Ledger.contains] at member
  exact Option.isSome_iff_ne_none.mp member

theorem Provider.Suits.initialRefs (suits : provider.Suits start)
    (since : Since start none tokens host) :
    Simulator.initialRefs (host.simulator provider.table.simulator).config =
      if provider.demands.needsRetain then 0 else 1 := by
  rw [since.went.config_eq (Ledger.get?_ne_none_of_mem suits.1), suits.2, Simulator.initialRefs]
  cases (start.simulator provider.table.simulator).config.retainsOnImport <;> rfl

theorem ends_resolveSince (suits : registry.Suits start) (since : Since start none tokens host) :
    Ends (registry.resolve backend) host
      (fun provider after => provider.Suits start ∧ Since start none tokens after)
      (fun _ after => Since start none tokens after) := by
  apply Ends.imp ends_resolve
  · rintro provider after ⟨resolved, notice, rfl⟩
    exact ⟨suits backend provider resolved, since.of_simulators rfl⟩
  · rintro e after ⟨-, rfl⟩
    exact since

/-- A new wrapper comes into the custody of the import, or else nothing does. -/
theorem Host.Since.adopt {create : Native (Handle kind)} {creates : Call}
    {retain release : Handle kind → Native Unit} {next : Handle kind → ImportM α}
    {ok : α → Host → Prop} {failed : ImportError → Host → Prop}
    (since : Since start none tokens host) (retains : Handle kind → Call)
    (suits : provider.Suits start)
    (isCreate : IsCall create creates) (uncounted : creates.counted? = none)
    (answers : Simulator.Answers creates create (host.simulator provider.table.simulator)
      (fun handle store => (host.simulator provider.table.simulator).store.Adds kind
        (Simulator.initialRefs (host.simulator provider.table.simulator).config) handle.id store)
      (fun _ store => store = (host.simulator provider.table.simulator).store))
    (isRetain : ∀ handle, Simulator.answer (retains handle) = do retain handle; return .done)
    (counted : ∀ handle, (retains handle).counted? = some (.retain, kind, handle.id))
    (rest : ∀ handle after, Since start none (provider.token handle :: tokens) after →
      Ends (next handle) after ok failed)
    (failure : ∀ e after, Since start none tokens after → failed e after) :
    Ends (do
      let handle ← native (provider.table.call create)
      takeReferenceIfNeeded provider handle retain release
      next handle) host ok failed := by
  rw [suits.initialRefs since] at answers
  have created := since.create suits.1 isCreate uncounted answers
  apply Ends.bind (ends_native.mpr (created.imp (fun _ _ ended => ended) fun _ => failure _))
  intro handle middle fresh
  apply Ends.bind ((fresh.takeReference (isRetain handle) (counted handle)).imp
    (fun _ _ ended => ended) fun _ _ => False.elim)
  exact fun _ after taken => rest handle after taken

/-- An import hands the wrapper that it has made on to a new owner, or else leaves the custody as it
is. -/
theorem ends_makeContext {handle : NativeHandle} (suits : registry.Suits start)
    (since : Since start none tokens host) :
    Ends (makeContext registry handle backend) host
      (fun context after => Since start none ((Owner.context context).tokens ++ tokens) after ∧
        context.provider.Suits start)
      (fun _ after => Since start none tokens after) := by
  unfold makeContext
  rw [ends_bind, ends_notify]
  apply (ends_resolveSince suits (since.notify _)).bind
  rintro provider after ⟨isSuited, since⟩
  apply since.adopt Call.contextRetain isSuited (.of_answer (.contextCreate handle [] false) rfl) rfl
  case answers =>
    apply Simulator.answers_contextCreate.imp
    · exact fun _ _ wraps => wraps.adds (.refl _) (since.formed _)
    · exact fun _ _ unchanged => unchanged
  case isRetain => exact fun _ => rfl
  case counted => exact fun _ => rfl
  case rest =>
    intro wrapper after since
    rw [ends_bind, ends_freshIdentity]
    exact ⟨since.of_simulators rfl, isSuited⟩
  case failure => exact fun _ _ since => since

theorem ends_makeEvent {handle : NativeHandle} {context : Context} {keeps : Bool}
    (suits : registry.Suits start) (since : Since start none tokens host) :
    Ends (makeEvent registry handle context keeps backend) host
      (fun event after => Since start none ((Owner.event event).tokens ++ tokens) after ∧
        event.provider.Suits start ∧ event.context = context)
      (fun _ after => Since start none tokens after) := by
  unfold makeEvent
  rw [ends_bind, ends_notify]
  apply (ends_resolveSince suits (since.notify _)).bind
  rintro provider after ⟨isSuited, since⟩
  apply since.adopt Call.eventRetain isSuited
    (.of_answer (.eventCreate handle context.handle (Ownership.ofKeep keeps).ownsNative) rfl) rfl
  case answers =>
    apply Simulator.answers_eventCreate.imp
    · exact fun _ _ wraps => wraps.adds (.refl _) (since.formed _)
    · exact fun _ _ unchanged => unchanged
  case isRetain => exact fun _ => rfl
  case counted => exact fun _ => rfl
  case rest =>
    intro wrapper after since
    rw [ends_bind, ends_freshIdentity]
    exact ⟨since.of_simulators rfl, isSuited, rfl⟩
  case failure => exact fun _ _ since => since

theorem ends_importKernel {handle : NativeHandle} {context : Context} {bundle : KernelBundle}
    {keeps : Bool} (suits : registry.Suits start) (since : Since start none tokens host) :
    Ends (importKernel registry context bundle handle keeps backend) host
      (fun kernel after => Since start none ((Owner.kernel kernel).tokens ++ tokens) after ∧
        kernel.provider.Suits start ∧ kernel.context = context ∧ kernel.bundle = bundle)
      (fun _ after => Since start none tokens after) := by
  unfold importKernel
  rw [ends_bind, ends_notify]
  apply Ends.timed
  case value => exact fun _ _ notice ended => ⟨ended.1.notify notice, ended.2⟩
  case failure => exact fun _ _ notice ended => ended.notify notice
  apply (ends_resolveSince suits (since.notify _)).bind
  rintro provider after ⟨isSuited, since⟩
  split
  · exact since
  have chosen : Ends (kernelProgram? provider bundle) after
      (fun _ after => Since start none tokens after)
      (fun _ after => Since start none tokens after) := by
    unfold kernelProgram?
    split
    · split <;> exact since
    · exact since
  apply chosen.bind
  intro program after since
  apply since.adopt Call.kernelRetain isSuited (.of_answer
    (.kernelCreate handle context.handle program (Ownership.ofKeep keeps).ownsNative) rfl) rfl
  case answers =>
    apply Simulator.answers_kernelCreate.imp
    · exact fun _ _ made => made.2.adds (.refl _) (since.formed _)
    · exact fun _ _ failed => failed.1
  case isRetain => exact fun _ => rfl
  case counted => exact fun _ => rfl
  case rest =>
    intro wrapper after since
    rw [ends_bind, ends_notify, ends_bind, ends_freshIdentity]
    exact ⟨since.of_simulators rfl, isSuited, rfl, rfl⟩
  case failure => exact fun _ _ since => since

/-! ### Devices -/

/-- A quiet part of an import leaves the custody as it is. -/
theorem Host.Since.quiet {ε : Type} {program : EStateM ε Host α}
    (since : Since start none tokens host)
    (uses : Uses (fun number => number ∈ start.simulators.keys) EntryPoint.IsQuiet program) :
    Ends program host (fun _ after => Since start none tokens after)
      (fun _ after => Since start none tokens after) :=
  (uses _ Since.respects).ends host since

/-- The platform of a device that is found or made is one of the provider. -/
theorem ends_manageDevice_own {pending : List Device} {handle : DeviceHandle} :
    Ends (manageDevice provider pending handle) host
      (fun device _ => device.platform.provider = provider) (fun _ _ => True) := by
  apply Ends.trivial.bind
  intro platformHandle middle _
  apply (ends_findOrMakePlatform.imp (fun _ _ found => found) fun _ _ => False.elim).bind
  rintro platform middle ⟨⟨-, own⟩, -⟩
  apply ends_findOrMakeDevice.imp
  · rintro device _ ⟨⟨-, isPlatform⟩, -⟩
    rw [isPlatform, own]
  · exact fun _ _ => False.elim

theorem ends_manageDevices_own {pending : List Device} {handles : List DeviceHandle} :
    Ends (manageDevices provider pending handles) host
      (fun devices _ => ∀ device ∈ devices, device.platform.provider = provider)
      (fun _ _ => True) := by
  induction handles generalizing host pending with
  | nil => exact fun _ member => absurd member List.not_mem_nil
  | cons handle handles ih =>
      apply ends_manageDevice_own.bind
      intro device middle own
      apply ih.bind
      intro devices after owns
      rw [ends_pure, List.forall_mem_cons]
      exact ⟨own, owns⟩

/-- A platform is wrapped without a reference that is counted. -/
theorem ends_makePlatformSince {handle : NativeHandle} (suits : registry.Suits start)
    (since : Since start none tokens host) :
    Ends (makePlatform registry handle backend) host
      (fun platform after => Since start none tokens after ∧ platform.provider.Suits start)
      (fun _ after => Since start none tokens after) := by
  unfold makePlatform
  rw [ends_bind, ends_notify]
  apply (ends_resolveSince suits (since.notify _)).bind
  rintro provider middle ⟨isSuited, since⟩
  have wraps : Uses (fun number => number ∈ start.simulators.keys) EntryPoint.IsQuiet
      (native (provider.table.call (Simulator.platformCreate handle))) :=
    Uses.native (Uses.call (.of_answer (.platformCreate handle) rfl) isSuited.1 ⟨rfl, rfl⟩)
  apply (since.quiet wraps).bind
  intro wrapper after since
  apply Ends.imp (Ends.and (since.quiet (Uses.findOrMakePlatform provider wrapper []))
    ends_findOrMakePlatform)
  · rintro platform after ⟨since, ⟨-, own⟩, -⟩
    rw [own]
    exact ⟨since, isSuited⟩
  · exact fun _ _ ended => ended.1

/-- So is a device. -/
theorem ends_makeDeviceSince {handle : NativeHandle} (suits : registry.Suits start)
    (since : Since start none tokens host) :
    Ends (makeDevice registry handle backend) host
      (fun device after => Since start none tokens after ∧ device.platform.provider.Suits start)
      (fun _ after => Since start none tokens after) := by
  unfold makeDevice
  rw [ends_bind, ends_notify]
  apply (ends_resolveSince suits (since.notify _)).bind
  rintro provider middle ⟨isSuited, since⟩
  have wraps : Uses (fun number => number ∈ start.simulators.keys) EntryPoint.IsQuiet
      (native (provider.table.call (Simulator.deviceCreate handle none))) :=
    Uses.native (Uses.call (.of_answer (.deviceCreate handle none) rfl) isSuited.1 ⟨rfl, rfl⟩)
  apply (since.quiet wraps).bind
  intro wrapper after since
  apply Ends.imp (Ends.and (since.quiet (Uses.manageDevice isSuited.1 [] wrapper))
    ends_manageDevice_own)
  · rintro device after ⟨since, own⟩
    rw [own]
    exact ⟨since, isSuited⟩
  · exact fun _ _ ended => ended.1

/-- A queue whose device cannot be found is released. -/
theorem ends_deviceOfQueue {queue : QueueHandle} (suits : provider.Suits start)
    (since : Since start none (provider.token queue :: tokens) host) :
    Ends (deviceOfQueue provider queue) host
      (fun device after => Since start none (provider.token queue :: tokens) after ∧
        device.platform.provider = provider)
      (fun _ after => Since start none tokens after) := by
  have found : Ends (do
        let handle ← native (provider.table.call (Simulator.queueDevice queue))
        manageDevice provider [] handle) host
      (fun device after => Since start none (provider.token queue :: tokens) after ∧
        device.platform.provider = provider)
      (fun _ after => Since start none (provider.token queue :: tokens) after) := by
    have asks : Uses (fun number => number ∈ start.simulators.keys) EntryPoint.IsQuiet
        (native (provider.table.call (Simulator.queueDevice queue))) :=
      Uses.native (Uses.call (.of_answer (.queueDevice queue) rfl) suits.1 ⟨rfl, rfl⟩)
    apply (since.quiet asks).bind
    intro handle middle since
    apply Ends.imp (Ends.and (since.quiet (Uses.manageDevice suits.1 [] handle))
      ends_manageDevice_own)
    · exact fun _ _ ended => ended
    · exact fun _ _ ended => ended.1
  rw [ends_deviceOfQueue_iff]
  apply found.imp
  · exact fun _ _ ended => ended
  · intro e after since
    apply (since.release (.of_done (.queueRelease queue) rfl) rfl).imp
    · exact fun _ _ since => since
    · exact fun _ _ since => since.notify _

theorem ends_makeQueue {handle : NativeHandle} {descriptor : Int32} {context : Context}
    {device : Option Device} {keeps : Bool} {properties : QueueProperties}
    (suits : registry.Suits start) (since : Since start none tokens host) :
    Ends (makeQueue registry handle descriptor context device keeps properties backend) host
      (fun queue after => Since start none ((Owner.queue queue).tokens ++ tokens) after ∧
        queue.provider.Suits start ∧ queue.context = context ∧
        (device = some queue.device ∨ queue.device.platform.provider = queue.provider))
      (fun _ after => Since start none tokens after) := by
  unfold makeQueue
  rw [ends_bind, ends_notify]
  dsimp only
  by_cases given : properties.computeIndex.isSome = true
  · rw [if_pos given]
    exact since.notify _
  rw [if_neg given]
  apply (ends_resolveSince suits (since.notify _)).bind
  rintro provider after ⟨isSuited, since⟩
  apply since.adopt Call.queueRetain isSuited (.of_answer (.queueCreate handle context.handle
    (device.map Device.handle) _) rfl) rfl
  case answers =>
    apply Simulator.answers_queueCreate.imp
    · rintro _ _ ⟨_, _, quiet, -, -, wraps⟩
      exact wraps.adds quiet (since.formed _)
    · exact fun _ _ unchanged => unchanged
  case isRetain => exact fun _ => rfl
  case counted => exact fun _ => rfl
  case rest =>
    intro wrapper after since
    cases device with
    | some device =>
        rw [ends_bind, ends_pure, ends_bind, ends_freshIdentity]
        exact ⟨since.of_simulators rfl, isSuited, rfl, Or.inl rfl⟩
    | none =>
        apply (ends_deviceOfQueue isSuited since).bind
        rintro device after ⟨since, own⟩
        rw [ends_bind, ends_freshIdentity]
        exact ⟨since.of_simulators rfl, isSuited, rfl, Or.inr own⟩
  case failure => exact fun _ _ since => since

/-! ### Programs -/

/-- Whatever fails, the programs that an import has made are released. -/
theorem ends_orReleaseSince {programs : List ProgramRef} {body : ImportM α}
    {ok : α → Host → Prop}
    (ended : Ends body host ok
      (fun _ after => Since start none (programs.map ProgramRef.token ++ tokens) after)) :
    Ends (orRelease programs body) host ok (fun _ after => Since start none tokens after) :=
  ends_orRelease.mpr (ended.imp (fun _ _ ended => ended) fun _ _ since => since.releasePrograms)

/-- A link brings the wrapper of the new program into the custody of the import. -/
theorem ends_linkSince {builder : Builder} {program : ProgramHandle} {device : DeviceHandle}
    (isReached : builder.provider.table.simulator ∈ start.simulators.keys)
    (since : Since start none tokens host) :
    Ends (builder.link program device) host
      (fun linked after => Since start none (builder.provider.token linked :: tokens) after)
      (fun _ after => Since start none tokens after) := by
  have links : ∀ {host : Host} {call : Call} {link : Native ProgramHandle},
      Since start none tokens host → IsCall link call → call.counted? = none →
      (∀ sim : Simulator, sim.store.WellFormed → Simulator.Answers call link sim
        (fun handle store => sim.store.Adds .program 1 handle.id store)
        (fun _ store => store = sim.store)) →
      Ends (builder.provider.table.call link) host
        (fun linked after => Since start none (builder.provider.token linked :: tokens) after)
        (fun _ after => Since start none tokens after) := by
    intro host call link since isCall uncounted answers
    have created := @Since.create _ _ _ _ _ link call false since isReached isCall uncounted
      (answers _ (since.formed _))
    exact created
  have first : Ends (builder.provider.table.programLinkFor builder.context.handle [device] [program]
        builder.options.link) host
      (fun linked after => Since start none (builder.provider.token linked :: tokens) after)
      (fun _ after => Since start none tokens after) := by
    unfold Table.programLinkFor Table.callFor
    cases builder.provider.table.delegation with
    | some _ => exact since
    | none =>
        apply links since (.of_answer (.programLinkFor builder.context.handle [device] [program]
          builder.options.link) rfl) rfl
        intro sim formed
        apply Simulator.answers_programLinkFor_singleton.imp
        · rintro _ _ ⟨_, -, joins⟩
          exact joins.adds formed
        · exact fun _ _ failed => failed.1
  apply (Ends.withFallback first ?_).imp
  · exact fun _ _ ended => ended
  · exact fun _ _ ended => ended.2
  intro after since
  apply links (since.notify _) (.of_answer (.programLink builder.context.handle [program]
    builder.options.link) rfl) rfl
  intro sim formed
  apply Simulator.answers_programLink_singleton.imp
  · exact fun _ _ joins => joins.adds formed
  · exact fun _ _ failed => failed.1

/-- For one device, a program may take the place of the current one. -/
theorem ends_advanceDeviceSince {builder : Builder} {target : BundleState} {current : ProgramRef}
    {device : DeviceHandle}
    (isReached : builder.provider.table.simulator ∈ start.simulators.keys)
    (since : Since start none tokens host) :
    Ends (builder.advanceDevice target current device) host
      (fun next after =>
        match next with
        | none => Since start none tokens after
        | some linked => linked.provider = builder.provider ∧
            Since start none (linked.token :: tokens) after)
      (fun _ after => Since start none tokens after) := by
  have asks : Uses (fun number => number ∈ start.simulators.keys) EntryPoint.IsQuiet
      (native (builder.provider.table.call (Simulator.programBinaryType current.handle device))) :=
    Uses.native (Uses.call (.of_answer (.programBinaryType current.handle device) rfl) isReached
      ⟨rfl, rfl⟩)
  apply (since.quiet asks).bind
  intro stage middle since
  rw [ends_bind, ends_notify]
  generalize stage.plan target = action
  replace since := since.notify (.advancing current.handle device stage target action)
  cases action with
  | keep => exact since
  | mismatch => exact since
  | run operation =>
      cases operation with
      | compile =>
          apply (since.quiet (Uses.compile isReached current.handle device)).bind
          exact fun _ _ since => since
      | build =>
          apply (since.quiet (Uses.build isReached current.handle device)).bind
          exact fun _ _ since => since
      | link =>
          apply (ends_linkSince isReached since).bind
          intro linked after since
          rw [ends_bind, ends_notify]
          exact ⟨rfl, since.notify _⟩

/-- Over the devices, the import keeps the current program and those that it has replaced in its
custody; they all are at its end, and none is where it fails. -/
theorem ends_advanceSince {builder : Builder} {target : BundleState} {current : ProgramRef}
    {superseded : List ProgramRef} {devices : List DeviceHandle}
    (isReached : builder.provider.table.simulator ∈ start.simulators.keys)
    (own : current.provider = builder.provider)
    (since : Since start none ((current :: superseded).map ProgramRef.token ++ tokens) host) :
    Ends (builder.advance target current superseded devices) host
      (fun built after =>
        Since start none ((built.current :: built.superseded).map ProgramRef.token ++ tokens) after ∧
          built.current.provider = builder.provider)
      (fun _ after => Since start none tokens after) := by
  induction devices generalizing host current superseded with
  | nil => exact ⟨since, own⟩
  | cons device devices ih =>
      have older : ((current :: superseded).map ProgramRef.token ++ tokens).Perm
          ((superseded ++ [current]).map ProgramRef.token ++ tokens) := by
        apply List.Perm.append_right
        exact (List.perm_append_singleton current superseded).symm.map _
      have stepped : Ends (builder.advanceDevice target current device) host _
          (fun _ after =>
            Since start none ((superseded ++ [current]).map ProgramRef.token ++ tokens) after) :=
        (ends_advanceDeviceSince isReached since).imp (fun _ _ ended => ended)
          fun _ _ since => since.perm older
      apply (ends_orReleaseSince stepped).bind
      intro next after ended
      cases next with
      | none => exact ih own ended
      | some linked =>
          apply ih ended.1
          apply ended.2.perm
          exact older.cons linked.token

/-- A program is handed on with those that it has replaced. -/
theorem ends_importProgramSince {handle : NativeHandle} {context : Context} {keeps : Bool}
    {target : BundleState} (suits : registry.Suits start) (since : Since start none tokens host) :
    Ends (importProgram registry handle context keeps target backend) host
      (fun bundle after => ∃ image, bundle = ⟨context, image.devices, target, [image]⟩ ∧
        Since start none ((Owner.image image).tokens ++ tokens) after ∧
        image.program.provider.Suits start ∧
        ∀ device ∈ image.devices, device.platform.provider = image.program.provider)
      (fun _ after => Since start none tokens after) := by
  unfold importProgram
  rw [ends_bind, ends_notify]
  apply Ends.timed
  case value =>
    rintro bundle after notice ⟨image, isBundle, since, rest⟩
    exact ⟨image, isBundle, since.notify notice, rest⟩
  case failure => exact fun _ _ notice ended => ended.notify notice
  apply (ends_resolveSince suits (since.notify _)).bind
  rintro provider after ⟨isSuited, since⟩
  apply since.adopt Call.programRetain isSuited (.of_answer
    (.programCreate handle context.handle (Ownership.ofKeep keeps).ownsNative) rfl) rfl
  case answers =>
    apply Simulator.answers_programCreate.imp
    · exact fun _ _ wraps => wraps.adds (.refl _) (since.formed _)
    · exact fun _ _ failed => failed.1
  case isRetain => exact fun _ => rfl
  case counted => exact fun _ => rfl
  case failure => exact fun _ _ since => since
  case rest =>
    intro wrapper after since
    have listed := since.quiet (Uses.listDevices isSuited.1 wrapper)
    have released : Ends (orRelease [⟨wrapper, provider⟩] (listDevices provider.table wrapper)) after
        _ (fun _ after => Since start none tokens after) := ends_orReleaseSince listed
    apply released.bind
    intro handles after since
    rw [ends_bind, ends_notify]
    replace since := since.notify (.programImported wrapper handles.length (Ownership.ofKeep keeps))
    let builder : Builder := ⟨provider, context, registry.options⟩
    have advances : Ends (builder.advance target ⟨wrapper, provider⟩ [] handles) _ _ _ :=
      ends_advanceSince isSuited.1 rfl since
    apply advances.bind
    rintro ⟨current, superseded⟩ after ⟨since, own⟩
    have managed := Ends.and (since.quiet (Uses.manageDevices isSuited.1 [] handles))
      ends_manageDevices_own
    have released : Ends (orRelease (current :: superseded) (manageDevices provider [] handles))
        after _ (fun _ after => Since start none tokens after) :=
      ends_orReleaseSince (managed.imp (fun _ _ ended => ended) fun _ _ ended => ended.1)
    apply released.bind
    rintro devices after ⟨since, owns⟩
    rw [ends_bind, ends_freshIdentity]
    refine ⟨⟨after.nextIdentity, current, superseded, devices, target⟩, rfl,
      since.of_simulators rfl, ?_, ?_⟩
    · rw [own]
      exact isSuited
    · rw [own]
      exact owns

end Imports

end ComputeImport
