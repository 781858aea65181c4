import ComputeImport.Proofs.Import.Failure
import ComputeImport.Proofs.Session.Export

/-!
# When a kernel is imported

A kernel is imported exactly where its backend resolves, the bundle is executable and the native kernel
fits what the table demands of the bundle and what the backend needs.  Otherwise the import is refused
for the first reason that applies, before the table is called or by the one call that wraps the kernel,
and changes no object.
-/

namespace ComputeImport

open Simulator

/-- A native kernel is live and may be wrapped.  Where the table demands the program of a kernel, that is
the one behind the only image of the bundle; otherwise the backend needs none. -/
def Provider.Accepts (provider : Provider) (bundle : KernelBundle) (handle : NativeHandle)
    (sim : Simulator) : Prop :=
  ∃ program refs, sim.store.natives.get? handle = some ⟨.kernel program, refs⟩ ∧
    ((provider.demands.kernelNeedsProgram = true ∧
        ∃ image, bundle.images = [image] ∧ sim.store.Behind image.program.handle program) ∨
      (provider.demands.kernelNeedsProgram = false ∧ sim.config.kernelNeedsProgram = false))

/-- Why an import of a kernel is refused, in the order in which the reasons are looked for. -/
inductive KernelRefusal (registry : Registry) (bundle : KernelBundle) (handle : NativeHandle)
    (backend : Backend) (host : Host) : ImportError → Prop
  | unresolved (unresolved : registry.provider? backend = none) :
      KernelRefusal registry bundle handle backend host (.unsupportedBackend backend)
  | unready {provider : Provider} (resolved : registry.provider? backend = some provider)
      (unready : bundle.state ≠ .executable) :
      KernelRefusal registry bundle handle backend host (.bundleNotExecutable bundle.state)
  | misshapen {provider : Provider} (resolved : registry.provider? backend = some provider)
      (ready : bundle.state = .executable) (needs : provider.demands.kernelNeedsProgram = true)
      (misshapen : bundle.images.length ≠ 1) :
      KernelRefusal registry bundle handle backend host (.bundleShape bundle.images.length)
  | unaccepted {provider : Provider} {cause : NativeError}
      (resolved : registry.provider? backend = some provider) (ready : bundle.state = .executable)
      (shaped : provider.demands.kernelNeedsProgram = true → bundle.images.length = 1)
      (unaccepted : ¬ provider.Accepts bundle handle
        (host.simulator provider.table.simulator)) :
      KernelRefusal registry bundle handle backend host (.native cause)

/-- No object has changed, neither one of a backend nor a managed one, and where the error is not that of a
call, none has been made. -/
structure Host.Untouched (host : Host) (e : ImportError) (after : Host) : Prop where
  stores : ∀ number, (after.simulator number).store = (host.simulator number).store
  held : after.held = host.held
  uncalled : (∀ cause, e ≠ .native cause) → after.simulators = host.simulators

/-- A kernel has been imported against a context and a bundle. -/
structure Provider.Imported (provider : Provider) (context : Context) (bundle : KernelBundle)
    (handle : NativeHandle) (kernel : Kernel) (after : Host) : Prop where
  keepsContext : kernel.context = context
  keepsBundle : kernel.bundle = bundle
  through : kernel.provider = provider
  behind : (after.simulator provider.table.simulator).store.Behind kernel.handle handle

section Import

variable {registry : Registry} {context : Context} {bundle : KernelBundle} {handle : NativeHandle}
  {keeps : Bool} {backend : Backend} {provider : Provider} {host : Host}

/-- The program that a kernel is wrapped together with. -/
theorem ends_kernelProgram (handle : NativeHandle) :
    Ends (kernelProgram? provider bundle) host
      (fun program after => after = host ∧
        (provider.demands.kernelNeedsProgram = true → bundle.images.length = 1) ∧
        ∀ sim : Simulator, sim.Fits handle program ↔ provider.Accepts bundle handle sim)
      (fun e after => after = host ∧ e = .bundleShape bundle.images.length ∧
        provider.demands.kernelNeedsProgram = true ∧ bundle.images.length ≠ 1) := by
  unfold kernelProgram?
  split
  · rename_i needs
    split
    · rename_i image images
      refine ⟨rfl, fun _ => by rw [images]; rfl, fun sim => ?_⟩
      constructor
      · rintro ⟨program, refs, found, behind⟩
        exact ⟨program, refs, found, Or.inl ⟨needs, image, images, behind⟩⟩
      · rintro ⟨program, refs, found, ⟨-, image', images', behind⟩ | ⟨needless, -⟩⟩
        · rw [images] at images'
          cases images'
          exact ⟨program, refs, found, behind⟩
        · exact absurd (needless.symm.trans needs) Bool.false_ne_true
    · rename_i several
      refine ⟨rfl, rfl, needs, fun single => ?_⟩
      obtain ⟨image, images⟩ := List.length_eq_one_iff.mp single
      exact several image images
  · rename_i needless
    rw [Bool.not_eq_true] at needless
    refine ⟨rfl, fun needs => absurd (needless.symm.trans needs) Bool.false_ne_true, fun sim => ?_⟩
    constructor
    · rintro ⟨program, refs, found, unneeded⟩
      exact ⟨program, refs, found, Or.inr ⟨needless, unneeded⟩⟩
    · rintro ⟨program, refs, found, ⟨needs, -⟩ | ⟨-, unneeded⟩⟩
      · exact absurd (needless.symm.trans needs) Bool.false_ne_true
      · exact ⟨program, refs, found, unneeded⟩

/-- A reference to a wrapper that is live is refused only where that has been told to fail. -/
theorem ends_takeKernelReference {wrapper : KernelHandle}
    (behind : (host.simulator provider.table.simulator).store.Behind wrapper handle)
    (unset : (host.simulator provider.table.simulator).failures.get? .kernelRetain = none) :
    Ends (takeReferenceIfNeeded provider wrapper kernelRetain kernelRelease) host
      (fun _ after => (after.simulator provider.table.simulator).store.Behind wrapper handle)
      (fun _ _ => False) := by
  unfold takeReferenceIfNeeded takeReference
  split
  · have retains : Ends (kernelRetain wrapper) (host.simulator provider.table.simulator)
        (fun _ after => after.store.Behind wrapper handle) (fun _ _ => False) := by
      have answers : Answers (.kernelRetain wrapper) (kernelRetain wrapper)
          (host.simulator provider.table.simulator) _ _ := (Works.onStore Store.ends_retain).answers
      refine Ends.imp answers ?_ ?_
      · rintro _ after ⟨-, -, found, isFound, isKind, equal⟩
        rw [equal]
        exact (Store.Recounts.of_recounted isFound (by rw [isKind]; decide)).behind behind
      · rintro e after ⟨-, ⟨told, -⟩ | ⟨-, -, -, dead⟩⟩
        · exact Option.some_ne_none e (told.symm.trans unset)
        · exact dead behind.hasWrapper
    rw [ends_bind, ends_attempt]
    exact retains.call.imp (fun _ _ ended => ended) fun _ _ ended => ended.elim
  · exact behind

/-- A kernel that no call has been told to refuse is wrapped where it fits. -/
theorem ends_createKernel {program : Option ProgramHandle} {ownsNative : Bool} {number : Nat}
    (isNumber : provider.table.simulator = number)
    (live : (host.simulator number).store.HasWrapper context.handle)
    (unset : (host.simulator number).failures.get? .kernelCreate = none ∧
      (host.simulator number).failures.get? .kernelRetain = none) :
    Ends (native (provider.table.call (kernelCreate handle context.handle program ownsNative))) host
      (fun wrapper after => (host.simulator number).Fits handle program ∧
        (after.simulator number).store.Behind wrapper handle ∧
        (after.simulator number).failures.get? .kernelRetain = none)
      (fun e after => (∃ cause, e = .native cause) ∧
        ¬ (host.simulator number).Fits handle program ∧
        (∀ other, (after.simulator other).store = (host.simulator other).store) ∧
        after.held = host.held) := by
  subst isNumber
  rw [ends_native, ends_call]
  refine Ends.imp answers_kernelCreate ?_ ?_
  · rintro wrapper made ⟨recorded, -, fits, wraps⟩
    rw [Host.simulator_advance_self]
    refine ⟨fits, ⟨_, wraps.get?_wrappers, rfl, rfl⟩, ?_⟩
    rw [recorded.failures, Ledger.get?_erase, if_neg nofun]
    exact unset.2
  · rintro e made ⟨recorded, ⟨told, -⟩ | ⟨-, unchanged, unfit⟩⟩
    · exact absurd (told.symm.trans unset.1) (Option.some_ne_none e)
    refine ⟨⟨e, rfl⟩, unfit live, fun other => ?_, rfl⟩
    rw [Host.simulator_advance]
    split
    · rename_i isOther
      rw [← isOther]
      exact unchanged
    · rfl

/-- A kernel is imported, or refused for the first reason that applies. -/
theorem ends_importKernelExactly
    (live : ∀ provider, registry.provider? backend = some provider →
      (host.simulator provider.table.simulator).store.HasWrapper context.handle)
    (unset : ∀ provider, registry.provider? backend = some provider →
      (host.simulator provider.table.simulator).failures.get? .kernelCreate = none ∧
        (host.simulator provider.table.simulator).failures.get? .kernelRetain = none) :
    Ends (importKernel registry context bundle handle keeps backend) host
      (fun kernel after => ∃ provider, registry.provider? backend = some provider ∧
        bundle.state = .executable ∧
        provider.Accepts bundle handle (host.simulator provider.table.simulator) ∧
        provider.Imported context bundle handle kernel after)
      (fun e after => KernelRefusal registry bundle handle backend host e ∧ host.Untouched e after) := by
  unfold importKernel
  rw [ends_bind, ends_notify]
  apply Ends.timed
  case value =>
    rintro kernel after notice ⟨provider, resolved, ready, accepts, imported⟩
    exact ⟨provider, resolved, ready, accepts, imported.keepsContext, imported.keepsBundle,
      imported.through, imported.behind⟩
  case failure =>
    exact fun _ _ _ ended => ⟨ended.1, ended.2.stores, ended.2.held, ended.2.uncalled⟩
  unfold Registry.resolve
  cases resolved : registry.provider? backend with
  | none => exact ⟨.unresolved resolved, fun _ => rfl, rfl, fun _ => rfl⟩
  | some provider =>
      rw [ends_bind, ends_bind, ends_get, ends_bind, ends_notify]
      generalize noted : Host.notify _ _ = start
      have same : ∀ number, start.simulator number = host.simulator number := by
        rw [← noted]
        exact fun _ => rfl
      have held : start.held = host.held := by
        rw [← noted]
        rfl
      split
      · rename_i unready
        exact ⟨.unready resolved unready, fun number => by rw [same], held, fun _ => noted ▸ rfl⟩
      rename_i ready
      rw [not_not] at ready
      refine ((ends_kernelProgram handle).imp (fun _ _ ended => ended) ?_).bind ?_
      · rintro e after ⟨rfl, rfl, needs, misshapen⟩
        exact ⟨.misshapen resolved ready needs misshapen, fun number => by rw [same], held,
          fun _ => noted ▸ rfl⟩
      rintro program start ⟨rfl, shaped, fits⟩
      have creates := @ends_createKernel context handle provider start program
        (Ownership.ofKeep keeps).ownsNative _ rfl
      simp only [same, fits] at creates
      have created := creates (live provider resolved) (unset provider resolved)
      refine (created.imp (fun _ _ ended => ended) ?_).bind ?_
      · rintro _ after ⟨⟨cause, rfl⟩, refused, stores, held'⟩
        exact ⟨.unaccepted resolved ready shaped refused, stores, held'.trans held,
          fun uncaused => absurd rfl (uncaused cause)⟩
      rintro wrapper made ⟨accepts, behind, unset⟩
      refine ((ends_takeKernelReference behind unset).imp (fun _ _ ended => ended) ?_).bind ?_
      · exact fun _ _ refused => refused.elim
      intro _ after behind
      rw [ends_bind, ends_notify, ends_bind, ends_freshIdentity]
      exact ⟨provider, rfl, ready, accepts, rfl, rfl, rfl, behind⟩

theorem KernelRefusal.not_accepts {e : ImportError}
    (refused : KernelRefusal registry bundle handle backend host e) :
    ¬ ∃ provider, registry.provider? backend = some provider ∧ bundle.state = .executable ∧
      provider.Accepts bundle handle (host.simulator provider.table.simulator) := by
  rintro ⟨provider, resolved, ready, accepts⟩
  cases refused with
  | unresolved unresolved => exact Option.some_ne_none _ (resolved.symm.trans unresolved)
  | unready _ unready => exact unready ready
  | misshapen resolved' _ needs misshapen =>
      obtain rfl := Option.some.inj (resolved.symm.trans resolved')
      obtain ⟨program, refs, -, ⟨-, image, images, -⟩ | ⟨needless, -⟩⟩ := accepts
      · exact misshapen (by rw [images]; rfl)
      · exact Bool.false_ne_true (needless.symm.trans needs)
  | unaccepted resolved' _ _ unaccepted =>
      obtain rfl := Option.some.inj (resolved.symm.trans resolved')
      exact unaccepted accepts

/-- In every session over backends that were given, whatever their tables demand and whatever they are
like, a kernel is imported exactly where its backend resolves, the bundle is executable and the native
kernel is accepted.  Otherwise the first reason that applies is given, and no object has changed.  A
kernel without a bundle of its own is imported against an empty one, and taken over. -/
theorem importKernel_exact {session : Session} (indirect : session.Indirect)
    (alive : .context context ∈ session.host.owners)
    (through : ∀ provider, registry.provider? backend = some provider → context.provider = provider)
    (unset : ∀ provider, registry.provider? backend = some provider →
      (session.host.simulator provider.table.simulator).failures.get? .kernelCreate = none ∧
        (session.host.simulator provider.table.simulator).failures.get? .kernelRetain = none) :
    ((∃ kernel after, importKernel registry context bundle handle keeps backend session.host =
        .ok kernel after) ↔
      ∃ provider, registry.provider? backend = some provider ∧ bundle.state = .executable ∧
        provider.Accepts bundle handle (session.host.simulator provider.table.simulator)) ∧
    (∀ kernel after,
      importKernel registry context bundle handle keeps backend session.host = .ok kernel after →
      ∃ provider, registry.provider? backend = some provider ∧
        provider.Imported context bundle handle kernel after) ∧
    (∀ e after,
      importKernel registry context bundle handle keeps backend session.host = .error e after →
      KernelRefusal registry bundle handle backend session.host e ∧
        session.host.Untouched e after) ∧
    makeKernel registry handle context backend =
      importKernel registry context (.empty context .executable) handle false backend := by
  have live : ∀ provider, registry.provider? backend = some provider →
      (session.host.simulator provider.table.simulator).store.HasWrapper context.handle := by
    intro provider resolved
    rw [← through provider resolved]
    exact indirect.live_context alive
  have ends : Ends (importKernel registry context bundle handle keeps backend) session.host _ _ :=
    ends_importKernelExactly live unset
  refine ⟨⟨?_, ?_⟩, ?_, fun e after => ends.of_error, rfl⟩
  · rintro ⟨kernel, after, outcome⟩
    obtain ⟨provider, resolved, ready, accepts, -⟩ := ends.of_ok outcome
    exact ⟨provider, resolved, ready, accepts⟩
  · intro accepts
    cases outcome : importKernel registry context bundle handle keeps backend session.host with
    | ok kernel after => exact ⟨kernel, after, rfl⟩
    | error e after => exact absurd accepts (ends.of_error outcome).1.not_accepts
  · intro kernel after outcome
    obtain ⟨provider, resolved, -, -, imported⟩ := ends.of_ok outcome
    exact ⟨provider, resolved, imported⟩

/-- A session over one backend that demands the programs of kernels, with a kernel of a program, and
another of the program that has been linked from it for a bundle. -/
def Session.linkedFrom : Session :=
  ((opening [.levelZero] [.listed [{ backend := .levelZero, table := { simulator := 0 } }] {}] {}).run
    [⟨.caller 0 .createPlatform, none⟩,
      ⟨.caller 0 (.createDevice ⟨4096⟩), none⟩,
      ⟨.caller 0 (.createContext [⟨4097⟩]), none⟩,
      ⟨.caller 0 (.createProgram [⟨4097⟩] .object ["axpy"]), none⟩,
      ⟨.makeContext (some 0) ⟨4098⟩ .levelZero, some "context"⟩,
      ⟨.importProgram (some 0) ⟨4099⟩ "context" true .executable .levelZero, some "bundle"⟩,
      ⟨.caller 0 (.createKernel ⟨4099⟩ "axpy"), none⟩,
      ⟨.caller 0 (.createKernel ⟨4100⟩ "axpy"), none⟩]).2

/-- The table of that session. -/
def Provider.levelZero : Provider :=
  { identity := 0, backend := .levelZero, demands := Backend.levelZero.demands,
    table := { simulator := 0 } }

/-- The registry of that session. -/
def Registry.levelZero : Registry :=
  ({} : Registry).register .levelZero

/-- The context of that session. -/
def Context.levelZero : Context :=
  { identity := 1, handle := ⟨1⟩, provider := .levelZero }

/-- The device of that session. -/
def Device.levelZero : Device :=
  ⟨3, ⟨3⟩, ⟨2, ⟨5⟩, .levelZero⟩⟩

/-- The image of that session. -/
def DeviceImage.levelZero : DeviceImage :=
  ⟨4, ⟨⟨4⟩, .levelZero⟩, [⟨⟨2⟩, .levelZero⟩], [.levelZero], .executable⟩

/-- The bundle of that session. -/
def KernelBundle.levelZero : KernelBundle :=
  ⟨.levelZero, [.levelZero], .executable, [.levelZero]⟩

/-- A bundle of one image accepts the kernels of the program behind it, where that is demanded. -/
theorem Provider.accepts_iff {sim : Simulator} {image : DeviceImage} {wrapper : Wrapper}
    {owner : NativeHandle} {refs : Nat} (needs : provider.demands.kernelNeedsProgram = true)
    (images : bundle.images = [image])
    (live : sim.store.wrappers.get? image.program.handle.id = some wrapper)
    (isProgram : wrapper.data.kind = .program)
    (known : sim.store.natives.get? handle = some ⟨.kernel owner, refs⟩) :
    provider.Accepts bundle handle sim ↔ wrapper.native = owner := by
  constructor
  · rintro ⟨program, refs', found, ⟨-, image', images', wrapper', live', -, isNative⟩ | ⟨needless, -⟩⟩
    · cases known.symm.trans found
      cases images.symm.trans images'
      cases live.symm.trans live'
      exact isNative
    · exact absurd (needless.symm.trans needs) Bool.false_ne_true
  · rintro rfl
    exact ⟨_, refs, known, Or.inl ⟨needs, image, images, wrapper, live, isProgram, rfl⟩⟩

/-- The kernel of the linked program is imported, and the one of the program that it was linked from is
not. -/
theorem importKernel_exact_linked :
    .bundle .levelZero ∈ Session.linkedFrom.host.held.values ∧
      (∃ kernel after, importKernel .levelZero .levelZero .levelZero ⟨4102⟩
        true .levelZero Session.linkedFrom.host = .ok kernel after) ∧
      ¬ ∃ kernel after, importKernel .levelZero .levelZero .levelZero ⟨4101⟩
        true .levelZero Session.linkedFrom.host = .ok kernel after := by
  have indirect : Session.linkedFrom.Indirect := by
    unfold Session.linkedFrom
    refine ⟨_, _, _, _, ?_, ?_, rfl⟩
    · rw [List.forall_mem_singleton]
      exact List.forall_mem_singleton.mpr Nat.zero_lt_one
    · decide
  have resolved : Registry.levelZero.provider? .levelZero = some .levelZero := by
    decide
  have alive : .context .levelZero ∈ Session.linkedFrom.host.owners := by decide +kernel
  have through : ∀ provider,
      Registry.levelZero.provider? .levelZero = some provider →
        Context.levelZero.provider = provider :=
    fun provider resolved' => Option.some.inj (resolved.symm.trans resolved')
  have failures : (Session.linkedFrom.host.simulator 0).failures = {} := by decide +kernel
  have unset : ∀ provider,
      Registry.levelZero.provider? .levelZero = some provider →
        (Session.linkedFrom.host.simulator provider.table.simulator).failures.get? .kernelCreate =
            none ∧
          (Session.linkedFrom.host.simulator provider.table.simulator).failures.get? .kernelRetain =
            none := by
    intro provider resolved'
    obtain rfl := Option.some.inj (resolved.symm.trans resolved')
    rw [show Provider.levelZero.table.simulator = 0 from rfl, failures]
    exact ⟨Ledger.get?_empty _, Ledger.get?_empty _⟩
  have linked := @importKernel_exact .levelZero .levelZero .levelZero ⟨4102⟩
    true .levelZero _ indirect alive through unset
  have original := @importKernel_exact .levelZero .levelZero .levelZero ⟨4101⟩
    true .levelZero _ indirect alive through unset
  have behind : (Session.linkedFrom.host.simulator 0).store.wrappers.get?
      DeviceImage.levelZero.program.handle.id = some ⟨.program, ⟨4100⟩, 1, true⟩ := by
    decide +kernel
  have ofLinked : (Session.linkedFrom.host.simulator 0).store.natives.get? ⟨4102⟩ =
      some ⟨.kernel ⟨4100⟩, 1⟩ := by decide +kernel
  have ofOriginal : (Session.linkedFrom.host.simulator 0).store.natives.get? ⟨4101⟩ =
      some ⟨.kernel ⟨4099⟩, 1⟩ := by decide +kernel
  have accepts_iff {kernel owner : NativeHandle}
      (known : (Session.linkedFrom.host.simulator 0).store.natives.get? kernel =
        some ⟨.kernel owner, 1⟩) :
      Provider.levelZero.Accepts .levelZero kernel (Session.linkedFrom.host.simulator 0) ↔
        ⟨4100⟩ = owner :=
    Provider.accepts_iff rfl rfl behind rfl known
  have held : .bundle .levelZero ∈ Session.linkedFrom.host.held.values := by decide +kernel
  refine ⟨held, ?_, ?_⟩
  · apply linked.1.mpr
    exact ⟨.levelZero, resolved, rfl, (accepts_iff ofLinked).mpr rfl⟩
  · intro accepted
    obtain ⟨provider, resolved', -, accepts⟩ := original.1.mp accepted
    obtain rfl := Option.some.inj (resolved.symm.trans resolved')
    exact absurd ((accepts_iff ofOriginal).mp accepts) (by decide)

end Import

end ComputeImport
