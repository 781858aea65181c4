import ComputeImport.Import.Bundle
import ComputeImport.Import.Export
import ComputeImport.Import.Kernel
import ComputeImport.Import.Program
import ComputeImport.Proofs.Import.Outcome
import ComputeImport.Proofs.Simulator.History

/-!
# Which calls an import makes

Imports, and the uses of what was imported, change backends by calls only, and what is held not at
all.  `Uses` says so of a program, for the backends that it reaches and the entry points that it
calls: what such calls keep, the program keeps.
-/

namespace ComputeImport

/-- An entry point that neither counts references nor makes a wrapper that is counted. -/
def EntryPoint.IsQuiet (entryPoint : EntryPoint) : Prop :=
  entryPoint.counting? = none ∧ entryPoint.wraps? = none

/-- An entry point that drops no references to wrappers, or those to programs. -/
def EntryPoint.IsSparing (entryPoint : EntryPoint) : Prop :=
  ∀ kind, entryPoint.counting? = some (.release, kind) → kind = .program

theorem EntryPoint.IsQuiet.isSparing {entryPoint : EntryPoint} (isQuiet : entryPoint.IsQuiet) :
    entryPoint.IsSparing := by
  intro kind counted
  rw [isQuiet.1] at counted
  contradiction

theorem EntryPoint.isSparing_programRelease : EntryPoint.IsSparing .programRelease := by
  rintro kind ⟨⟩
  rfl

/-- What the caches become when an object is entered that has not been found among the living, which all
objects are that what is held leads to. -/
inductive Host.Enters (host : Host) : Caches → Prop where
  | platform {living : List Platform} {platform : Platform} (held : host.platforms ⊆ living)
      (missing : host.caches.platforms.upgrade? living platform.provider platform.handle = none) :
      host.Enters { host.caches with platforms := host.caches.platforms.insert living platform }
  | device {living : List Device} {device : Device} (held : host.devices ⊆ living)
      (missing : host.caches.devices.upgrade? living device.platform device.handle = none) :
      host.Enters { host.caches with devices := host.caches.devices.insert living device }

/-- What holds of a host is kept by the calls of some entry points at some backends, and when an object
is entered in a cache.  It does not depend on anything but the backends, what is held, the caches and
which identities have been given. -/
structure Respects (reached : Nat → Prop) (allowed : EntryPoint → Prop) (holds : Host → Prop) :
    Prop where
  call : ∀ host number call, reached number → allowed call.entryPoint → holds host →
    holds (host.advance number ((host.simulator number).after (.call call)))
  enter : ∀ host caches, Host.Enters host caches → holds host → holds { host with caches }
  other : ∀ host after : Host, after.simulators = host.simulators → after.held = host.held →
    after.caches = host.caches → host.nextIdentity ≤ after.nextIdentity → holds host → holds after

/-- What does not depend on the caches, either. -/
theorem Respects.uncached {reached : Nat → Prop} {allowed : EntryPoint → Prop} {holds : Host → Prop}
    (call : ∀ host number call, reached number → allowed call.entryPoint → holds host →
      holds (host.advance number ((host.simulator number).after (.call call))))
    (other : ∀ host after : Host, after.simulators = host.simulators → after.held = host.held →
      host.nextIdentity ≤ after.nextIdentity → holds host → holds after) :
    Respects reached allowed holds := by
  constructor
  case call => exact call
  case enter => exact fun host caches _ => other host _ rfl rfl (Nat.le_refl _)
  case other => exact fun host after same held _ => other host after same held

theorem Respects.notify {reached : Nat → Prop} {allowed : EntryPoint → Prop} {holds : Host → Prop}
    (respects : Respects reached allowed holds) {host : Host} (notice : Notice) (kept : holds host) :
    holds (host.notify notice) :=
  respects.other host (host.notify notice) rfl rfl rfl (Nat.le_refl _) kept

/-- A program makes no other calls than of some entry points at some backends, and changes neither
backends nor what is held in any other way.  Objects that it does not find in a cache it enters there. -/
def Uses {ε α : Type} (reached : Nat → Prop) (allowed : EntryPoint → Prop)
    (program : EStateM ε Host α) : Prop :=
  ∀ holds, Respects reached allowed holds → Keeps holds program

/-- What is held stays as it is. -/
theorem respects_held {reached : Nat → Prop} {allowed : EntryPoint → Prop}
    (held : Ledger String Managed) :
    Respects reached allowed fun host => host.held = held := by
  apply Respects.uncached
  case call => exact fun _ _ _ _ _ same => same
  case other => exact fun _ _ _ same' _ same => same'.trans same

/-- A registry resolves backends to tables of reached backends only. -/
def Registry.Within (registry : Registry) (reached : Nat → Prop) : Prop :=
  ∀ backend provider, registry.provider? backend = some provider →
    reached provider.table.simulator

/-- A step does the work of one call. -/
def IsCall {α : Type} (step : Native α) (call : Call) : Prop :=
  ∀ sim, stateAfter step sim = sim.after (.call call)

/-- What a call brings back in another shape is the outcome of the same call. -/
theorem IsCall.of_answer {α : Type} {step : Native α} (call : Call) {change : α → Answer}
    (answers : Simulator.answer call = do return change (← step)) : IsCall step call := by
  intro sim
  rw [Simulator.after, answers, stateAfter_bind_pure]

/-- A step that brings back nothing does the work of the call that it is. -/
theorem IsCall.of_done {step : Native Unit} (call : Call)
    (answers : Simulator.answer call = do step; return .done) : IsCall step call := by
  intro sim
  rw [Simulator.after, answers]
  exact (stateAfter_bind_pure step (fun _ => Answer.done) sim).symm

namespace Uses

variable {ε α β : Type} {reached : Nat → Prop} {allowed : EntryPoint → Prop}
  {program : EStateM ε Host α} {table : Table} {provider : Provider}

theorem mono {reached' : Nat → Prop} {allowed' : EntryPoint → Prop}
    (uses : Uses reached allowed program) (reaches : ∀ number, reached number → reached' number)
    (allows : ∀ entryPoint, allowed entryPoint → allowed' entryPoint) :
    Uses reached' allowed' program := by
  intro holds respects
  refine uses holds ⟨?_, respects.enter, respects.other⟩
  intro host number call isReached isAllowed
  exact respects.call host number call (reaches number isReached) (allows _ isAllowed)

/-! ## The parts of a program -/

theorem pure (a : α) : Uses reached allowed (Pure.pure a : EStateM ε Host α) :=
  fun _ _ => Keeps.pure a

theorem throw (e : ε) : Uses reached allowed (MonadExcept.throw e : EStateM ε Host α) :=
  fun _ _ => Keeps.throw e

theorem get : Uses reached allowed (MonadState.get : EStateM ε Host Host) :=
  fun _ _ => Keeps.get

theorem bind {next : α → EStateM ε Host β} (first : Uses reached allowed program)
    (rest : ∀ a, Uses reached allowed (next a)) : Uses reached allowed (program >>= next) :=
  fun holds respects => (first holds respects).bind fun a => rest a holds respects

theorem notify (notice : Notice) :
    Uses reached allowed (ComputeImport.notify notice : EStateM ε Host Unit) :=
  fun _ respects => ⟨fun _ kept => respects.notify notice kept⟩

theorem freshIdentity :
    Uses reached allowed (ComputeImport.freshIdentity : EStateM ε Host Nat) :=
  fun _ respects => ⟨fun host kept =>
    respects.other host { host with nextIdentity := host.nextIdentity + 1 } rfl rfl rfl
      (Nat.le_succ _) kept⟩

theorem call {step : Native α} {call : Call} (isCall : IsCall step call)
    (isReached : reached table.simulator) (isAllowed : allowed call.entryPoint) :
    Uses reached allowed (table.call step) := by
  refine fun holds respects => ⟨fun host kept => ?_⟩
  have after := respects.call host table.simulator call isReached isAllowed kept
  rw [← isCall] at after
  exact ends_call.mpr (ends_stateAfter.mpr after)

theorem callFor {step : Native α} {entryPoint : String} {call : Call} (isCall : IsCall step call)
    (isReached : reached table.simulator) (isAllowed : allowed call.entryPoint) :
    Uses reached allowed (table.callFor entryPoint step) := by
  unfold Table.callFor
  cases table.delegation with
  | some _ => exact throw _
  | none => exact Uses.call isCall isReached isAllowed

theorem native {call : TableM α} (uses : Uses reached allowed call) :
    Uses reached allowed (ComputeImport.native call) :=
  fun holds respects => ⟨fun host kept =>
    ends_native.mpr ((uses holds respects).ends host kept)⟩

theorem attempt {call : TableM α} (uses : Uses reached allowed call) :
    Uses reached allowed (ComputeImport.attempt call) :=
  fun holds respects => ⟨fun host kept =>
    ends_attempt.mpr ((uses holds respects).ends host kept)⟩

theorem timed {operation : String} {body : ImportM α} (uses : Uses reached allowed body) :
    Uses reached allowed (ComputeImport.timed operation body) := by
  refine fun holds respects => ⟨fun host kept => ?_⟩
  refine ((uses holds respects).ends host kept).timed ?_ ?_
  · exact fun _ _ notice => respects.notify notice
  · exact fun _ _ notice => respects.notify notice

/-- What is resolved is a table of a reached backend. -/
theorem resolve_bind {registry : Registry} {backend : Backend} {next : Provider → ImportM β}
    (within : registry.Within reached)
    (rest : ∀ provider, reached provider.table.simulator → Uses reached allowed (next provider)) :
    Uses reached allowed (registry.resolve backend >>= next) := by
  refine fun holds respects => ⟨fun host kept => ?_⟩
  unfold Registry.resolve
  cases resolved : registry.provider? backend with
  | none => exact kept
  | some provider =>
      refine (rest provider (within backend provider resolved) holds respects).ends _ ?_
      exact respects.notify _ kept

theorem resolve (registry : Registry) (backend : Backend) :
    Uses reached allowed (registry.resolve backend) := by
  unfold Registry.resolve
  split
  · exact bind get fun _ => bind (notify _) fun _ => pure _
  · exact throw _

/-! ## Devices -/

theorem findOrMakePlatform (provider : Provider) (handle : PlatformHandle)
    (pending : List Device) :
    Uses reached allowed
      (ComputeImport.findOrMakePlatform provider handle pending : EStateM ε Host Platform) := by
  refine fun holds respects => ⟨fun host kept => ?_⟩
  apply ends_findOrMakePlatform_of
  · exact fun _ _ => kept
  · intro missing
    have given : holds { host with nextIdentity := host.nextIdentity + 1 } :=
      respects.other host _ rfl rfl rfl (Nat.le_succ _) kept
    have enters : Host.Enters { host with nextIdentity := host.nextIdentity + 1 } _ :=
      @Host.Enters.platform _ _ ⟨host.nextIdentity, handle, provider⟩
        (List.subset_append_left _ _) missing
    exact respects.notify _ (respects.enter _ _ enters given)

theorem findOrMakeDevice (platform : Platform) (handle : DeviceHandle) (pending : List Device) :
    Uses reached allowed
      (ComputeImport.findOrMakeDevice platform handle pending : EStateM ε Host Device) := by
  refine fun holds respects => ⟨fun host kept => ?_⟩
  apply ends_findOrMakeDevice_of
  · exact fun _ _ => kept
  · intro missing
    have given : holds { host with nextIdentity := host.nextIdentity + 1 } :=
      respects.other host _ rfl rfl rfl (Nat.le_succ _) kept
    have enters : Host.Enters { host with nextIdentity := host.nextIdentity + 1 } _ :=
      @Host.Enters.device _ _ ⟨host.nextIdentity, handle, platform⟩
        (List.subset_append_left _ _) missing
    exact respects.notify _ (respects.enter _ _ enters given)

theorem manageDevice (isReached : reached provider.table.simulator) (pending : List Device)
    (handle : DeviceHandle) :
    Uses reached EntryPoint.IsQuiet (ComputeImport.manageDevice provider pending handle) :=
  bind (native (call (.of_answer (.devicePlatform handle) rfl) isReached ⟨rfl, rfl⟩))
    fun _ => bind (findOrMakePlatform _ _ _) fun _ => findOrMakeDevice _ _ _

theorem manageDevices (isReached : reached provider.table.simulator) (pending : List Device)
    (handles : List DeviceHandle) :
    Uses reached EntryPoint.IsQuiet (ComputeImport.manageDevices provider pending handles) := by
  induction handles generalizing pending with
  | nil => exact pure _
  | cons handle handles ih =>
      exact bind (manageDevice isReached _ _) fun _ => bind (ih _) fun _ => pure _

theorem makePlatform {registry : Registry} (within : registry.Within reached)
    (handle : NativeHandle) (backend : Backend) :
    Uses reached EntryPoint.IsQuiet (ComputeImport.makePlatform registry handle backend) := by
  refine bind (notify _) fun _ => resolve_bind within fun provider isReached => ?_
  exact bind (native (call (.of_answer (.platformCreate handle) rfl) isReached
    ⟨rfl, rfl⟩)) fun _ => findOrMakePlatform _ _ _

theorem makeDevice {registry : Registry} (within : registry.Within reached)
    (handle : NativeHandle) (backend : Backend) :
    Uses reached EntryPoint.IsQuiet (ComputeImport.makeDevice registry handle backend) := by
  refine bind (notify _) fun _ => resolve_bind within fun provider isReached => ?_
  exact bind (native (call (.of_answer (.deviceCreate handle none) rfl) isReached
    ⟨rfl, rfl⟩)) fun _ => manageDevice isReached _ _

/-! ## Programs -/

theorem listDevices (isReached : reached table.simulator) (program : ProgramHandle) :
    Uses reached EntryPoint.IsQuiet (ComputeImport.listDevices table program) := by
  refine bind (native (bind (call (.of_answer (.programNumDevices program) rfl)
    isReached ⟨rfl, rfl⟩) fun _ => pure _)) fun _ => ?_
  refine bind (native (call (.of_answer (.programDevices program) rfl) isReached
    ⟨rfl, rfl⟩)) fun _ => ?_
  split
  · exact pure _
  · exact throw _

theorem withFallback {operation : BuildOperation} {device : DeviceHandle}
    {perDevice whole : TableM α} (first : Uses reached allowed perDevice)
    (second : Uses reached allowed whole) :
    Uses reached allowed (ComputeImport.withFallback operation device perDevice whole) := by
  refine bind (attempt first) fun outcome => ?_
  cases outcome with
  | ok a => exact pure a
  | error e =>
      dsimp only
      split
      · refine bind (notify _) fun _ => bind (attempt second) fun outcome => ?_
        cases outcome with
        | ok a => exact pure a
        | error e => exact throw _
      · exact throw _

theorem compile {builder : Builder} (isReached : reached builder.provider.table.simulator)
    (program : ProgramHandle) (device : DeviceHandle) :
    Uses reached EntryPoint.IsQuiet (builder.compile program device) :=
  withFallback
    (callFor (.of_done (.programCompileFor program [device] builder.options.compile) rfl)
      isReached ⟨rfl, rfl⟩)
    (call (.of_done (.programCompile builder.context.handle program builder.options.compile) rfl)
      isReached ⟨rfl, rfl⟩)

theorem build {builder : Builder} (isReached : reached builder.provider.table.simulator)
    (program : ProgramHandle) (device : DeviceHandle) :
    Uses reached EntryPoint.IsQuiet (builder.build program device) :=
  withFallback
    (callFor (.of_done (.programBuildFor program [device] builder.options.compile) rfl)
      isReached ⟨rfl, rfl⟩)
    (call (.of_done (.programBuild builder.context.handle program builder.options.compile) rfl)
      isReached ⟨rfl, rfl⟩)

/-! ## Kernels -/

theorem kernelProgram? (provider : Provider) (bundle : KernelBundle) :
    Uses reached allowed (ComputeImport.kernelProgram? provider bundle) := by
  unfold ComputeImport.kernelProgram?
  split
  · split
    · exact pure _
    · exact throw _
  · exact pure _

theorem imageKernelNames {image : DeviceImage}
    (isReached : reached image.program.provider.table.simulator) :
    Uses reached EntryPoint.IsQuiet image.kernelNames := by
  refine bind get fun host => ?_
  dsimp only
  split
  · exact pure _
  · have remember : ∀ names : List String, Uses reached EntryPoint.IsQuiet
        (do modify fun host : Host =>
              { host with kernelLists := host.kernelLists.set image.identity names }
            Pure.pure names : ImportM (List String)) := by
      intro names
      refine bind (fun holds respects => Keeps.modify fun host kept => ?_) fun _ => pure names
      exact respects.other host _ rfl rfl rfl (Nat.le_refl _) kept
    cases image.state with
    | executable =>
        exact bind (native (call (.of_answer (.programKernelNames image.program.handle)
          rfl) isReached ⟨rfl, rfl⟩)) remember
    | input | object => exact remember []

theorem imageHasKernel {image : DeviceImage}
    (isReached : reached image.program.provider.table.simulator) (name : String) :
    Uses reached EntryPoint.IsQuiet (image.hasKernel name) :=
  bind (imageKernelNames isReached) fun _ => pure _

theorem kernelNames {bundle : KernelBundle}
    (within : ∀ image ∈ bundle.images, reached image.program.provider.table.simulator) :
    Uses reached EntryPoint.IsQuiet bundle.kernelNames := by
  refine bind ?_ fun _ => pure _
  generalize bundle.images = images at within
  induction images with
  | nil => exact pure _
  | cons image images ih =>
      refine bind (imageKernelNames (within image List.mem_cons_self)) fun _ => ?_
      refine bind (ih fun other member => ?_) fun _ => pure _
      exact within other (List.mem_cons_of_mem image member)

theorem hasKernel {bundle : KernelBundle}
    (within : ∀ image ∈ bundle.images, reached image.program.provider.table.simulator)
    (name : String) : Uses reached EntryPoint.IsQuiet (bundle.hasKernel name) := by
  unfold KernelBundle.hasKernel
  generalize bundle.images = images at within
  induction images with
  | nil => exact pure _
  | cons image images ih =>
      refine bind (imageHasKernel (within image List.mem_cons_self) name) fun found => ?_
      cases found with
      | true => exact pure _
      | false => exact ih fun other member => within other (List.mem_cons_of_mem image member)

/-! ## Handing native objects out again -/

theorem platformHandle {platform : Platform}
    (isReached : reached platform.provider.table.simulator) :
    Uses reached EntryPoint.IsQuiet platform.nativeHandle :=
  native (call (.of_answer (.platformNative platform.handle) rfl) isReached ⟨rfl, rfl⟩)

theorem reportedBackend {platform : Platform}
    (isReached : reached platform.provider.table.simulator) :
    Uses reached EntryPoint.IsQuiet platform.reportedBackend :=
  bind (native (call (.of_answer (.platformBackend platform.handle) rfl) isReached
    ⟨rfl, rfl⟩)) fun _ => pure _

theorem deviceHandle {device : Device}
    (isReached : reached device.platform.provider.table.simulator) :
    Uses reached EntryPoint.IsQuiet device.nativeHandle :=
  native (call (.of_answer (.deviceNative device.handle) rfl) isReached ⟨rfl, rfl⟩)

theorem contextHandle {context : Context}
    (isReached : reached context.provider.table.simulator) :
    Uses reached EntryPoint.IsQuiet context.nativeHandle :=
  native (call (.of_answer (.contextNative context.handle) rfl) isReached ⟨rfl, rfl⟩)

theorem queueHandle {queue : Queue} (isReached : reached queue.provider.table.simulator) :
    Uses reached EntryPoint.IsQuiet queue.nativeHandle :=
  native (call (fun sim => (stateAfter_bind_pure _ (fun (native, descriptor) =>
    Answer.queue native descriptor) sim).symm : IsCall _ (.queueNative queue.handle)) isReached
      ⟨rfl, rfl⟩)

theorem eventHandle {event : Event} (isReached : reached event.provider.table.simulator) :
    Uses reached EntryPoint.IsQuiet event.nativeHandle :=
  native (call (.of_answer (.eventNative event.handle) rfl) isReached ⟨rfl, rfl⟩)

theorem kernelHandle {kernel : Kernel} (isReached : reached kernel.provider.table.simulator) :
    Uses reached EntryPoint.IsQuiet kernel.nativeHandle :=
  native (call (.of_answer (.kernelNative kernel.handle) rfl) isReached ⟨rfl, rfl⟩)

theorem nativeMem {queue : Queue} (isReached : reached queue.provider.table.simulator)
    (memory : List (Nat × MemHandle)) (requirement : Nat) :
    Uses reached EntryPoint.IsQuiet (queue.nativeMem memory requirement) := by
  unfold Queue.nativeMem
  split
  · rename_i mem _
    exact native (call (.of_answer (.memNative mem queue.device.handle) rfl) isReached
      ⟨rfl, rfl⟩)
  · exact throw _

end Uses

/-! ## Imports -/

/-- A program changes backends by calls only, and does not change what is held. -/
abbrev OnlyCalls {ε α : Type} (program : EStateM ε Host α) : Prop :=
  Uses (fun _ => True) (fun _ => True) program

/-- A step of the host makes no other calls than of some entry points at some backends, and changes
neither backends nor what is held in any other way. -/
def CallsOnly (reached : Nat → Prop) (allowed : EntryPoint → Prop) (step : Host → Host) : Prop :=
  ∀ holds, Respects reached allowed holds → ∀ host, holds host → holds (step host)

/-- What an owner releases at its end is at reached backends. -/
def Owner.Within (reached : Nat → Prop) : Owner → Prop
  | .context ended => reached ended.provider.table.simulator
  | .queue ended => reached ended.provider.table.simulator
  | .event ended => reached ended.provider.table.simulator
  | .kernel ended => reached ended.provider.table.simulator
  | .image ended =>
      ∀ program ∈ ended.program :: ended.superseded, reached program.provider.table.simulator

theorem Owner.Within.mono {owner : Owner} {reached wider : Nat → Prop} (within : owner.Within reached)
    (le : ∀ number, reached number → wider number) : owner.Within wider := by
  cases owner with
  | image => exact fun program member => le _ (within program member)
  | context | queue | event | kernel => exact le _ within

theorem Owner.within_all (owner : Owner) : owner.Within fun _ => True := by
  cases owner with
  | image => exact fun _ _ => trivial
  | context | queue | event | kernel => exact trivial

section CallsOnly

variable {reached : Nat → Prop} {allowed : EntryPoint → Prop} {kind : ObjectKind}

/-- A release makes one call, and may note in the journal that it has failed. -/
theorem Host.holds_releaseWith {holds : Host → Prop} {host : Host} {provider : Provider}
    {handle : Handle kind} {release : Handle kind → Native Unit} {call : Call}
    (isCall : IsCall (release handle) call)
    (called : holds (host.advance provider.table.simulator
      ((host.simulator provider.table.simulator).after (.call call))))
    (noted : ∀ after notice, holds after → holds (after.notify notice)) :
    holds (host.releaseWith provider handle release) := by
  rw [← isCall, ← stateAfter_call] at called
  unfold stateAfter at called
  unfold releaseWith
  cases outcome : provider.table.call (release handle) host with
  | ok _ after =>
      rw [outcome] at called
      exact called
  | error e after =>
      rw [outcome] at called
      exact noted after _ called

/-- Releasing a program makes one call, and notes in the journal how it has ended. -/
theorem ProgramRef.holds_release {holds : Host → Prop} {host : Host} (program : ProgramRef)
    (called : holds (host.advance program.provider.table.simulator
      ((host.simulator program.provider.table.simulator).after
        (.call (.programRelease program.handle)))))
    (noted : ∀ after notice, holds after → holds (after.notify notice)) :
    holds (program.release host) := by
  have isCall : IsCall (Simulator.programRelease program.handle) _ :=
    .of_done (.programRelease program.handle) rfl
  rw [← isCall, ← stateAfter_call] at called
  unfold stateAfter at called
  unfold release
  cases outcome : program.provider.table.call (Simulator.programRelease program.handle) host with
  | ok _ after =>
      rw [outcome] at called
      exact noted after _ called
  | error e after =>
      rw [outcome] at called
      exact noted after _ called

theorem callsOnly_releaseWith {provider : Provider} {handle : Handle kind}
    {release : Handle kind → Native Unit} {call : Call} (isCall : IsCall (release handle) call)
    (isReached : reached provider.table.simulator) (isAllowed : allowed call.entryPoint) :
    CallsOnly reached allowed (Host.releaseWith provider handle release) := by
  intro holds respects host kept
  apply Host.holds_releaseWith isCall
  · exact respects.call host _ call isReached isAllowed kept
  · exact fun _ notice => respects.notify notice

/-- A release makes one call at its own backend. -/
theorem Host.simulator_releaseWith {provider : Provider} {handle : Handle kind}
    {release : Handle kind → Native Unit} {call : Call} (isCall : IsCall (release handle) call)
    (host : Host) (number : Nat) :
    (host.releaseWith provider handle release).simulator number =
      if provider.table.simulator = number then (host.simulator number).after (.call call)
      else host.simulator number := by
  let isAfter (after : Host) : Prop := after.simulator number =
    if provider.table.simulator = number then (host.simulator number).after (.call call)
    else host.simulator number
  show isAfter (host.releaseWith provider handle release)
  apply Host.holds_releaseWith isCall
  · dsimp only [isAfter]
    rw [Host.simulator_advance]
    split
    · rename_i equal
      rw [equal]
    · rfl
  · exact fun _ _ same => same

/-- Releasing a program makes one call at its own backend. -/
theorem ProgramRef.simulator_release (program : ProgramRef) (host : Host) (number : Nat) :
    (program.release host).simulator number =
      if program.provider.table.simulator = number then
        (host.simulator number).after (.call (.programRelease program.handle))
      else host.simulator number := by
  let isAfter (after : Host) : Prop := after.simulator number =
    if program.provider.table.simulator = number then
      (host.simulator number).after (.call (.programRelease program.handle))
    else host.simulator number
  show isAfter (program.release host)
  apply program.holds_release
  · dsimp only [isAfter]
    rw [Host.simulator_advance]
    split
    · rename_i equal
      rw [equal]
    · rfl
  · exact fun _ _ same => same

theorem callsOnly_release {program : ProgramRef}
    (isReached : reached program.provider.table.simulator) (isAllowed : allowed .programRelease) :
    CallsOnly reached allowed program.release := by
  intro holds respects host kept
  apply program.holds_release
  · exact respects.call host _ _ isReached isAllowed kept
  · exact fun _ notice => respects.notify notice

theorem callsOnly_foldl {α : Type} {items : List α} {step : Host → α → Host}
    (steps : ∀ item ∈ items, CallsOnly reached allowed fun host => step host item) :
    CallsOnly reached allowed fun host => items.foldl step host := by
  intro holds respects host kept
  induction items generalizing host with
  | nil => exact kept
  | cons item items ih =>
      obtain ⟨first, rest⟩ := List.forall_mem_cons.mp steps
      exact ih rest (step host item) (first holds respects host kept)

theorem callsOnly_releasePrograms {programs : List ProgramRef}
    (own : ∀ program ∈ programs, reached program.provider.table.simulator)
    (isAllowed : allowed .programRelease) :
    CallsOnly reached allowed (releasePrograms programs) :=
  callsOnly_foldl fun program member => callsOnly_release (own program member) isAllowed

theorem callsOnly_ownerRelease {owner : Owner} (within : owner.Within reached) :
    CallsOnly reached (fun _ => True) owner.release := by
  cases owner with
  | context ended =>
      exact callsOnly_releaseWith (.of_done (.contextRelease ended.handle) rfl) within trivial
  | queue ended =>
      exact callsOnly_releaseWith (.of_done (.queueRelease ended.handle) rfl) within trivial
  | event ended =>
      exact callsOnly_releaseWith (.of_done (.eventRelease ended.handle) rfl) within trivial
  | kernel ended =>
      exact callsOnly_releaseWith (.of_done (.kernelRelease ended.handle) rfl) within trivial
  | image ended => exact callsOnly_releasePrograms within trivial

theorem callsOnly_letGo (value : Managed) :
    CallsOnly (fun _ => True) (fun _ => True) (Host.letGo value) := by
  intro holds respects host kept
  have calls : ∀ owner ∈ value.ending host.held.values,
      CallsOnly (fun _ => True) (fun _ => True) owner.release :=
    fun owner _ => callsOnly_ownerRelease owner.within_all
  exact callsOnly_foldl calls holds respects host kept

end CallsOnly

namespace Uses

variable {α : Type} {reached : Nat → Prop} {allowed : EntryPoint → Prop} {kind : ObjectKind}

theorem of_quiet {ε : Type} {program : EStateM ε Host α}
    (uses : Uses reached EntryPoint.IsQuiet program) : Uses reached EntryPoint.IsSparing program :=
  uses.mono (fun _ => id) fun _ => EntryPoint.IsQuiet.isSparing

theorem orRelease {programs : List ProgramRef} {body : ImportM α} (uses : Uses reached allowed body)
    (own : ∀ program ∈ programs, reached program.provider.table.simulator)
    (isAllowed : allowed .programRelease) :
    Uses reached allowed (ComputeImport.orRelease programs body) := by
  refine fun holds respects => ⟨fun host kept => ?_⟩
  refine ends_orRelease.mpr (((uses holds respects).ends host kept).imp
    (fun _ _ kept => kept) ?_)
  exact fun _ after kept => callsOnly_releasePrograms own isAllowed holds respects after kept

theorem takeReference {table : Table} {handle : Handle kind}
    {retain release : Handle kind → Native Unit} {retains releases : Call}
    (isReached : reached table.simulator)
    (isRetain : IsCall (retain handle) retains) (mayRetain : allowed retains.entryPoint)
    (isRelease : IsCall (release handle) releases) (mayRelease : allowed releases.entryPoint) :
    Uses reached allowed (ComputeImport.takeReference table handle retain release) := by
  refine bind (attempt (call isRetain isReached mayRetain)) fun outcome => ?_
  cases outcome with
  | ok _ => exact pure _
  | error e =>
      refine bind (attempt (call isRelease isReached mayRelease)) fun outcome => ?_
      cases outcome with
      | ok _ => exact throw _
      | error e => exact bind (notify _) fun _ => throw _

theorem takeReferenceIfNeeded {provider : Provider} {handle : Handle kind}
    {retain release : Handle kind → Native Unit} {retains releases : Call}
    (isReached : reached provider.table.simulator)
    (isRetain : IsCall (retain handle) retains) (mayRetain : allowed retains.entryPoint)
    (isRelease : IsCall (release handle) releases) (mayRelease : allowed releases.entryPoint) :
    Uses reached allowed
      (ComputeImport.takeReferenceIfNeeded provider handle retain release) := by
  unfold ComputeImport.takeReferenceIfNeeded
  split
  · exact takeReference isReached isRetain mayRetain isRelease mayRelease
  · exact pure _

theorem link {builder : Builder} (isReached : reached builder.provider.table.simulator)
    (program : ProgramHandle) (device : DeviceHandle) :
    Uses reached EntryPoint.IsSparing (builder.link program device) :=
  withFallback
    (callFor (.of_answer (.programLinkFor builder.context.handle [device] [program]
      builder.options.link) rfl) isReached nofun)
    (call (.of_answer (.programLink builder.context.handle [program]
      builder.options.link) rfl) isReached nofun)

theorem advanceDevice {builder : Builder} (isReached : reached builder.provider.table.simulator)
    (target : BundleState) (current : ProgramRef) (device : DeviceHandle) :
    Uses reached EntryPoint.IsSparing (builder.advanceDevice target current device) := by
  refine bind (native (call (.of_answer (.programBinaryType current.handle device) rfl) isReached
    nofun)) fun stage => ?_
  refine bind (notify _) fun _ => ?_
  cases stage.plan target with
  | keep => exact pure _
  | mismatch => exact throw _
  | run operation =>
      cases operation with
      | compile => exact bind (of_quiet (compile isReached _ _)) fun _ => pure _
      | build => exact bind (of_quiet (build isReached _ _)) fun _ => pure _
      | link => exact bind (link isReached _ _) fun _ => bind (notify _) fun _ => pure _

end Uses

/-- A program that takes the place of another one is reached through the same provider. -/
theorem ends_advanceDevice_own {builder : Builder} {target : BundleState} {current : ProgramRef}
    {device : DeviceHandle} {host : Host} :
    Ends (builder.advanceDevice target current device) host
      (fun next _ => ∀ linked, next = some linked → linked.provider = builder.provider)
      (fun _ _ => True) := by
  apply Ends.trivial.bind
  intro stage middle _
  rw [ends_bind, ends_notify]
  cases stage.plan target with
  | keep => exact nofun
  | mismatch => exact trivial
  | run operation =>
      cases operation with
      | compile | build => exact Ends.trivial.bind fun _ _ _ => nofun
      | link =>
          apply Ends.trivial.bind
          rintro handle after - linked ⟨⟩
          rfl

/-- The program that an import has arrived at, and those that it has replaced on the way, are reached
through its provider. -/
theorem ends_advance_own {builder : Builder} {target : BundleState} {current : ProgramRef}
    {superseded : List ProgramRef} {devices : List DeviceHandle} {host : Host}
    (own : ∀ program ∈ current :: superseded, program.provider = builder.provider) :
    Ends (builder.advance target current superseded devices) host
      (fun built _ => ∀ program ∈ built.current :: built.superseded,
        program.provider = builder.provider)
      (fun _ _ => True) := by
  induction devices generalizing host current superseded with
  | nil => exact own
  | cons device devices ih =>
      apply (ends_orRelease.mpr (ends_advanceDevice_own.imp (fun _ _ ended => ended)
        fun _ _ _ => trivial)).bind
      intro next middle isOwn
      cases next with
      | none => exact ih own
      | some linked =>
          apply ih
          intro program member
          rcases List.mem_cons.mp member with rfl | member
          · exact isOwn _ rfl
          · exact own program ((List.perm_append_singleton current superseded).mem_iff.mp member)

namespace Uses

variable {α : Type} {reached : Nat → Prop}

theorem advance {builder : Builder} (isReached : reached builder.provider.table.simulator)
    (target : BundleState) {current : ProgramRef} {superseded : List ProgramRef}
    (own : ∀ program ∈ current :: superseded, reached program.provider.table.simulator)
    (devices : List DeviceHandle) :
    Uses reached EntryPoint.IsSparing (builder.advance target current superseded devices) := by
  refine fun holds respects => ⟨fun host kept => ?_⟩
  induction devices generalizing host current superseded with
  | nil => exact kept
  | cons device devices ih =>
      have older : ∀ program ∈ superseded ++ [current],
          reached program.provider.table.simulator := fun program member =>
        own program ((List.perm_append_singleton current superseded).mem_iff.mp member)
      have steps : Uses reached EntryPoint.IsSparing
          (ComputeImport.orRelease (superseded ++ [current])
            (builder.advanceDevice target current device)) :=
        orRelease (advanceDevice isReached target current device) older
          EntryPoint.isSparing_programRelease
      have owns : Ends (ComputeImport.orRelease (superseded ++ [current])
          (builder.advanceDevice target current device)) host
          (fun next _ => ∀ linked, next = some linked → linked.provider = builder.provider)
          (fun _ _ => True) :=
        ends_orRelease.mpr (ends_advanceDevice_own.imp (fun _ _ ended => ended)
          fun _ _ _ => trivial)
      have stepped := (Ends.and ((steps holds respects).ends host kept) owns).imp
        (fun _ _ ended => ended) fun _ _ ended => ended.1
      apply stepped.bind
      rintro next middle ⟨kept, isOwn⟩
      cases next with
      | none => exact ih own middle kept
      | some linked =>
          apply ih _ middle kept
          intro program member
          rcases List.mem_cons.mp member with rfl | member
          · rw [isOwn _ rfl]
            exact isReached
          · exact older program member

theorem importProgram {registry : Registry} (within : registry.Within reached)
    (handle : NativeHandle) (context : Context) (keeps : Bool) (target : BundleState)
    (backend : Backend) :
    Uses reached EntryPoint.IsSparing
      (ComputeImport.importProgram registry handle context keeps target backend) := by
  have mayRelease := EntryPoint.isSparing_programRelease
  refine bind (notify _) fun _ => timed ?_
  refine resolve_bind within fun provider isReached => ?_
  refine bind (native (call (.of_answer (.programCreate handle context.handle
    (Ownership.ofKeep keeps).ownsNative) rfl) isReached nofun)) fun wrapper => ?_
  refine bind (takeReferenceIfNeeded isReached (.of_done (.programRetain wrapper) rfl) nofun
    (.of_done (.programRelease wrapper) rfl) mayRelease) fun _ => ?_
  have own : ∀ program ∈ [ProgramRef.mk wrapper provider], program.provider = provider := by
    intro program member
    rw [List.mem_singleton.mp member]
  have reaches : ∀ programs : List ProgramRef, (∀ program ∈ programs, program.provider = provider) →
      ∀ program ∈ programs, reached program.provider.table.simulator := by
    intro programs owns program member
    rw [owns program member]
    exact isReached
  refine bind (orRelease (of_quiet (listDevices isReached wrapper)) (reaches _ own) mayRelease)
    fun handles => bind (notify _) fun _ => ?_
  let builder : Builder := ⟨provider, context, registry.options⟩
  refine fun holds respects => ⟨fun host kept => ?_⟩
  have advances : Uses reached EntryPoint.IsSparing
      (builder.advance target ⟨wrapper, provider⟩ [] handles) :=
    advance isReached target (reaches _ own) handles
  have advanced := (Ends.and ((advances holds respects).ends host kept)
    (ends_advance_own own)).imp (fun _ _ ended => ended) fun _ _ ended => ended.1
  apply advanced.bind
  rintro built middle ⟨kept, owns⟩
  have manages := orRelease (of_quiet (manageDevices isReached [] handles)) (reaches _ owns) mayRelease
  exact (manages.bind fun _ => bind freshIdentity fun _ => pure _) holds respects |>.ends middle kept

end Uses

namespace OnlyCalls

variable {α : Type} {kind : ObjectKind}

theorem of_sparing {program : ImportM α}
    (uses : Uses (fun _ => True) EntryPoint.IsSparing program) : OnlyCalls program :=
  uses.mono (fun _ _ => trivial) fun _ _ => trivial

theorem of_quiet {program : ImportM α}
    (uses : Uses (fun _ => True) EntryPoint.IsQuiet program) : OnlyCalls program :=
  of_sparing (.of_quiet uses)

theorem within (registry : Registry) : registry.Within fun _ => True :=
  fun _ _ _ => trivial

theorem call {table : Table} {step : Native α} {call : Call} (isCall : IsCall step call) :
    OnlyCalls (table.call step) :=
  Uses.call isCall trivial trivial

theorem orRelease {programs : List ProgramRef} {body : ImportM α} (uses : OnlyCalls body) :
    OnlyCalls (ComputeImport.orRelease programs body) :=
  Uses.orRelease uses (fun _ _ => trivial) trivial

theorem takeReferenceIfNeeded (provider : Provider) {handle : Handle kind}
    {retain release : Handle kind → Native Unit} {retains releases : Call}
    (isRetain : IsCall (retain handle) retains) (isRelease : IsCall (release handle) releases) :
    OnlyCalls (ComputeImport.takeReferenceIfNeeded provider handle retain release) :=
  Uses.takeReferenceIfNeeded trivial isRetain trivial isRelease trivial

theorem makeContext (registry : Registry) (handle : NativeHandle) (backend : Backend) :
    OnlyCalls (ComputeImport.makeContext registry handle backend) := by
  refine Uses.bind (Uses.notify _) fun _ =>
    Uses.resolve_bind (within registry) fun provider _ => ?_
  refine Uses.bind (Uses.native (call (.of_answer (.contextCreate handle [] false) rfl)))
    fun wrapper => ?_
  exact Uses.bind (takeReferenceIfNeeded provider (.of_done (.contextRetain wrapper) rfl)
    (.of_done (.contextRelease wrapper) rfl)) fun _ =>
      Uses.bind Uses.freshIdentity fun _ => Uses.pure _

theorem deviceOfQueue (provider : Provider) (queue : QueueHandle) :
    OnlyCalls (ComputeImport.deviceOfQueue provider queue) := by
  refine fun holds respects => ⟨fun host kept => ?_⟩
  have found : OnlyCalls (do
      let handle ← native (provider.table.call (Simulator.queueDevice queue))
      manageDevice provider [] handle) :=
    Uses.bind (Uses.native (call (.of_answer (.queueDevice queue) rfl))) fun _ =>
      of_quiet (Uses.manageDevice trivial _ _)
  have isCall : IsCall (Simulator.queueRelease queue) _ := .of_done (.queueRelease queue) rfl
  have releases : OnlyCalls (provider.table.call (Simulator.queueRelease queue)) := call isCall
  rw [ends_deviceOfQueue_iff]
  apply ((found holds respects).ends host kept).imp
  · exact fun _ _ kept => kept
  · intro e after kept
    apply ((releases holds respects).ends after kept).imp
    · exact fun _ _ kept => kept
    · exact fun _ _ kept => respects.notify _ kept

theorem makeQueue (registry : Registry) (handle : NativeHandle) (descriptor : Int32)
    (context : Context) (device : Option Device) (keeps : Bool) (properties : QueueProperties)
    (backend : Backend) :
    OnlyCalls (ComputeImport.makeQueue registry handle descriptor context device keeps properties
      backend) := by
  refine Uses.bind (Uses.notify _) fun _ => ?_
  dsimp only
  by_cases given : properties.computeIndex.isSome = true
  · rw [if_pos given]
    exact Uses.throw _
  rw [if_neg given]
  refine Uses.resolve_bind (within registry) fun provider _ => ?_
  refine Uses.bind (Uses.native (call (.of_answer (.queueCreate handle context.handle
    (device.map Device.handle) _) rfl))) fun wrapper => ?_
  refine Uses.bind (takeReferenceIfNeeded provider (.of_done (.queueRetain wrapper) rfl)
    (.of_done (.queueRelease wrapper) rfl)) fun _ => ?_
  cases device with
  | some device =>
      exact Uses.bind (Uses.pure device) fun _ =>
        Uses.bind Uses.freshIdentity fun _ => Uses.pure _
  | none =>
      exact Uses.bind (deviceOfQueue provider wrapper) fun _ =>
        Uses.bind Uses.freshIdentity fun _ => Uses.pure _

theorem makeEvent (registry : Registry) (handle : NativeHandle) (context : Context)
    (keeps : Bool) (backend : Backend) :
    OnlyCalls (ComputeImport.makeEvent registry handle context keeps backend) := by
  refine Uses.bind (Uses.notify _) fun _ =>
    Uses.resolve_bind (within registry) fun provider _ => ?_
  refine Uses.bind (Uses.native (call (.of_answer (.eventCreate handle context.handle
    (Ownership.ofKeep keeps).ownsNative) rfl))) fun wrapper => ?_
  exact Uses.bind (takeReferenceIfNeeded provider (.of_done (.eventRetain wrapper) rfl)
    (.of_done (.eventRelease wrapper) rfl)) fun _ =>
      Uses.bind Uses.freshIdentity fun _ => Uses.pure _

theorem advance (builder : Builder) (target : BundleState) (current : ProgramRef)
    (superseded : List ProgramRef) (devices : List DeviceHandle) :
    OnlyCalls (builder.advance target current superseded devices) :=
  of_sparing (Uses.advance trivial target (fun _ _ => trivial) devices)

theorem importProgram (registry : Registry) (handle : NativeHandle) (context : Context)
    (keeps : Bool) (target : BundleState) (backend : Backend) :
    OnlyCalls (ComputeImport.importProgram registry handle context keeps target backend) :=
  of_sparing (Uses.importProgram (within registry) handle context keeps target backend)

theorem importKernel (registry : Registry) (context : Context) (bundle : KernelBundle)
    (handle : NativeHandle) (keeps : Bool) (backend : Backend) :
    OnlyCalls (ComputeImport.importKernel registry context bundle handle keeps backend) := by
  refine Uses.bind (Uses.notify _) fun _ => Uses.timed ?_
  refine Uses.resolve_bind (within registry) fun provider _ => ?_
  split
  · exact Uses.throw _
  refine Uses.bind (Uses.kernelProgram? provider bundle) fun program => ?_
  refine Uses.bind (Uses.native (call (.of_answer (.kernelCreate handle context.handle
    program (Ownership.ofKeep keeps).ownsNative) rfl))) fun wrapper => ?_
  refine Uses.bind (takeReferenceIfNeeded provider (.of_done (.kernelRetain wrapper) rfl)
    (.of_done (.kernelRelease wrapper) rfl)) fun _ => ?_
  exact Uses.bind (Uses.notify _) fun _ => Uses.bind Uses.freshIdentity fun _ => Uses.pure _

theorem makeKernel (registry : Registry) (handle : NativeHandle) (context : Context)
    (backend : Backend) :
    OnlyCalls (ComputeImport.makeKernel registry handle context backend) :=
  importKernel registry context _ handle false backend

end OnlyCalls

end ComputeImport
