import ComputeImport.Proofs.Import.WholePrograms

/-!
# What an import promises where only whole programs are built

An import brings a bundle back exactly where the program can be taken to the state as a whole, and
has then done one operation at most.  Otherwise it stops at a device that is past the state, or at
one that is to be linked beside others that cannot be.
-/

namespace ComputeImport

open Simulator

/-! ## The whole import -/

section Import

variable {registry : Registry} {handle : NativeHandle} {context : Context}
  {target : BundleState} {backend : Backend} {host : Host} {provider : Provider}
  {binary : ProgramBinary} {builder : Builder} {program : ProgramRef} {native : NativeHandle}
  {before : Simulator}

theorem ProgramBinary.isBuildable_of_isFree
    (free : ∀ device ∈ binary.devices, (binary.stageOf device).IsFree target) :
    binary.IsBuildable target := by
  apply isBuildable_iff.mpr
  constructor
  · exact fun device member => (Stage.isFree_iff.mp (free device member)).1
  · exact fun last => Or.inr fun device member => (Stage.isFree_iff.mp (free device member)).2 last

theorem CompletesWholly.isBuildable {built : Built} {after : Simulator}
    (completes : CompletesWholly builder target program binary before built after) :
    binary.IsBuildable target := by
  cases completes with
  | kept all =>
      exact ProgramBinary.isBuildable_of_isFree fun device member => Or.inr (all device member)
  | advanced _ free => exact ProgramBinary.isBuildable_of_isFree free
  | joined linkable done =>
      obtain ⟨_, _, _, _, _, _, planned, _⟩ := done
      obtain rfl := Stage.executable_of_link planned
      refine Or.inl fun device member => ?_
      exact Stage.plan_eq_link_iff_isCompiled.mp (linkable device member rfl)

/-- A program that can be taken to a state as a whole is not refused on the way. -/
theorem Refused.not_isBuildable {device : DeviceHandle} {nativeDevice : NativeHandle}
    {e : ImportError} (member : nativeDevice ∈ binary.devices)
    (refused : Refused target binary device nativeDevice e) : ¬ binary.IsBuildable target := by
  intro buildable
  cases refused with
  | past planned => exact (ProgramBinary.isBuildable_iff.mp buildable).1 nativeDevice member planned
  | unlinkable planned stuck =>
      obtain rfl := Stage.executable_of_link planned
      rcases buildable with all | none
      · exact stuck fun other found _ => Stage.plan_eq_link_iff_isCompiled.mpr (all other found)
      · have isCompiled := Stage.plan_eq_link_iff_isCompiled.mp planned
        rw [none nativeDevice member] at isCompiled
        contradiction

/-- What is known of an import that has brought a bundle back: where nothing had to be done nothing
has been done, and else one operation, for all devices at once. -/
structure ImportedWholly (builder : Builder) (target : BundleState) (binary : ProgramBinary)
    (before : Simulator) (bundle : KernelBundle) (image : DeviceImage) (after : Simulator) :
    Prop where
  images : bundle.images = [image]
  kept : (∀ device ∈ binary.devices, (binary.stageOf device).plan target = .keep) →
    after.mutations = before.mutations ∧ image.superseded = []
  worked : (¬ ∀ device ∈ binary.devices, (binary.stageOf device).plan target = .keep) →
    ∃ operation,
      DoneOnce builder target binary ⟨before.store.nextWrapper⟩ operation before after ∧
      image.superseded.length = if operation = .link then 1 else 0
  head : (image.superseded ++ [image.program]).head? =
    some ⟨⟨before.store.nextWrapper⟩, builder.provider⟩

/-- What is known of an import that has failed: the device that has stopped it is the first one that
has been compiled but not linked, if the last state was asked for, and else the first one that is
past the state.  If a device before it was unbuilt, all unbuilt devices have been taken further. -/
structure HaltedWholly (target : BundleState) (binary : ProgramBinary) (handle : NativeHandle)
    (first : List NativeHandle) (device : NativeHandle) (e : ImportError) (after : Simulator) :
    Prop where
  cause :
    match target with
    | .executable =>
        (∀ earlier ∈ first, (binary.stageOf earlier).isCompiled = false) ∧
        (binary.stageOf device).isCompiled = true ∧
        ∃ deviceHandle log, after.store.deviceWrappers.get? device = some deviceHandle ∧
          e = .buildFailed .link deviceHandle (.linkFailure log)
    | .input | .object =>
        (∀ earlier ∈ first, (binary.stageOf earlier).plan target ≠ .mismatch) ∧
        (binary.stageOf device).plan target = .mismatch ∧
        e = .stateMismatch (binary.stageOf device) target
  program : ∃ now, after.program? handle = some now ∧ binary.TakenAfter target first now

theorem haltsWholly_of_refused {device : NativeHandle} {first : List NativeHandle}
    {deviceHandle : DeviceHandle} {e : ImportError} {after : Simulator} {now : ProgramBinary}
    (free : ∀ earlier ∈ first, (binary.stageOf earlier).IsFree target)
    (refused : Refused target binary deviceHandle device e)
    (known : after.store.deviceWrappers.get? device = some deviceHandle)
    (found : after.program? handle = some now) (taken : binary.TakenAfter target first now) :
    HaltedWholly target binary handle first device e after := by
  have fine : ∀ earlier ∈ first, (binary.stageOf earlier).plan target ≠ .mismatch :=
    fun earlier isEarly => (Stage.isFree_iff.mp (free earlier isEarly)).1
  refine ⟨?_, now, found, taken⟩
  cases refused with
  | past planned =>
      cases target with
      | executable => exact absurd rfl (Stage.ne_executable_of_mismatch planned)
      | input | object => exact ⟨fine, planned, rfl⟩
  | unlinkable planned =>
      obtain rfl := Stage.executable_of_link planned
      refine ⟨?_, Stage.plan_eq_link_iff_isCompiled.mp planned, deviceHandle, _, known, rfl⟩
      exact fun earlier isEarly => (Stage.isFree_iff.mp (free earlier isEarly)).2 rfl

theorem haltsWholly_of_stops {wrapper : ProgramHandle} {ready : Simulator} {e : ImportError}
    {after : Host} (enters : before.store.Enters handle binary false wrapper ready.store)
    (stops : StopsWholly target ⟨wrapper, builder.provider⟩ handle binary builder ready e after) :
    (¬ binary.IsBuildable target) ∧
      ∃ first device others, binary.devices = first ++ device :: others ∧
        HaltedWholly target binary handle first device e (builder.simulator after) := by
  obtain ⟨first, device, others, deviceHandle, idle, now, split, free, refused, known, grows, leads,
    taken, rfl⟩ := stops
  obtain ⟨record, live, borrowed⟩ := enters.owns
  obtain ⟨natives, deviceWrappers, -⟩ := kept_of_releasePrograms
    (grows.get?_wrappers enters.wellFormed live) borrowed
  obtain ⟨-, refs, found⟩ := leads
  have member : device ∈ binary.devices := by
    rw [split]
    exact List.mem_append_right first List.mem_cons_self
  refine ⟨refused.not_isBuildable member, first, device, others, split,
    haltsWholly_of_refused free refused ?_ (program?_eq_some.mpr ⟨refs, ?_⟩) taken⟩
  · rw [deviceWrappers]
    exact known
  · rw [natives]
    exact found

theorem importedWholly_of_completes {wrapper : ProgramHandle} {ready advanced after : Simulator}
    {bundle : KernelBundle} {image : DeviceImage} (images : bundle.images = [image])
    (isNext : wrapper = ⟨before.store.nextWrapper⟩)
    (unmutated : ready.mutations = before.mutations)
    (completes : CompletesWholly builder target ⟨wrapper, builder.provider⟩ binary ready
      ⟨image.program, image.superseded⟩ advanced)
    (quiet : advanced.store.Quiet after.store)
    (unmutated' : after.mutations = advanced.mutations) :
    ImportedWholly builder target binary before bundle image after := by
  subst isNext
  have once : ∀ {operation : BuildOperation},
      DoneOnce builder target binary ⟨before.store.nextWrapper⟩ operation ready advanced →
      DoneOnce builder target binary ⟨before.store.nextWrapper⟩ operation before after := by
    intro operation done
    have later := done.quiet quiet unmutated'
    rw [DoneOnce, unmutated] at later
    exact later
  have unkept : ∀ {operation : BuildOperation},
      DoneOnce builder target binary ⟨before.store.nextWrapper⟩ operation ready advanced →
      ¬ ∀ device ∈ binary.devices, (binary.stageOf device).plan target = .keep := by
    rintro operation ⟨first, device, others, _, split, _, planned, _⟩ all
    have kept := all device (by rw [split]; exact List.mem_append_right first List.mem_cons_self)
    rw [planned] at kept
    contradiction
  generalize isBuilt : (⟨image.program, image.superseded⟩ : Built) = built at completes
  cases completes with
  | kept all mutations =>
      obtain ⟨isProgram, isSuperseded⟩ := Built.mk.inj isBuilt
      refine ⟨images, fun _ => ⟨?_, isSuperseded⟩, fun some => absurd all some, ?_⟩
      · rw [unmutated', mutations, unmutated]
      · rw [isSuperseded, isProgram]
        rfl
  | @advanced _ operation other free done =>
      obtain ⟨isProgram, isSuperseded⟩ := Built.mk.inj isBuilt
      refine ⟨images, fun all => absurd all (unkept done), fun _ => ⟨operation, once done, ?_⟩, ?_⟩
      · rw [isSuperseded, if_neg other]
        rfl
      · rw [isSuperseded, isProgram]
        rfl
  | joined linkable done =>
      obtain ⟨-, isSuperseded⟩ := Built.mk.inj isBuilt
      refine ⟨images, fun all => absurd all (unkept done), fun _ => ⟨.link, once done, ?_⟩, ?_⟩
      · rw [isSuperseded]
        rfl
      · rw [isSuperseded]
        rfl

/-- An import that has everything it needs but the entry points for chosen devices. -/
theorem ends_importProgramWholly (resolved : registry.provider? backend = some provider)
    (direct : provider.table.delegation = none)
    (lacking : (host.simulator provider.table.simulator).config.perDevice = false)
    (unhindered : (host.simulator provider.table.simulator).Unhindered context.handle)
    (known : (host.simulator provider.table.simulator).program? handle = some binary)
    (few : binary.devices.length < UInt32.size)
    (live : ∀ device ∈ binary.devices, ∃ platform refs,
      (host.simulator provider.table.simulator).store.natives.get? device =
        some ⟨.device platform, refs⟩ ∧
      (host.simulator provider.table.simulator).store.HasNative .platform platform) :
    Ends (importProgram registry handle context true target backend) host
      (fun bundle after => binary.IsBuildable target ∧
        ∃ image, ImportedWholly ⟨provider, context, registry.options⟩ target binary
          (host.simulator provider.table.simulator) bundle image
          (after.simulator provider.table.simulator))
      (fun e after => (¬ binary.IsBuildable target) ∧
        ∃ first device others, binary.devices = first ++ device :: others ∧
          HaltedWholly target binary handle first device e
            (after.simulator provider.table.simulator)) := by
  let builder : Builder := ⟨provider, context, registry.options⟩
  let before := host.simulator provider.table.simulator
  let completed (built : Built) (advanced : Simulator) : Prop :=
    ∃ wrapper ready, wrapper = ⟨before.store.nextWrapper⟩ ∧ ready.mutations = before.mutations ∧
      CompletesWholly builder target ⟨wrapper, provider⟩ binary ready built advanced
  let halted (e : ImportError) (after : Simulator) : Prop :=
    (¬ binary.IsBuildable target) ∧ ∃ first device others,
      binary.devices = first ++ device :: others ∧
        HaltedWholly target binary handle first device e after
  refine (ends_importProgram_of_advance completed halted rfl resolved direct unhindered known few
    live ?_).imp ?_ fun _ _ ended => ended
  · intro wrapper handles ready did enters lists
    have lacking' : (ready.simulator provider.table.simulator).config.perDevice = false := by
      rw [did.config]
      exact lacking
    have wholly : Wholly builder ⟨wrapper, provider⟩ handle binary (builder.simulator ready) :=
      ⟨lacking', did.unhindered_of_enters unhindered enters, enters.leads⟩
    have unmutated : (builder.simulator ready).mutations = before.mutations :=
      did.mutations EntryPoint.Prepares.harmless
    apply (ends_advanceWholly direct wholly lists).imp
    · rintro built advanced ⟨grows, unset, completes⟩
      exact ⟨grows, unset, wrapper, _, enters.first, unmutated, completes⟩
    · exact fun e after stops => haltsWholly_of_stops enters stops
  · rintro bundle after ⟨image, advanced, images, ⟨wrapper, ready, isNext, unmutated, completes⟩,
      quiet, did⟩
    have unmutated' : (after.simulator provider.table.simulator).mutations = advanced.mutations :=
      did.mutations (by rintro _ rfl; rfl)
    exact ⟨completes.isBuildable, image,
      importedWholly_of_completes images isNext unmutated completes quiet unmutated'⟩

/-- In every session, an import of a live program that stays the caller's and whose devices can be
counted in 32 bits, through a table that gives access to all entry points of a backend that lacks
those for chosen devices and has not been told to fail, brings a bundle back exactly when the program
can be taken to the state as a whole: unlike where there are those entry points, nothing that has
been compiled for some of its devices only can be made executable.  Then at most one operation has
been done, however many devices there are.  Otherwise the import stops at the first device that
stands in the way. -/
theorem importProgram_wholePrograms {session : Session} (reachable : session.Reachable)
    (resolved : registry.provider? backend = some provider)
    (direct : provider.table.delegation = none)
    (lacking : (session.host.simulator provider.table.simulator).config.perDevice = false)
    (unset : ∀ entryPoint,
      (session.host.simulator provider.table.simulator).failures.get? entryPoint = none)
    (liveContext :
      (session.host.simulator provider.table.simulator).store.HasWrapper context.handle)
    (known : (session.host.simulator provider.table.simulator).program? handle = some binary)
    (few : binary.devices.length < UInt32.size)
    (liveDevices : ∀ device ∈ binary.devices, ∃ platform refs,
      (session.host.simulator provider.table.simulator).store.natives.get? device =
        some ⟨.device platform, refs⟩ ∧
      (session.host.simulator provider.table.simulator).store.HasNative .platform platform) :
    ((∃ bundle after, importProgram registry handle context true target backend session.host =
        .ok bundle after) ↔ binary.IsBuildable target) ∧
    (binary.IsBuildable target ↔
      (∀ device ∈ binary.devices, (binary.stageOf device).plan target ≠ .mismatch) ∧
      (target = .executable →
        (∀ device ∈ binary.devices, (binary.stageOf device).isCompiled = true) ∨
        ∀ device ∈ binary.devices, (binary.stageOf device).isCompiled = false)) ∧
    (∀ bundle after,
      importProgram registry handle context true target backend session.host =
        .ok bundle after →
      ∃ image, ImportedWholly ⟨provider, context, registry.options⟩ target binary
        (session.host.simulator provider.table.simulator) bundle image
        (after.simulator provider.table.simulator)) ∧
    ∀ e after,
      importProgram registry handle context true target backend session.host =
        .error e after →
      ∃ first device others, binary.devices = first ++ device :: others ∧
        HaltedWholly target binary handle first device e
          (after.simulator provider.table.simulator) := by
  have unhindered :
      (session.host.simulator provider.table.simulator).Unhindered context.handle :=
    ⟨unset, liveContext, reachable.wellFormed _⟩
  have ends : Ends (importProgram registry handle context true target backend) session.host _ _ :=
    ends_importProgramWholly resolved direct lacking unhindered known few liveDevices
  refine ⟨⟨?_, ?_⟩, ProgramBinary.isBuildable_iff, fun bundle after outcome => ?_,
    fun e after outcome => ?_⟩
  · rintro ⟨bundle, after, outcome⟩
    exact (ends.of_ok outcome).1
  · intro buildable
    cases outcome : importProgram registry handle context true target backend session.host with
    | ok bundle after => exact ⟨bundle, after, rfl⟩
    | error e after => exact absurd buildable (ends.of_error outcome).1
  · exact (ends.of_ok outcome).2
  · exact (ends.of_error outcome).2

/-- A session over whole programs only, with a program that is unbuilt for one device and has been
compiled for the other. -/
def Session.halfCompiled : Session :=
  sample SimulatorConfig.cuda.wholeProgramsOnly [⟨4097⟩, ⟨4098⟩, ⟨4097⟩] .unbuilt
    [⟨.caller 0 (.setStage ⟨4100⟩ ⟨4098⟩ .object), none⟩]

/-- The program of that session. -/
def ProgramBinary.halfCompiled : ProgramBinary :=
  ⟨[⟨4097⟩, ⟨4098⟩, ⟨4097⟩], ⟨[(⟨4097⟩, .unbuilt), (⟨4098⟩, .object)]⟩, ["axpy"]⟩

/-- That program can be taken to the second state, and not to the last one. -/
theorem importProgram_wholePrograms_halfCompiled :
    (∃ bundle after, importProgram .sample ⟨4100⟩ .sample true .object .cuda
      Session.halfCompiled.host = .ok bundle after) ∧
    ¬ ∃ bundle after, importProgram .sample ⟨4100⟩ .sample true .executable .cuda
      Session.halfCompiled.host = .ok bundle after := by
  have reachable : Session.halfCompiled.Reachable := Session.sample_reachable
  have resolved : Registry.sample.provider? .cuda = some .sample := by decide
  have lacking : (Session.halfCompiled.host.simulator
      Provider.sample.table.simulator).config.perDevice = false := by decide +kernel
  have failures : (Session.halfCompiled.host.simulator
      Provider.sample.table.simulator).failures = {} := by decide +kernel
  have context : (Session.halfCompiled.host.simulator
      Provider.sample.table.simulator).store.wrappers.get? 1 =
        some ⟨.context, ⟨4099⟩, 1, false⟩ := by decide +kernel
  have known : (Session.halfCompiled.host.simulator
      Provider.sample.table.simulator).program? ⟨4100⟩ = some .halfCompiled := by decide +kernel
  have device : ∀ device ∈ ProgramBinary.halfCompiled.devices,
      (Session.halfCompiled.host.simulator
        Provider.sample.table.simulator).store.natives.get? device =
        some ⟨.device ⟨4096⟩, 1⟩ := by decide +kernel
  have platform : (Session.halfCompiled.host.simulator
      Provider.sample.table.simulator).store.natives.get? ⟨4096⟩ =
        some ⟨.platform .cuda, 1⟩ := by decide +kernel
  have unset : ∀ entryPoint, (Session.halfCompiled.host.simulator
      Provider.sample.table.simulator).failures.get? entryPoint = none := by
    intro entryPoint
    rw [failures]
    exact Ledger.get?_empty entryPoint
  have live : ∀ other ∈ ProgramBinary.halfCompiled.devices, ∃ platform refs,
      (Session.halfCompiled.host.simulator
        Provider.sample.table.simulator).store.natives.get? other =
        some ⟨.device platform, refs⟩ ∧
      (Session.halfCompiled.host.simulator
        Provider.sample.table.simulator).store.HasNative .platform platform := by
    intro other member
    exact ⟨⟨4096⟩, 1, device other member, _, platform, rfl⟩
  have liveContext : (Session.halfCompiled.host.simulator
      Provider.sample.table.simulator).store.HasWrapper Context.sample.handle :=
    ⟨_, context, rfl⟩
  have few : ProgramBinary.halfCompiled.devices.length < UInt32.size := by decide
  constructor
  · exact (importProgram_wholePrograms reachable resolved rfl lacking unset liveContext known few
      live).1.mpr (by decide)
  · intro succeeds
    have buildable := (importProgram_wholePrograms reachable resolved rfl lacking unset liveContext
      known few live).1.mp succeeds
    exact absurd buildable (by decide)

end Import

end ComputeImport
