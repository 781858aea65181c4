import ComputeImport.Proofs.Import.Parts

/-!
# Importing a program

Where an import of a program ends, from the parts that it is made of.  One that succeeds has brought
the program behind its image to the state that was asked for on every device.  One that fails has
changed no program, or warns the caller, or fails at the very end, where the devices are managed.
-/

namespace ComputeImport

open Simulator

/-! ## Wrapping the program -/

theorem Store.Leads.quiet {store after : Store} {program : ProgramHandle} {native : NativeHandle}
    {binary : ProgramBinary} (leads : store.Leads program native binary) (quiet : store.Quiet after)
    (formed : store.WellFormed) : after.Leads program native binary := by
  rcases leads with ⟨behind, live⟩
  refine ⟨behind.grows quiet.grows formed, ?_⟩
  rw [quiet.natives]
  exact live

theorem Store.Quiet.hasNative_iff {store after : Store} (quiet : store.Quiet after)
    {kind : ObjectKind} {native : NativeHandle} :
    after.HasNative kind native ↔ store.HasNative kind native := by
  rw [HasNative, HasNative, quiet.natives]

/-- A live program has been wrapped, and no native object has been changed. -/
structure Store.Enters (store : Store) (native : NativeHandle) (binary : ProgramBinary)
    (ownsNative : Bool) (wrapper : ProgramHandle) (after : Store) : Prop where
  first : wrapper = ⟨store.nextWrapper⟩
  owns : ∃ found, after.wrappers.get? wrapper.id = some found ∧ found.ownsNative = ownsNative
  leads : after.Leads wrapper native binary
  natives : after.natives = store.natives
  behind : ∀ {kind : ObjectKind} (handle : Handle kind) native,
    store.Behind handle native → after.Behind handle native
  wellFormed : after.WellFormed

namespace Store.Enters

variable {store middle after : Store} {native : NativeHandle} {binary : ProgramBinary}
  {ownsNative : Bool} {wrapper : ProgramHandle}

theorem of_wraps {refs count : Nat} (formed : store.WellFormed)
    (wraps : Wraps store .program native ownsNative refs wrapper after)
    (found : store.natives.get? native = some ⟨.program binary, count⟩) :
    store.Enters native binary ownsNative wrapper after := by
  have grows : Store.Grows (fun kind => kind = .program) store after :=
    wraps.grows rfl (by decide) (by rintro _ ⟨⟩)
  rcases wraps with ⟨-, rfl, rfl⟩
  let made : Wrapper := ⟨.program, native, refs, ownsNative⟩
  have found' : (store.wrapped .program native ownsNative refs).wrappers.get? store.nextWrapper =
      some made := by
    simp [Store.wrapped, made]
  refine ⟨rfl, ⟨made, found', rfl⟩, ⟨⟨made, found', rfl, rfl⟩, count, found⟩, rfl, ?_,
    grows.wellFormed formed⟩
  exact fun _ _ behind => behind.grows grows formed

theorem recounts (enters : store.Enters native binary ownsNative wrapper middle)
    (recounts : middle.Recounts after) :
    store.Enters native binary ownsNative wrapper after := by
  obtain ⟨found, live, isOwner⟩ := enters.owns
  obtain ⟨refs, live'⟩ := recounts.wrapper _ found live
  refine ⟨enters.first, ⟨_, live', isOwner⟩, recounts.leads enters.leads,
    recounts.natives.trans enters.natives, ?_, recounts.wellFormed enters.wellFormed⟩
  exact fun _ _ behind => recounts.behind (enters.behind _ _ behind)

theorem quiet (enters : store.Enters native binary ownsNative wrapper middle)
    (quiet : middle.Quiet after) : store.Enters native binary ownsNative wrapper after := by
  obtain ⟨found, live, isOwner⟩ := enters.owns
  have live' := quiet.grows.get?_wrappers enters.wellFormed live
  refine ⟨enters.first, ⟨found, live', isOwner⟩, enters.leads.quiet quiet enters.wellFormed,
    quiet.natives.trans enters.natives, ?_, quiet.grows.wellFormed enters.wellFormed⟩
  exact fun _ _ behind => (enters.behind _ _ behind).grows quiet.grows enters.wellFormed

theorem hasWrapper (enters : store.Enters native binary ownsNative wrapper after)
    {kind : ObjectKind} {other : Handle kind} (live : store.HasWrapper other) :
    after.HasWrapper other := by
  obtain ⟨found, isLive, isKind⟩ := live
  exact (enters.behind other found.native ⟨found, isLive, isKind, rfl⟩).hasWrapper

/-- What a program is, nobody has changed yet. -/
theorem spares (enters : store.Enters native binary ownsNative wrapper after) : store.Spares after :=
  .of_natives enters.natives

end Store.Enters

theorem Simulator.program?_eq_some {sim : Simulator} {handle : NativeHandle}
    {binary : ProgramBinary} :
    sim.program? handle = some binary ↔
      ∃ refs, sim.store.natives.get? handle = some ⟨.program binary, refs⟩ := by
  unfold Simulator.program?
  constructor
  · intro known
    rcases Option.bind_eq_some_iff.mp known with ⟨⟨data, refs⟩, found, isProgram⟩
    cases data <;> cases isProgram
    exact ⟨refs, found⟩
  · rintro ⟨refs, found⟩
    rw [found]
    rfl

/-- A live program is wrapped where its context is live. -/
theorem ends_programCreate {host : Host} {provider : Provider} {handle : NativeHandle}
    {context : ContextHandle} {ownsNative : Bool} {number : Nat}
    (isNumber : provider.table.simulator = number)
    (formed : (host.simulator number).store.WellFormed) :
    Ends (native (provider.table.call (programCreate handle context ownsNative))) host
      (fun wrapper after => (∃ binary, (host.simulator number).program? handle = some binary ∧
          (host.simulator number).store.Enters handle binary ownsNative wrapper
            (after.simulator number).store) ∧
        Did EntryPoint.Prepares (host.simulator number) (after.simulator number))
      (fun e after => (∃ cause, e = .native cause) ∧
        ((host.simulator number).failures.get? .programCreate ≠ none ∨
          ((host.simulator number).store.HasWrapper context →
            (host.simulator number).program? handle = none)) ∧
        (host.simulator number).store.Spares (after.simulator number).store ∧
        Did EntryPoint.Prepares (host.simulator number) (after.simulator number)) := by
  subst isNumber
  let before := host.simulator provider.table.simulator
  have creates : Ends (programCreate handle context ownsNative) before
      (fun wrapper after => (∃ binary, before.program? handle = some binary ∧
          before.store.Enters handle binary ownsNative wrapper after.store) ∧
        Did EntryPoint.Prepares before after)
      (fun _ after => (before.failures.get? .programCreate ≠ none ∨
          (before.store.HasWrapper context → before.program? handle = none)) ∧
        before.store.Spares after.store ∧ Did EntryPoint.Prepares before after) := by
    have allowed : EntryPoint.Prepares .programCreate := Or.inl rfl
    refine Ends.imp answers_programCreate ?_ ?_
    · rintro wrapper after ⟨recorded, -, wraps⟩
      refine ⟨?_, recorded.did allowed⟩
      rcases wraps.live with ⟨⟨data, refs⟩, found, isProgram⟩
      cases data <;> cases isProgram
      rename_i binary
      exact ⟨binary, program?_eq_some.mpr ⟨refs, found⟩, .of_wraps formed wraps found⟩
    · rintro e after ⟨recorded, ⟨injected, unchanged⟩ | ⟨-, unchanged, dead⟩⟩
      · refine ⟨Or.inl ?_, .of_natives (by rw [unchanged]), recorded.did allowed⟩
        exact fun unset => Option.some_ne_none e (injected.symm.trans unset)
      · refine ⟨Or.inr fun live => ?_, .of_natives (by rw [unchanged]), recorded.did allowed⟩
        rw [Option.eq_none_iff_forall_ne_some]
        intro binary known
        rcases program?_eq_some.mp known with ⟨refs, found⟩
        exact dead live ⟨_, found, rfl⟩
  refine ends_native.mpr (creates.call.imp (fun _ _ ended => ended) ?_)
  exact fun e _ ended => ⟨⟨e, rfl⟩, ended⟩

/-! ## The whole import -/

/-- What is known of a bundle that an import has brought back. -/
structure Imported (provider : Provider) (context : Context) (target : BundleState)
    (binary : ProgramBinary) (bundle : KernelBundle) (image : DeviceImage) (after : Store) :
    Prop where
  bundle_eq : bundle = ⟨context, image.devices, target, [image]⟩
  state : image.state = target
  own : image.program.provider = provider
  settled : ∃ native new, after.Leads image.program.handle native new ∧
    binary.Follows target new ∧ ∀ device ∈ binary.devices, new.Settled target device
  lists : after.Lists binary.devices (image.devices.map Device.handle)
  formed : after.WellFormed

/-- How an import leaves the backend when it fails. -/
inductive Aborts (handle : NativeHandle) (before after : Simulator) (e : ImportError) : Prop
  | spared (spares : before.store.Spares after.store)
      (unasked : after.callCount .devicePlatform = before.callCount .devicePlatform)
  | warned (warns : e.mayHaveMutated = true)
      (unasked : after.callCount .devicePlatform = before.callCount .devicePlatform)
  /-- The program is where it should be, but one of its devices cannot be managed. -/
  | late (binary : ProgramBinary) (known : before.program? handle = some binary)
      (unwarned : e.mayHaveMutated = false)
      (asked : before.callCount .devicePlatform < after.callCount .devicePlatform)
      (cause : before.failures.get? .devicePlatform ≠ none ∨
        ∃ device ∈ binary.devices, ∃ platform refs,
          before.store.natives.get? device = some ⟨.device platform, refs⟩ ∧
          ¬ before.store.HasNative .platform platform)

/-- A device of a program that is stranded after the program has been taken further was stranded
before. -/
theorem exists_stranded {store middle : Store} {natives : List NativeHandle}
    {handles : List DeviceHandle} {wraps : ObjectKind → Prop} (formed : store.WellFormed)
    (grows : Store.Grows wraps store middle) (lists : middle.Lists natives handles)
    (live : ∀ device ∈ natives, store.HasNative .device device)
    (stranded : ∃ handle ∈ handles, middle.Stranded handle) :
    ∃ device ∈ natives, ∃ platform refs,
      store.natives.get? device = some ⟨.device platform, refs⟩ ∧
      ¬ store.HasNative .platform platform := by
  rcases stranded with ⟨handle, member, stranded⟩
  rcases List.forall₂_iff_get.mp lists with ⟨length, known⟩
  rcases List.get_of_mem member with ⟨⟨index, below⟩, rfl⟩
  have below' : index < natives.length := by rw [length]; exact below
  refine ⟨natives.get ⟨index, below'⟩, List.get_mem _ _, ?_⟩
  rcases live _ (List.get_mem natives ⟨index, below'⟩) with ⟨⟨data, refs⟩, found, isDevice⟩
  cases data <;> cases isDevice
  rename_i platform
  refine ⟨platform, refs, found, ?_⟩
  intro livePlatform
  refine stranded (natives.get ⟨index, below'⟩) platform refs ?_ ?_
    (grows.hasNative formed livePlatform)
  · exact (grows.wellFormed formed).behind_device (known index below' below)
  · exact grows.get?_natives formed found (by simp [NativeData.kind])

/-- What the entry points that are called before the end leave of the count of the others. -/
theorem unasked_of_did {allowed : EntryPoint → Prop} {before after : Simulator}
    (did : Did allowed before after)
    (allows : ∀ entryPoint, allowed entryPoint → entryPoint ≠ .devicePlatform) :
    after.callCount .devicePlatform = before.callCount .devicePlatform :=
  did.callCount fun asked => allows _ asked rfl

theorem EntryPoint.Prepares.ne_devicePlatform (entryPoint : EntryPoint)
    (prepares : entryPoint.Prepares) : entryPoint ≠ .devicePlatform := by
  rintro rfl
  simp [EntryPoint.Prepares] at prepares

theorem EntryPoint.IsStepOrRelease.ne_devicePlatform (entryPoint : EntryPoint)
    (isStep : entryPoint.IsStepOrRelease) : entryPoint ≠ .devicePlatform := by
  rintro rfl
  simp [IsStepOrRelease, IsStep, mutatesProgram] at isStep

/-- Nothing is imported through a backend that is not registered. -/
theorem exists_provider {registry : Registry} {handle : NativeHandle} {context : Context}
    {keeps : Bool} {target : BundleState} {backend : Backend} {host after : Host}
    {bundle : KernelBundle}
    (outcome : importProgram registry handle context keeps target backend host =
      .ok bundle after) : ∃ provider, registry.provider? backend = some provider := by
  cases resolved : registry.provider? backend with
  | some provider => exact ⟨provider, rfl⟩
  | none =>
      have fails : Ends (importProgram registry handle context keeps target backend) host
          (fun _ _ => False) (fun _ _ => True) := by
        unfold importProgram
        rw [ends_bind, ends_notify]
        refine Ends.timed ?_ (fun _ _ _ ended => ended) fun _ _ _ ended => ended
        refine (ends_resolve.imp (fun _ _ ended => ended) fun _ _ _ => trivial).bind ?_
        rintro provider start ⟨resolved', -⟩
        rw [resolved] at resolved'
        contradiction
      exact (fails.of_ok outcome).elim

/-- An import of a program settles every device, or says how it has left the backend. -/
theorem ends_importProgram {registry : Registry} {handle : NativeHandle} {context : Context}
    {keeps : Bool} {target : BundleState} {backend : Backend} {host : Host} {provider : Provider}
    (resolved : registry.provider? backend = some provider)
    (formed : (host.simulator provider.table.simulator).store.WellFormed) :
    Ends (importProgram registry handle context keeps target backend) host
      (fun bundle after => ∃ binary image,
        (host.simulator provider.table.simulator).program? handle = some binary ∧
        Imported provider context target binary bundle image
          (after.simulator provider.table.simulator).store)
      (fun e after => Aborts handle (host.simulator provider.table.simulator)
        (after.simulator provider.table.simulator) e) := by
  unfold importProgram
  rw [ends_bind, ends_notify]
  refine Ends.timed ?_ (fun _ _ _ ended => ended) fun _ _ _ ended => ended
  refine (ends_resolve.imp (fun _ _ ended => ended) ?_).bind ?_
  · rintro e after ⟨unresolved, -⟩
    rw [resolved] at unresolved
    contradiction
  rintro provider' start ⟨resolved', notice, noted⟩
  obtain rfl : provider = provider' := Option.some.inj (resolved.symm.trans resolved')
  have same : start.simulator provider.table.simulator =
      host.simulator provider.table.simulator := by
    rw [noted]
    rfl
  rw [← same] at formed ⊢
  refine ((ends_programCreate rfl formed).imp (fun _ _ ended => ended) ?_).bind ?_
  · rintro e after ⟨-, -, spares, did⟩
    exact .spared spares (unasked_of_did did EntryPoint.Prepares.ne_devicePlatform)
  rintro wrapper created ⟨⟨binary, known, enters⟩, did⟩
  refine ((ends_takeReference rfl).imp (fun _ _ ended => ended) ?_).bind ?_
  · rintro e after ⟨-, -, spares, did'⟩
    exact .spared (enters.spares.trans spares)
      (unasked_of_did (did.trans did') EntryPoint.Prepares.ne_devicePlatform)
  rintro _ taken ⟨recounts, did'⟩
  replace enters := enters.recounts recounts
  replace did := did.trans did'
  refine (ends_orRelease.mpr ((ends_listDevices rfl enters.leads).imp
    (fun _ _ ended => ended) ?_)).bind ?_
  · rintro e after ⟨-, -, quiet, did'⟩
    rcases spares_releasePrograms [⟨wrapper, provider⟩] after
      provider.table.simulator with ⟨spares, released⟩
    refine .spared ((enters.quiet quiet).spares.trans spares) ?_
    refine unasked_of_did ((did.trans did').trans (released.mono fun _ isRelease => ?_))
      EntryPoint.Prepares.ne_devicePlatform
    exact Or.inr (Or.inr (Or.inl isRelease))
  rintro handles listed ⟨quiet, lists, live, did'⟩
  replace enters := enters.quiet quiet
  replace did := did.trans did'
  rw [ends_bind, ends_notify]
  generalize noted' : listed.notify _ = ready
  have same' : ready.simulator provider.table.simulator =
      listed.simulator provider.table.simulator := by
    rw [← noted']
    rfl
  rw [← same'] at enters did lists
  let builder : Builder := ⟨provider, context, registry.options⟩
  have advances : Ends (builder.advance target ⟨wrapper, provider⟩ [] handles) ready _ _ :=
    ends_advance enters.wellFormed enters.leads lists (fun _ member => member) rfl
  refine (advances.imp (fun _ _ ended => ended) ?_).bind ?_
  · rintro e after ⟨cause, did'⟩
    have unasked := (unasked_of_did did' EntryPoint.IsStepOrRelease.ne_devicePlatform).trans
      (unasked_of_did did EntryPoint.Prepares.ne_devicePlatform)
    rcases cause with warns | ⟨-, spares⟩
    · exact .warned warns unasked
    · exact .spared (enters.spares.trans spares) unasked
  rintro built advanced ⟨⟨grows, settled⟩, own, did'⟩
  have formed' := grows.wellFormed enters.wellFormed
  have lists' := Store.Lists.grows lists grows
  have unasked := (unasked_of_did did' fun entryPoint isStep =>
    EntryPoint.IsStepOrRelease.ne_devicePlatform entryPoint (Or.inl isStep)).trans
      (unasked_of_did did EntryPoint.Prepares.ne_devicePlatform)
  refine (ends_orRelease.mpr ((ends_manageDevices rfl formed').imp (fun _ _ ended => ended) ?_)).bind
    ?_
  · rintro e after ⟨⟨cause, rfl⟩, stuck, -, -, more⟩
    rcases spares_releasePrograms (built.current :: built.superseded) after
      provider.table.simulator with ⟨-, released⟩
    refine .late binary known rfl ?_ (stuck.imp ?_ fun stranded => ?_)
    · rw [unasked_of_did released (by rintro _ rfl ⟨⟩), ← unasked]
      exact more
    · exact fun injected unset => injected (did'.unset (did.unset unset))
    · have live' : ∀ device ∈ binary.devices,
          (ready.simulator provider.table.simulator).store.HasNative .device device := by
        intro device member
        rw [same', quiet.hasNative_iff]
        exact live device member
      rcases exists_stranded enters.wellFormed grows lists' live' stranded with
        ⟨device, member, platform, refs, found, dead⟩
      rw [Store.HasNative, enters.natives] at dead
      rw [enters.natives] at found
      exact ⟨device, member, platform, refs, found, dead⟩
  · rintro devices after ⟨areHandles, quiet', -⟩
    rw [ends_bind, ends_freshIdentity]
    refine ⟨binary, ⟨after.nextIdentity, built.current, built.superseded, devices, target⟩, known,
      rfl, rfl, own, ?_, ?_, quiet'.grows.wellFormed formed'⟩
    · rcases settled with ⟨native, new, leads, follows, settled⟩
      exact ⟨native, new, leads.quiet quiet' formed', follows, settled⟩
    · rw [areHandles]
      exact Store.Lists.grows lists' quiet'.grows

end ComputeImport
