import ComputeImport.Proofs.Agreement
import ComputeImport.Proofs.Import.Relocation

/-!
# The calls of one import at two stores

Each native call that an import makes ends alike at two related stores: it brings the same, or a
wrapper of the same, or it fails with the same error.
-/

namespace ComputeImport.Relocation

open Simulator

variable {relocation : Relocation} {context : ContextHandle} {store store' : Store}
  {held held' : List ProgramHandle} {own own' : ProgramHandle} {native nativeDevice : NativeHandle}
  {binary : ProgramBinary} {device device' : DeviceHandle}

/-! ## Wrapping and counting -/

theorem agree_wrapper {kind : ObjectKind} {handle : Handle kind}
    (same : store.HasWrapper handle ↔ store'.HasWrapper handle) :
    Agree (Store.wrapper handle) store (Store.wrapper handle) store'
      (fun _ after _ after' => (after = store ∧ after' = store') ∧
        store.HasWrapper handle ∧ store'.HasWrapper handle)
      (fun e after e' after' => (after = store ∧ after' = store') ∧ e' = e) := by
  refine .of_ends Store.ends_wrapper Store.ends_wrapper ?_ ?_ ?_ ?_
  · rintro _ _ _ _ ⟨rfl, found⟩ ⟨rfl, found'⟩
    exact ⟨⟨rfl, rfl⟩, ⟨_, found⟩, ⟨_, found'⟩⟩
  · rintro _ _ _ _ ⟨rfl, rfl, -⟩ ⟨rfl, rfl, -⟩
    exact ⟨⟨rfl, rfl⟩, rfl⟩
  · rintro _ _ _ _ ⟨-, found⟩ ⟨-, -, missing⟩
    exact missing (same.mp ⟨_, found⟩)
  · rintro _ _ _ _ ⟨-, -, missing⟩ ⟨-, found⟩
    exact missing (same.mpr ⟨_, found⟩)

theorem agree_native {kind : ObjectKind} {handle : NativeHandle}
    {failed : NativeError → Store → NativeError → Store → Prop}
    (live : store.HasNative kind handle) (live' : store'.HasNative kind handle) :
    Agree (Store.native kind handle) store (Store.native kind handle) store'
      (fun _ after _ after' => after = store ∧ after' = store') failed :=
  .of_ok (Store.ends_native.imp (fun _ _ => id) fun _ _ missing => missing.2.2 live)
    (Store.ends_native.imp (fun _ _ => id) fun _ _ missing => missing.2.2 live')
    fun _ _ _ _ found found' => ⟨found.1, found'.1⟩

/-- An import starts alike, or fails alike because its context is gone. -/
theorem pairs_programCreate (relates : relocation.Relates store store')
    (live : store.HasNative .program relocation.native)
    (same : store.HasWrapper context ↔ store'.HasWrapper context) {ownsNative : Bool} :
    Pairs id (programCreate relocation.native context ownsNative)
      (programCreate relocation.native context ownsNative) store store'
      (fun own after own' after' => (own = ⟨store.nextWrapper⟩ ∧ own' = ⟨store'.nextWrapper⟩) ∧
        relocation.Underway context [own] [own'] after after')
      (fun e after e' after' => (after = store ∧ after' = store') ∧ e' = e) := by
  have live' : store'.HasNative .program relocation.native := by
    rw [Store.HasNative, relates.imported]
    exact live
  refine .perform ((Pairs.onStore (agree_wrapper same)).bind ?_)
  rintro _ _ _ _ ⟨⟨rfl, rfl⟩, inContext, inContext'⟩
  refine (Pairs.onStore (agree_native live live')).bind ?_
  rintro _ _ _ _ ⟨rfl, rfl⟩
  refine Pairs.wrapImported.imp ?_ fun _ _ _ _ => id
  rintro _ _ _ _ ⟨rfl, rfl, refs, rfl, rfl⟩
  exact ⟨⟨rfl, rfl⟩, relates.wrapped live inContext inContext' ownsNative refs⟩

theorem pairs_programRetain (underway : relocation.Underway context [own] [own'] store store')
    {failed : NativeError → Store → NativeError → Store → Prop} :
    Pairs id (programRetain own) (programRetain own') store store'
      (fun _ after _ after' => relocation.Underway context [own] [own'] after after') failed := by
  obtain ⟨⟨wrapper, found, isProgram, -, found'⟩, -⟩ := List.forall₂_cons.mp underway.twins
  have retains : ∀ {store : Store} {own : ProgramHandle} {wrapper : Wrapper},
      store.wrappers.get? own.id = some wrapper → wrapper.data = .program →
      Ends (Store.retain own) store (fun _ after =>
        after = store.recounted own.id { wrapper with refs := wrapper.refs + 1 })
        (fun _ _ => False) := by
    intro store own wrapper found isProgram
    refine Store.ends_retain.imp ?_ ?_
    · rintro _ _ ⟨_, found', -, rfl⟩
      obtain rfl := Option.some.inj (found.symm.trans found')
      rfl
    · rintro _ _ ⟨-, -, missing⟩
      exact missing ⟨wrapper, found, congrArg WrapperData.kind isProgram⟩
  refine .perform (.onStore (.of_ok (retains found isProgram) (retains found' isProgram) ?_))
  rintro _ _ _ _ rfl rfl
  exact underway.retained found found'

/-! ## Looking -/

theorem agree_wrapDevice (same : store.HasNative .device native ↔ store'.HasNative .device native) :
    Agree (Store.wrapDevice native) store (Store.wrapDevice native) store'
      (fun device after device' after' => (store.Quiet after ∧ store'.Quiet after') ∧
        after.deviceWrappers.get? native = some device ∧
        after'.deviceWrappers.get? native = some device')
      (fun e after e' after' => (store.Quiet after ∧ store'.Quiet after') ∧ e' = e) := by
  refine .of_ends Store.ends_wrapDevice Store.ends_wrapDevice ?_ ?_ ?_ ?_
  · exact fun _ _ _ _ done done' => ⟨⟨done.1, done'.1⟩, done.2.1, done'.2.1⟩
  · rintro _ _ _ _ ⟨rfl, rfl, -⟩ ⟨rfl, rfl, -⟩
    exact ⟨⟨.refl _, .refl _⟩, rfl⟩
  · exact fun _ _ _ _ done missing => missing.2.2 (same.mp done.2.2)
  · exact fun _ _ _ _ missing done => missing.2.2 (same.mpr done.2.2)

theorem agree_wrapPlatform
    (same : store.HasNative .platform native ↔ store'.HasNative .platform native) :
    Agree (Store.wrapPlatform native) store (Store.wrapPlatform native) store'
      (fun _ after _ after' => store.Quiet after ∧ store'.Quiet after')
      (fun e after e' after' => (store.Quiet after ∧ store'.Quiet after') ∧ e' = e) := by
  refine .of_ends Store.ends_wrapPlatform Store.ends_wrapPlatform ?_ ?_ ?_ ?_
  · exact fun _ _ _ _ done done' => ⟨done.1, done'.1⟩
  · rintro _ _ _ _ ⟨rfl, rfl, -⟩ ⟨rfl, rfl, -⟩
    exact ⟨⟨.refl _, .refl _⟩, rfl⟩
  · exact fun _ _ _ _ done missing => missing.2.2 (same.mp done.2.2)
  · exact fun _ _ _ _ missing done => missing.2.2 (same.mpr done.2.2)

theorem agree_nativeDevice (ground : store.SameGround store') :
    Agree (Store.nativeDevice native) store (Store.nativeDevice native) store'
      (fun platform after platform' after' => (after = store ∧ after' = store') ∧
        platform' = platform)
      (fun e after e' after' => (after = store ∧ after' = store') ∧ e' = e) := by
  have same : store.HasNative .device native ↔ store'.HasNative .device native :=
    ground.hasNative (Or.inr rfl)
  refine .of_ends Store.ends_nativeDevice Store.ends_nativeDevice ?_ ?_ ?_ ?_
  · rintro platform _ platform' _ ⟨rfl, live⟩ ⟨rfl, refs, live'⟩
    obtain ⟨count, live⟩ := (ground _ _ (Or.inr rfl)).mp live
    rw [live'] at live
    cases live
    exact ⟨⟨rfl, rfl⟩, rfl⟩
  · rintro _ _ _ _ ⟨rfl, rfl, -⟩ ⟨rfl, rfl, -⟩
    exact ⟨⟨rfl, rfl⟩, rfl⟩
  · exact fun _ _ _ _ found missing =>
      missing.2.2 (same.mp (found.2.elim fun _ live => ⟨_, live, rfl⟩))
  · exact fun _ _ _ _ missing found =>
      missing.2.2 (same.mpr (found.2.elim fun _ live => ⟨_, live, rfl⟩))

/-- The devices of a program are wrapped alike, as long as they are live. -/
theorem agree_wrapDevices {natives : List NativeHandle} (ground : store.SameGround store')
    (formed : store.WellFormed) (formed' : store'.WellFormed) :
    Agree (Store.wrapDevices natives) store (Store.wrapDevices natives) store'
      (fun handles after handles' after' => (store.Quiet after ∧ store'.Quiet after') ∧
        after.Lists natives handles ∧ after'.Lists natives handles')
      (fun e after e' after' => (store.Quiet after ∧ store'.Quiet after') ∧ e' = e) := by
  induction natives generalizing store store' with
  | nil => exact ⟨⟨.refl store, .refl store'⟩, .nil, .nil⟩
  | cons native natives ih =>
      have same : store.HasNative .device native ↔ store'.HasNative .device native :=
        ground.hasNative (Or.inr rfl)
      refine (agree_wrapDevice same).bind ?_
      rintro handle middle handle' middle' ⟨⟨quiet, quiet'⟩, known, known'⟩
      have ground := ground.later (.of_natives quiet.natives) (.of_natives quiet'.natives)
      refine ((ih ground (quiet.grows.wellFormed formed) (quiet'.grows.wellFormed formed')).imp
        (fun _ _ _ _ => id) ?_).bind ?_
      · exact fun _ _ _ _ stopped =>
          ⟨⟨quiet.trans stopped.1.1, quiet'.trans stopped.1.2⟩, stopped.2⟩
      · rintro handles after handles' after' ⟨⟨more, more'⟩, lists, lists'⟩
        exact ⟨⟨quiet.trans more, quiet'.trans more'⟩,
          .cons (more.grows.get?_deviceWrappers known) lists,
          .cons (more'.grows.get?_deviceWrappers known') lists'⟩

/-- What both wrappers of a program lead to. -/
theorem agree_binaryBehind {failed : NativeError → Store → NativeError → Store → Prop}
    (twins : relocation.Twins store store' own own') (relates : relocation.Relates store store')
    (leads : store.Leads own native binary) :
    Agree (binaryBehind own) store (binaryBehind own') store'
      (fun found after found' after' => (after = store ∧ after' = store') ∧ found = binary ∧
        found' = binary) failed := by
  have looks : ∀ {store : Store} {own : ProgramHandle} {native : NativeHandle},
      store.Leads own native binary →
      Ends (binaryBehind own) store (fun found after => after = store ∧ found = binary)
        (fun _ _ => False) := by
    intro store own native leads
    refine Store.ends_binaryBehind.imp ?_ fun _ _ missing => missing.2 native binary leads
    rintro found after ⟨unchanged, native', leads'⟩
    exact ⟨unchanged, (leads'.unique leads).2⟩
  exact .of_ok (looks leads) (looks (twins.leads relates leads).2)
    fun _ _ _ _ found found' => ⟨⟨found.1, found'.1⟩, found.2, found'.2⟩

/-- Both wrappers of a program report as many devices, or both refuse to count them. -/
theorem pairs_programNumDevices (twins : relocation.Twins store store' own own')
    (relates : relocation.Relates store store') (leads : store.Leads own native binary) :
    Pairs id (programNumDevices own) (programNumDevices own') store store'
      (fun number after number' after' => (after = store ∧ after' = store') ∧
        number = binary.devices.length ∧ number' = binary.devices.length)
      (fun e after e' after' => (after = store ∧ after' = store') ∧ e' = e) := by
  refine .perform (.onStore ((agree_binaryBehind twins relates leads).bind ?_))
  rintro _ _ _ _ ⟨⟨rfl, rfl⟩, rfl, rfl⟩
  dsimp only
  split
  · exact ⟨⟨rfl, rfl⟩, rfl, rfl⟩
  · exact ⟨⟨rfl, rfl⟩, rfl⟩

theorem pairs_programDevices (twins : relocation.Twins store store' own own')
    (relates : relocation.Relates store store') (leads : store.Leads own native binary) :
    Pairs id (programDevices own) (programDevices own') store store'
      (fun handles after handles' after' => (store.Quiet after ∧ store'.Quiet after') ∧
        after.Lists binary.devices handles ∧ after'.Lists binary.devices handles')
      (fun e after e' after' => (store.Quiet after ∧ store'.Quiet after') ∧ e' = e) := by
  refine .perform (.onStore ((agree_binaryBehind twins relates leads).bind ?_))
  rintro _ _ _ _ ⟨⟨rfl, rfl⟩, rfl, rfl⟩
  exact agree_wrapDevices relates.ground relates.formed relates.formed'

/-- Both wrappers of a device are asked for the stage of the same program. -/
theorem pairs_programBinaryType {failed : NativeError → Store → NativeError → Store → Prop}
    (twins : relocation.Twins store store' own own') (relates : relocation.Relates store store')
    (leads : store.Leads own native binary)
    (known : store.deviceWrappers.get? nativeDevice = some device)
    (known' : store'.deviceWrappers.get? nativeDevice = some device')
    (member : nativeDevice ∈ binary.devices) :
    Pairs id (programBinaryType own device) (programBinaryType own' device') store store'
      (fun stage after stage' after' => (after = store ∧ after' = store') ∧
        stage = binary.stageOf nativeDevice ∧ stage' = binary.stageOf nativeDevice) failed := by
  have asks : ∀ {store : Store} {own : ProgramHandle} {native : NativeHandle}
      {device : DeviceHandle}, store.WellFormed → store.Leads own native binary →
      store.deviceWrappers.get? nativeDevice = some device → ∀ sim : Simulator,
      sim.store = store → Answers (.programBinaryType own device) (programBinaryType own device)
        sim (fun stage after => after = store ∧ stage = binary.stageOf nativeDevice)
        (fun _ _ => False) := by
    rintro _ own native device formed leads known sim rfl
    have behind := formed.behind_device known
    have staged := (leads.isTidy formed).stage_known member
    refine answers_programBinaryType.imp ?_ ?_
    · rintro stage after ⟨unchanged, _, _, _, leads', behind', found⟩
      obtain ⟨-, rfl⟩ := leads.unique leads'
      obtain rfl := behind.unique behind'
      exact ⟨unchanged, (ProgramBinary.stageOf_eq found).symm⟩
    · rintro e after ⟨-, unknown⟩
      rw [unknown native binary nativeDevice leads behind] at staged
      contradiction
  refine (Pairs.of_answers (asks relates.formed leads known)
    (asks relates.formed' (twins.leads relates leads).2 known')).imp ?_ fun _ _ _ _ => id
  exact fun _ _ _ _ found => ⟨⟨found.1.1, found.2.1⟩, found.1.2, found.2.2⟩

/-- The platforms of both wrappers of a device are wrapped alike, as long as they are live. -/
theorem pairs_devicePlatform (ground : store.SameGround store') (formed : store.WellFormed)
    (formed' : store'.WellFormed)
    (known : store.deviceWrappers.get? nativeDevice = some device)
    (known' : store'.deviceWrappers.get? nativeDevice = some device') :
    Pairs id (devicePlatform device) (devicePlatform device') store store'
      (fun _ after _ after' => store.Quiet after ∧ store'.Quiet after')
      (fun e after e' after' => (store.Quiet after ∧ store'.Quiet after') ∧ e' = e) := by
  have looks : ∀ {store : Store} {device : DeviceHandle}, store.WellFormed →
      store.deviceWrappers.get? nativeDevice = some device →
      Ends (Store.behind device) store (fun found after => after = store ∧ found = nativeDevice)
        (fun _ _ => False) := by
    intro store device formed known
    have behind := formed.behind_device known
    exact Store.ends_behind.imp (fun _ _ found => ⟨found.1, found.2.unique behind⟩)
      fun _ _ missing => missing.2.2 behind.hasWrapper
  refine .perform (.onStore ?_)
  refine (Agree.of_ok (looks formed known) (looks formed' known')
    fun _ _ _ _ found found' => And.intro found found').bind ?_
  rintro _ _ _ _ ⟨⟨rfl, rfl⟩, rfl, rfl⟩
  refine ((agree_nativeDevice ground).imp (fun _ _ _ _ => id) ?_).bind ?_
  · rintro _ _ _ _ ⟨⟨rfl, rfl⟩, same⟩
    exact ⟨⟨.refl _, .refl _⟩, same⟩
  · rintro platform _ _ _ ⟨⟨rfl, rfl⟩, rfl⟩
    exact agree_wrapPlatform (ground.hasNative (Or.inl rfl))

/-! ## Taking programs further -/

section Building

variable {options : Option String} {stage : Stage}
  {failed : NativeError → Store → NativeError → Store → Prop}

/-- A program is taken further alike for one unbuilt device. -/
theorem pairs_advanceFor (underway : relocation.Underway context held held' store store')
    (twins : relocation.Twins store store' own own') (leads : store.Leads own native binary)
    (known : store.deviceWrappers.get? nativeDevice = some device)
    (known' : store'.deviceWrappers.get? nativeDevice = some device')
    (unbuilt : binary.Unbuilt [nativeDevice]) :
    Pairs id (advanceFor own [device] stage options) (advanceFor own' [device'] stage options)
      store store'
      (fun _ after _ after' => relocation.Underway context held held' after after') failed := by
  obtain ⟨concerns, leads'⟩ := twins.leads underway.toRelates leads
  have works : ∀ {store : Store} {own : ProgramHandle} {native : NativeHandle}
      {device : DeviceHandle}, store.WellFormed → store.Leads own native binary →
      store.deviceWrappers.get? nativeDevice = some device → ∀ sim : Simulator,
      sim.store = store → Works (advanceFor own [device] stage options) sim
        (fun _ after => after.WellFormed ∧
          after = store.reprogrammed native (binary.advancedFor [nativeDevice] stage))
        (fun _ _ => False) := by
    rintro _ own native device formed leads known sim rfl
    have behind := formed.behind_device known
    refine works_advanceFor.imp ?_ ?_
    · rintro _ after advances
      have grows : Store.Grows (fun _ => True) _ after := AdvancesFor.grows advances formed
      have formed' := grows.wellFormed formed
      obtain ⟨_, _, selected, leads', chosen, -, rfl⟩ := advances
      obtain ⟨rfl, rfl⟩ := leads.unique leads'
      obtain rfl := forall₂_behind_singleton chosen behind
      exact ⟨formed', rfl⟩
    · rintro e after ⟨-, refuses⟩
      exact refuses native binary [nativeDevice] leads (.cons behind .nil) unbuilt
  refine (Pairs.of_works (works underway.formed leads known)
    (works underway.formed' leads' known')).imp ?_ fun _ _ _ _ => id
  rintro _ _ _ _ ⟨⟨formed, rfl⟩, formed', rfl⟩
  obtain ⟨-, refs, found⟩ := leads
  exact underway.reprogrammed concerns found formed formed'

/-- A program is taken further alike for all its devices. -/
theorem pairs_advance (underway : relocation.Underway context held held' store store')
    (twins : relocation.Twins store store' own own') (leads : store.Leads own native binary) :
    Pairs id
      (do
        let _ ← onStore (Store.wrapper context)
        advance own stage options)
      (do
        let _ ← onStore (Store.wrapper context)
        advance own' stage options)
      store store'
      (fun _ after _ after' => relocation.Underway context held held' after after') failed := by
  obtain ⟨concerns, leads'⟩ := twins.leads underway.toRelates leads
  have works : ∀ {store : Store} {own : ProgramHandle} {native : NativeHandle},
      store.WellFormed → store.HasWrapper context → store.Leads own native binary →
      ∀ sim : Simulator, sim.store = store → Works (do
          let _ ← onStore (Store.wrapper context)
          advance own stage options) sim
        (fun _ after => after = store.reprogrammed native (binary.advanced stage) ∧
          after.WellFormed)
        (fun _ _ => False) := by
    rintro _ own native formed inContext leads sim rfl
    refine works_advance.inContext.imp ?_ ?_
    · rintro _ after advances
      have grows : Store.Grows (fun _ => True) _ after := Advances.grows advances
      have formed' := grows.wellFormed formed
      obtain ⟨_, _, leads', rfl⟩ := advances
      obtain ⟨rfl, rfl⟩ := leads.unique leads'
      exact ⟨rfl, formed'⟩
    · exact fun _ _ refused => refused.2 inContext native binary leads
  refine (Pairs.of_works (works underway.formed underway.inContext leads)
    (works underway.formed' underway.inContext' leads')).imp ?_ fun _ _ _ _ => id
  rintro _ _ _ _ ⟨⟨rfl, formed⟩, rfl, formed'⟩
  obtain ⟨-, refs, found⟩ := leads
  exact underway.reprogrammed concerns found formed formed'

end Building

section Linking

variable {options : Option String}

/-- A link makes programs of the same binary, or fails alike. -/
theorem agree_linkInto {wanted : NativeHandle → Bool}
    (underway : relocation.Underway context held held' store store')
    (twins : relocation.Twins store store' own own') (leads : store.Leads own native binary) :
    Agree (linkInto wanted [own]) store (linkInto wanted [own']) store'
      (fun linked after linked' after' =>
        relocation.Underway context (held ++ [linked]) (held' ++ [linked']) after after')
      (fun e after e' after' => (after = store ∧ after' = store') ∧ e' = e) := by
  have links : Agree (linkPrograms wanted [own] ⟨[], {}, []⟩) store
      (linkPrograms wanted [own'] ⟨[], {}, []⟩) store'
      (fun output after output' after' => (after = store ∧ after' = store') ∧ output' = output ∧
        output.IsTidy)
      (fun e after e' after' => (after = store ∧ after' = store') ∧ e' = e) := by
    refine (agree_binaryBehind twins underway.toRelates leads).bind ?_
    rintro _ _ _ _ ⟨⟨rfl, rfl⟩, rfl, rfl⟩
    cases done : linkDevices wanted _ _ ⟨[], {}, []⟩ with
    | error e => exact ⟨⟨rfl, rfl⟩, rfl⟩
    | ok output => exact ⟨⟨rfl, rfl⟩, rfl, (linked_of_linkDevices done).isTidy⟩
  refine links.bind ?_
  rintro output _ _ _ ⟨⟨rfl, rfl⟩, rfl, tidy⟩
  exact underway.joined tidy

theorem pairs_programLink (underway : relocation.Underway context held held' store store')
    (twins : relocation.Twins store store' own own') (leads : store.Leads own native binary) :
    Pairs id (programLink context [own] options) (programLink context [own'] options) store store'
      (fun linked after linked' after' =>
        relocation.Underway context (held ++ [linked]) (held' ++ [linked']) after after')
      (fun e after e' after' => (after = store ∧ after' = store') ∧ e' = e) := by
  have inContext := iff_of_true underway.inContext underway.inContext'
  refine .perform ((Pairs.onStore (agree_wrapper inContext)).bind ?_)
  rintro _ _ _ _ ⟨⟨rfl, rfl⟩, -⟩
  simp only [List.isEmpty_cons, Bool.false_eq_true, if_false]
  refine Pairs.noteOptions.bind ?_
  rintro _ _ _ _ ⟨rfl, rfl⟩
  exact .onStore (agree_linkInto underway twins leads)

theorem pairs_programLinkFor (underway : relocation.Underway context held held' store store')
    (twins : relocation.Twins store store' own own') (leads : store.Leads own native binary)
    (known : store.deviceWrappers.get? nativeDevice = some device)
    (known' : store'.deviceWrappers.get? nativeDevice = some device') :
    Pairs id (programLinkFor context [device] [own] options)
      (programLinkFor context [device'] [own'] options) store store'
      (fun linked after linked' after' =>
        relocation.Underway context (held ++ [linked]) (held' ++ [linked']) after after')
      (fun e after e' after' => (after = store ∧ after' = store') ∧ e' = e) := by
  have selects : ∀ {store : Store} {device : DeviceHandle}, store.WellFormed →
      store.deviceWrappers.get? nativeDevice = some device →
      Ends (Store.behindAll [device]) store
        (fun selected after => after = store ∧ selected = [nativeDevice]) (fun _ _ => False) := by
    intro store device formed known
    have behind := formed.behind_device known
    refine Store.ends_behindAll.imp ?_ ?_
    · exact fun _ _ found => ⟨found.1, forall₂_behind_singleton found.2 behind⟩
    · rintro _ _ ⟨-, _, member, missing⟩
      obtain rfl := List.mem_singleton.mp member
      exact missing behind.hasWrapper
  have inContext := iff_of_true underway.inContext underway.inContext'
  refine .performFor ((Pairs.onStore (agree_wrapper inContext)).bind ?_) ⟨⟨rfl, rfl⟩, rfl⟩
  rintro _ _ _ _ ⟨⟨rfl, rfl⟩, -⟩
  simp only [List.isEmpty_cons, Bool.false_eq_true, if_false]
  refine (Pairs.onStore (Agree.of_ok (selects underway.formed known)
    (selects underway.formed' known') fun _ _ _ _ found found' => And.intro found found')).bind ?_
  rintro _ _ _ _ ⟨⟨rfl, rfl⟩, rfl, rfl⟩
  refine Pairs.noteOptions.bind ?_
  rintro _ _ _ _ ⟨rfl, rfl⟩
  exact .onStore (agree_linkInto underway twins leads)

end Linking

end ComputeImport.Relocation
