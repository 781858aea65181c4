import ComputeImport.Proofs.Import.Account

/-!
# What a failed import leaves behind

An import fails in one of three ways.  It may not have come to a wrapper of its own.  It may have made
one to which it could take no reference.  Or it has gone on to ask for devices, and has then released
what it had made.  `Request.Failed` says for each of them what the backend is left with, and every
failed import ends in one of them, whatever has been told to fail.
-/

namespace ComputeImport

open Simulator

/-- An import of a native object whose wrapper is counted. -/
inductive Request where
  | context (native : NativeHandle)
  | queue (native : NativeHandle) (descriptor : Int32) (context : Context) (device : Option Device)
      (keeps : Bool) (properties : QueueProperties)
  | event (native : NativeHandle) (context : Context) (keeps : Bool)
  | program (native : NativeHandle) (context : Context) (keeps : Bool) (target : BundleState)
  | kernel (native : NativeHandle) (context : Context) (bundle : KernelBundle) (keeps : Bool)
  /-- A kernel without a bundle of its own, which is taken over from the caller. -/
  | ownKernel (native : NativeHandle) (context : Context)

namespace Request

/-- Do an import. -/
def run (registry : Registry) (backend : Backend) : Request → ImportM Managed
  | context native => return .context (← makeContext registry native backend)
  | queue native descriptor scope device keeps properties =>
      return .queue (← makeQueue registry native descriptor scope device keeps properties backend)
  | event native scope keeps => return .event (← makeEvent registry native scope keeps backend)
  | program native scope keeps target =>
      return .bundle (← importProgram registry native scope keeps target backend)
  | kernel native scope bundle keeps =>
      return .kernel (← importKernel registry scope bundle native keeps backend)
  | ownKernel native scope => return .kernel (← makeKernel registry native scope backend)

/-- The native object that is imported. -/
def native : Request → NativeHandle
  | context native | queue native _ _ _ _ _ | event native _ _ | program native _ _ _
  | kernel native _ _ _ | ownKernel native _ => native

/-- Whether the native object stays the caller's. -/
def keeps : Request → Bool
  | context _ => true
  | queue _ _ _ _ keeps _ | event _ _ keeps | program _ _ keeps _ | kernel _ _ _ keeps => keeps
  | ownKernel _ _ => false

/-- The kind of the object. -/
def kind : Request → ObjectKind
  | context _ => .context
  | queue _ _ _ _ _ _ => .queue
  | event _ _ _ => .event
  | program _ _ _ _ => .program
  | kernel _ _ _ _ | ownKernel _ _ => .kernel

/-- The entry point by which an importer takes a reference to a new wrapper. -/
def retain : Request → EntryPoint
  | context _ => .contextRetain
  | queue _ _ _ _ _ _ => .queueRetain
  | event _ _ _ => .eventRetain
  | program _ _ _ _ => .programRetain
  | kernel _ _ _ _ | ownKernel _ _ => .kernelRetain

/-- The entry point by which an import asks its new wrapper for devices, if it does: all those of a
program, or the one of a queue that is imported without a device. -/
def inquiry? : Request → Option EntryPoint
  | program _ _ _ _ => some .programNumDevices
  | queue _ _ _ none _ _ => some .queueDevice
  | context _ | queue _ _ _ (some _) _ _ | event _ _ _ | kernel _ _ _ _ | ownKernel _ _ => none

/-- The new wrapper has been asked for devices. -/
def Asked (request : Request) (before after : Simulator) : Prop :=
  ∃ inquiry, request.inquiry? = some inquiry ∧ before.callCount inquiry < after.callCount inquiry

/-- What a failed import has made of its backend. -/
inductive Failed (request : Request) (before after : Simulator) : Prop
  /-- No wrapper has been made. -/
  | unmade (unchanged : after.store = before.store)
      (did : Did (fun entryPoint => entryPoint ≠ request.retain ∧
        request.inquiry? ≠ some entryPoint) before after)
  /-- A reference to the new wrapper could not be taken, and the wrapper is there without one. -/
  | unretained (id : Nat) (data : WrapperData) (kind_eq : data.kind = request.kind)
      (live : 0 < before.store.refsTo request.native)
      (lacking : before.config.retainsOnImport = false)
      (told : before.failures.get? request.retain ≠ none)
      (used : after.failures.get? request.retain = none)
      (did : Did (fun entryPoint => request.inquiry? ≠ some entryPoint) before after)
      (beyond : before.store.Beyond [(id, ⟨data, request.native, 0, !request.keeps⟩)] []
        after.store)
  /-- What had been made has been released, and is left only where that has been told to fail. -/
  | abandoned (first : Nat × Wrapper) (left gone : List (Nat × Wrapper)) (release : EntryPoint)
      (kind_eq : first.2.data.kind = request.kind) (native_eq : first.2.native = request.native)
      (owns_eq : first.2.ownsNative = !request.keeps)
      (live : 0 < before.store.refsTo request.native)
      (asked : request.Asked before after)
      (calm : before.failures.get? request.retain = none ∨
        after.failures.get? request.retain ≠ none)
      (counting : release.counting? = some (.release, request.kind))
      (all : before.failures.get? release = none → left = [])
      (descends : before.store.Descends first (left ++ gone))
      (beyond : before.store.Beyond left (gone.map Prod.snd) after.store)

variable {request : Request} {before : Simulator}

/-- What counts references is not asked for devices. -/
theorem inquiry?_ne_of_counting {entryPoint : EntryPoint} (counting : entryPoint.counting? ≠ none) :
    request.inquiry? ≠ some entryPoint := by
  intro asked
  cases request with
  | queue native descriptor scope device keeps properties =>
      cases device with
      | none =>
          cases asked
          exact counting rfl
      | some device => cases asked
  | program =>
      cases asked
      exact counting rfl
  | context | event | kernel | ownKernel => cases asked

theorem counting?_retain (request : Request) :
    request.retain.counting? = some (.retain, request.kind) := by
  cases request <;> rfl

/-! ## The new wrapper -/

/-- A wrapper has been made for a request, with the references that the backend starts with. -/
def Makes (request : Request) (before : Simulator) (id : Nat) (store : Store) : Prop :=
  ∃ data, data.kind = request.kind ∧ 0 < before.store.refsTo request.native ∧
    before.store.Beyond
      [(id, ⟨data, request.native, initialRefs before.config, !request.keeps⟩)] [] store

/-- A wrapper has been made for a request, and has one reference. -/
structure Adopted (request : Request) (before : Simulator) (first : Nat × Wrapper)
    (middle : Simulator) : Prop where
  kind_eq : first.2.data.kind = request.kind
  native_eq : first.2.native = request.native
  owns_eq : first.2.ownsNative = !request.keeps
  single : first.2.refs = 1
  live : 0 < before.store.refsTo request.native
  did : Did (fun entryPoint => request.inquiry? ≠ some entryPoint) before middle
  calm : before.failures.get? request.retain = none ∨ middle.failures.get? request.retain ≠ none
  beyond : before.store.Beyond [first] [] middle.store

/-- A wrapper has been made for a request without a reference, and taking one has been refused. -/
structure Refused (request : Request) (before : Simulator) (id : Nat) (data : WrapperData)
    (middle : Simulator) : Prop where
  told : before.failures.get? request.retain ≠ none
  used : middle.failures.get? request.retain = none
  did : Did (fun entryPoint => request.inquiry? ≠ some entryPoint) before middle
  beyond : before.store.Beyond [(id, ⟨data, request.native, 0, !request.keeps⟩)] [] middle.store

/-- An import that has asked for devices and fails then has failed in the third way. -/
theorem Adopted.failed {provider : Provider} {first : Nat × Wrapper} {middle begun : Simulator}
    {ask : Call} {release : EntryPoint} {after : Host}
    (adopted : request.Adopted before first middle)
    (isInquiry : request.inquiry? = some ask.entryPoint)
    (counting : release.counting? = some (.release, request.kind))
    (recorded : Recorded ask middle begun)
    (abandoned : Abandoned provider release before.store begun first after) :
    request.Failed before (after.simulator provider.table.simulator) := by
  obtain ⟨left, gone, descends, account, all⟩ := abandoned
  have asked : Did (fun _ => True) before begun :=
    (adopted.did.mono fun _ _ => trivial).trans (recorded.did trivial)
  refine .abandoned first left gone release adopted.kind_eq adopted.native_eq adopted.owns_eq
    adopted.live ?_ ?_ counting (fun unset => all (asked.unset unset)) descends account.beyond
  · refine ⟨_, isInquiry, ?_⟩
    have unasked := adopted.did.callCount (Decidable.not_not.mpr isInquiry)
    have once := recorded.callCount
    have more := account.did.callCount_le ask.entryPoint
    omega
  · rcases adopted.calm with unset | told
    · exact Or.inl unset
    · right
      rw [account.did.failures, recorded.failures, Ledger.get?_erase, if_neg]
      · exact told
      · intro same
        rw [same] at isInquiry
        refine inquiry?_ne_of_counting ?_ isInquiry
        rw [counting?_retain]
        exact Option.some_ne_none _
      · exact fun takesNone => takesNone request.kind request.counting?_retain

end Request

/-- Wrapping makes the wrapper of a request, perhaps after a device has been wrapped. -/
theorem Simulator.Wraps.makes {before : Simulator} {middle after : Store} {data : WrapperData}
    {native : NativeHandle} {ownsNative : Bool} {handle : Handle data.kind}
    (wraps : Wraps middle data native ownsNative (initialRefs before.config) handle after)
    (request : Request) (quiet : before.store.Quiet middle) (formed : before.store.WellFormed)
    (isNative : native = request.native) (isKind : data.kind = request.kind)
    (owns : ownsNative = !request.keeps)
    (targeted : ∀ record, data.queue? = some record → middle.HasWrapper record.device) :
    request.Makes before handle.id after := by
  obtain ⟨live, rfl, rfl⟩ := wraps
  subst isNative
  refine ⟨data, isKind, ?_, ?_⟩
  · obtain ⟨object, found, -⟩ := live
    rw [quiet.natives] at found
    rw [Store.refsTo_of_found found]
    exact formed.held _ object found
  · rw [← owns]
    have counted : data.kind.isCounted = true := by
      rw [isKind]
      cases request <;> rfl
    exact ((Store.Beyond.refl formed).grown quiet.grows).wrapped counted live targeted

/-- Dropping a reference to a wrapper that has none changes nothing of the store. -/
theorem Simulator.store_after_release_unretained {sim : Simulator} {call : Call} {kind : ObjectKind}
    {id : Nat} {wrapper : Wrapper} (counted : call.counted? = some (.release, kind, id))
    (found : sim.store.wrappers.get? id = some wrapper) (none : wrapper.refs = 0) :
    (sim.after (.call call)).store = sim.store := by
  have unreleased : ∀ {wrapper' : Wrapper} {after : Store},
      sim.store.wrappers.get? id = some wrapper' → ¬ sim.store.Released id wrapper' after := by
    intro wrapper' after found' released
    obtain rfl := Option.some.inj (found.symm.trans found')
    cases released with
    | last single => omega
    | another several => omega
  suffices ended : Ends (answer call) sim (fun _ after => after.store = sim.store)
      (fun _ after => after.store = sim.store) from ends_stateAfter.mp ended
  apply Ends.imp (answers_released counted)
  · rintro _ after ⟨-, -, wrapper', found', -, released⟩
    exact absurd released (unreleased found')
  · rintro e after ⟨-, ⟨-, unchanged⟩ | ⟨-, ⟨unchanged, -⟩ | ⟨wrapper', found', -, cause⟩⟩⟩
    · exact unchanged
    · exact unchanged
    · rcases cause with ⟨-, unchanged, -⟩ | ⟨released, -⟩
      · exact unchanged
      · exact absurd released (unreleased found')

namespace Request

section Adopt

variable {α : Type} {request : Request} {before : Simulator} {kind : ObjectKind}
  {provider : Provider} {host : Host}

/-- A reference to a new wrapper that has none can only be refused where that has been told. -/
theorem ends_retain {handle : Handle kind} {retain : Handle kind → Native Unit} {retains : Call}
    {middle : Simulator} {data : WrapperData} (isData : data.kind = request.kind)
    (isKind : kind = request.kind) (live : 0 < before.store.refsTo request.native)
    (did : Did (fun entryPoint => request.inquiry? ≠ some entryPoint) before middle)
    (kept : middle.failures.get? request.retain = before.failures.get? request.retain)
    (isRetain : Simulator.answer retains = do retain handle; return .done)
    (retained : retains.counted? = some (.retain, kind, handle.id) ∧
      retains.entryPoint = request.retain)
    (beyond : before.store.Beyond [(handle.id, ⟨data, request.native, 0, !request.keeps⟩)] []
      middle.store) :
    Ends (retain handle) middle
      (fun _ => request.Adopted before (handle.id, ⟨data, request.native, 1, !request.keeps⟩))
      (fun _ => request.Refused before handle.id data) := by
  have found := (beyond.live _ List.mem_cons_self).1
  have uninquired : request.inquiry? ≠ some retains.entryPoint := by
    apply inquiry?_ne_of_counting
    rw [retained.2, counting?_retain]
    exact Option.some_ne_none _
  have answers : Ends (answer retains) middle _ _ := answers_retained retained.1
  rw [isRetain, ends_bind, retained.2, kept] at answers
  apply answers.imp
  · rintro _ after ⟨recorded, unset, wrapper, found', -, equal⟩
    obtain rfl := Option.some.inj (found.symm.trans found')
    refine ⟨isData, rfl, rfl, rfl, live, did.trans (recorded.did uninquired), Or.inl unset, ?_⟩
    rw [equal]
    exact beyond.recounted
  · rintro e after ⟨recorded, ⟨told, unchanged⟩ | ⟨-, -, -, dead⟩⟩
    · constructor
      case told =>
        rw [told]
        exact Option.some_ne_none e
      case used => rw [recorded.failures, Ledger.get?_erase, if_pos retained.2]
      case did => exact did.trans (recorded.did uninquired)
      case beyond =>
        rw [unchanged]
        exact beyond
    · exact absurd ⟨_, found, isData.trans isKind.symm⟩ dead

/-- Letting go of a wrapper to which a reference has been refused leaves it there. -/
theorem Refused.failed {id : Nat} {data : WrapperData} {middle : Simulator} {releases : Call}
    (refused : request.Refused before id data middle) (isData : data.kind = request.kind)
    (live : 0 < before.store.refsTo request.native)
    (lacking : before.config.retainsOnImport = false)
    (released : releases.counted? = some (.release, kind, id)) :
    request.Failed before (middle.after (.call releases)) := by
  have uninquired : request.inquiry? ≠ some releases.entryPoint := by
    apply inquiry?_ne_of_counting
    rw [Call.counting?_entryPoint, released]
    exact Option.some_ne_none _
  have still : Did (fun entryPoint => request.inquiry? ≠ some entryPoint) middle
      (middle.after (.call releases)) :=
    (recorded_answer releases).did uninquired
  have found := (refused.beyond.live _ List.mem_cons_self).1
  refine .unretained id data isData live lacking refused.told (still.unset refused.used)
    (refused.did.trans still) ?_
  rw [store_after_release_unretained released found rfl]
  exact refused.beyond

/-- The importer's own reference is taken where the backend has taken none.  That can only fail where
it has been told to, and the wrapper then stays, without a reference that could be dropped. -/
theorem ends_takeReference {handle : Handle kind} {retain release : Handle kind → Native Unit}
    {creates retains releases : Call} {middle : Simulator}
    (isKind : kind = request.kind)
    (suits : provider.demands.needsRetain = !before.config.retainsOnImport)
    (isMiddle : host.simulator provider.table.simulator = middle)
    (uninvolved : creates.entryPoint ≠ request.retain ∧
      request.inquiry? ≠ some creates.entryPoint)
    (created : Recorded creates before middle)
    (makes : request.Makes before handle.id middle.store)
    (isRetain : Simulator.answer retains = do retain handle; return .done)
    (retained : retains.counted? = some (.retain, kind, handle.id) ∧
      retains.entryPoint = request.retain)
    (isRelease : IsCall (release handle) releases)
    (released : releases.counted? = some (.release, kind, handle.id)) :
    Ends (takeReferenceIfNeeded provider handle retain release) host
      (fun _ after => ∃ wrapper, request.Adopted before (handle.id, wrapper)
        (after.simulator provider.table.simulator))
      (fun _ after => request.Failed before (after.simulator provider.table.simulator)) := by
  subst isMiddle
  obtain ⟨data, isData, live, beyond⟩ := makes
  have createdOnly : Did (fun entryPoint => request.inquiry? ≠ some entryPoint) before
      (host.simulator provider.table.simulator) := created.did uninvolved.2
  have kept : (host.simulator provider.table.simulator).failures.get? request.retain =
      before.failures.get? request.retain := by
    rw [created.failures, Ledger.get?_erase, if_neg uninvolved.1]
  have starting : before.config.retainsOnImport = !provider.demands.needsRetain := by
    rw [suits, Bool.not_not]
  unfold takeReferenceIfNeeded
  cases needs : provider.demands.needsRetain with
  | false =>
      rw [initialRefs, starting, needs] at beyond
      refine ⟨_, isData, rfl, rfl, rfl, live, createdOnly, ?_, beyond⟩
      rw [kept]
      exact (em _).imp_right id
  | true =>
      rw [initialRefs, starting, needs] at beyond
      rw [needs] at starting
      rw [if_pos rfl]
      unfold takeReference
      rw [ends_bind, ends_attempt]
      apply (ends_retain isData isKind live createdOnly kept isRetain retained beyond).call.imp
      · exact fun _ after adopted => ⟨_, adopted⟩
      intro e after refused
      have tried : Ends (provider.table.call (release handle)) after
          (fun _ last => request.Failed before (last.simulator provider.table.simulator))
          (fun _ last => request.Failed before (last.simulator provider.table.simulator)) := by
        apply Host.ends_isCall isRelease
        rw [Host.simulator_advance_self]
        exact refused.failed isData live starting released
      dsimp only
      rw [ends_bind, ends_attempt]
      apply tried.imp
      · exact fun _ _ failed => failed
      · exact fun _ _ failed => failed

/-- An import that wraps a native object fails in one of the three ways if what comes after does. -/
theorem ends_adopt {create : Native (Handle kind)} {retain release : Handle kind → Native Unit}
    {next : Handle kind → ImportM α} (creates : Call) (retains releases : Handle kind → Call)
    (isKind : kind = request.kind)
    (suits : provider.demands.needsRetain = !before.config.retainsOnImport)
    (isBefore : host.simulator provider.table.simulator = before)
    (uninvolved : creates.entryPoint ≠ request.retain ∧
      request.inquiry? ≠ some creates.entryPoint)
    (answers : Answers creates create before (fun handle => request.Makes before handle.id)
      (fun _ store => store = before.store))
    (isRetain : ∀ handle, Simulator.answer (retains handle) = do retain handle; return .done)
    (retained : ∀ handle, (retains handle).counted? = some (.retain, kind, handle.id) ∧
      (retains handle).entryPoint = request.retain)
    (isRelease : ∀ handle, IsCall (release handle) (releases handle))
    (released : ∀ handle, (releases handle).counted? = some (.release, kind, handle.id))
    (rest : ∀ handle wrapper after,
      request.Adopted before (handle.id, wrapper) (after.simulator provider.table.simulator) →
      Ends (next handle) after (fun _ _ => True)
        (fun _ last => request.Failed before (last.simulator provider.table.simulator))) :
    Ends (do
      let handle ← ComputeImport.native (provider.table.call create)
      takeReferenceIfNeeded provider handle retain release
      next handle) host (fun _ _ => True)
      (fun _ last => request.Failed before (last.simulator provider.table.simulator)) := by
  have created : Ends create (host.simulator provider.table.simulator)
      (fun handle middle => request.Makes before handle.id middle.store ∧
        Recorded creates before middle)
      (fun _ after => request.Failed before after) := by
    rw [isBefore]
    apply Ends.imp answers
    · exact fun handle middle ended => ⟨ended.2.2, ended.1⟩
    · rintro e after ⟨recorded, cause⟩
      apply Failed.unmade
      · rcases cause with ⟨-, unchanged⟩ | ⟨-, unchanged⟩ <;> exact unchanged
      · exact recorded.did uninvolved
  apply (ends_native.mpr (created.call.imp (fun _ _ ended => ended) fun _ _ failed => failed)).bind
  rintro handle middle ⟨makes, recorded⟩
  have taken := ends_takeReference isKind suits rfl uninvolved recorded makes (isRetain handle)
    (retained handle) (isRelease handle) (released handle)
  apply taken.bind
  rintro _ after ⟨wrapper, adopted⟩
  exact rest handle wrapper after adopted

end Adopt

theorem ownsNative_ofKeep (keeps : Bool) : (Ownership.ofKeep keeps).ownsNative = !keeps := by
  cases keeps <;> rfl

section Imports

variable {registry : Registry} {backend : Backend} {provider : Provider} {host : Host}

/-- The table that a registry has for a backend is resolved. -/
theorem ends_resolved {α : Type} {next : Provider → ImportM α} {ok : α → Host → Prop}
    {failed : ImportError → Host → Prop} (resolved : registry.provider? backend = some provider)
    (rest : ∀ after : Host, (∀ number, after.simulator number = host.simulator number) →
      Ends (next provider) after ok failed) :
    Ends (registry.resolve backend >>= next) host ok failed := by
  apply (ends_resolve.imp (fun _ _ ended => ended) ?_).bind
  · rintro provider' after ⟨resolved', notice, rfl⟩
    obtain rfl := Option.some.inj (resolved.symm.trans resolved')
    exact rest (host.notify notice) fun _ => rfl
  · rintro e after ⟨unresolved, -⟩
    rw [resolved] at unresolved
    contradiction

theorem ends_context {handle : NativeHandle}
    (resolved : registry.provider? backend = some provider)
    (suits : provider.demands.needsRetain =
      !(host.simulator provider.table.simulator).config.retainsOnImport)
    (formed : (host.simulator provider.table.simulator).store.WellFormed) :
    Ends (makeContext registry handle backend) host (fun _ _ => True)
      (fun _ after => (Request.context handle).Failed (host.simulator provider.table.simulator)
        (after.simulator provider.table.simulator)) := by
  unfold makeContext
  rw [ends_bind, ends_notify]
  apply ends_resolved resolved
  intro middle same
  apply ends_adopt (.contextCreate handle [] false) Call.contextRetain Call.contextRelease rfl
    suits
  case isBefore => exact same _
  case uninvolved => exact ⟨nofun, nofun⟩
  case answers =>
    apply answers_contextCreate.imp
    · exact fun _ _ wraps => wraps.makes _ (.refl _) formed rfl rfl rfl (by rintro _ ⟨⟩)
    · exact fun _ _ unchanged => unchanged
  case isRetain => exact fun _ => rfl
  case retained => exact fun _ => ⟨rfl, rfl⟩
  case isRelease => exact fun wrapper => .of_done (.contextRelease wrapper) rfl
  case released => exact fun _ => rfl
  case rest => exact fun _ _ _ _ => trivial

theorem ends_event {handle : NativeHandle} {scope : Context} {keeps : Bool}
    (resolved : registry.provider? backend = some provider)
    (suits : provider.demands.needsRetain =
      !(host.simulator provider.table.simulator).config.retainsOnImport)
    (formed : (host.simulator provider.table.simulator).store.WellFormed) :
    Ends (makeEvent registry handle scope keeps backend) host (fun _ _ => True)
      (fun _ after => (Request.event handle scope keeps).Failed
        (host.simulator provider.table.simulator) (after.simulator provider.table.simulator)) := by
  unfold makeEvent
  rw [ends_bind, ends_notify]
  apply ends_resolved resolved
  intro middle same
  apply ends_adopt (.eventCreate handle scope.handle (Ownership.ofKeep keeps).ownsNative)
    Call.eventRetain Call.eventRelease rfl suits
  case isBefore => exact same _
  case uninvolved => exact ⟨nofun, nofun⟩
  case answers =>
    apply answers_eventCreate.imp
    · exact fun _ _ wraps =>
        wraps.makes _ (.refl _) formed rfl rfl (ownsNative_ofKeep keeps) (by rintro _ ⟨⟩)
    · exact fun _ _ unchanged => unchanged
  case isRetain => exact fun _ => rfl
  case retained => exact fun _ => ⟨rfl, rfl⟩
  case isRelease => exact fun wrapper => .of_done (.eventRelease wrapper) rfl
  case released => exact fun _ => rfl
  case rest => exact fun _ _ _ _ => trivial

/-- A kernel is imported with a bundle of its own or without one; neither asks for devices. -/
theorem ends_kernel {request : Request} {handle : NativeHandle} {scope : Context}
    {bundle : KernelBundle} {keeps : Bool}
    (isRequest : request = .kernel handle scope bundle keeps ∨
      (request = .ownKernel handle scope ∧ keeps = false))
    (resolved : registry.provider? backend = some provider)
    (suits : provider.demands.needsRetain =
      !(host.simulator provider.table.simulator).config.retainsOnImport)
    (formed : (host.simulator provider.table.simulator).store.WellFormed) :
    Ends (importKernel registry scope bundle handle keeps backend) host (fun _ _ => True)
      (fun _ after => request.Failed (host.simulator provider.table.simulator)
        (after.simulator provider.table.simulator)) := by
  obtain ⟨isKind, isRetain, asksNothing, rfl, rfl⟩ : request.kind = .kernel ∧
      request.retain = .kernelRetain ∧ request.inquiry? = none ∧ handle = request.native ∧
      keeps = request.keeps := by
    rcases isRequest with rfl | ⟨rfl, rfl⟩ <;> exact ⟨rfl, rfl, rfl, rfl, rfl⟩
  let before := host.simulator provider.table.simulator
  have nothing : ∀ {after : Host}, after.simulator provider.table.simulator = before →
      request.Failed before (after.simulator provider.table.simulator) := by
    intro after same
    rw [same]
    exact .unmade rfl (.refl before)
  unfold importKernel
  rw [ends_bind, ends_notify]
  apply Ends.timed
  case value => exact fun _ _ _ ended => ended
  case failure => exact fun _ _ _ ended => ended
  apply ends_resolved resolved
  intro middle same
  split
  · exact nothing (same _)
  have chosen : Ends (kernelProgram? provider bundle) middle
      (fun _ after => after.simulator provider.table.simulator = before)
      (fun _ after => request.Failed before (after.simulator provider.table.simulator)) := by
    unfold kernelProgram?
    split
    · split
      · exact same _
      · exact nothing (same _)
    · exact same _
  apply chosen.bind
  intro program after same
  apply ends_adopt (.kernelCreate request.native scope.handle program
    (Ownership.ofKeep request.keeps).ownsNative) Call.kernelRetain Call.kernelRelease isKind.symm
    suits same
  case uninvolved =>
    rw [isRetain, asksNothing]
    exact ⟨nofun, nofun⟩
  case answers =>
    apply answers_kernelCreate.imp
    · exact fun _ _ made =>
        made.2.makes _ (.refl _) formed rfl isKind.symm (ownsNative_ofKeep _) (by rintro _ ⟨⟩)
    · exact fun _ _ failed => failed.1
  case isRetain => exact fun _ => rfl
  case retained => exact fun _ => ⟨rfl, isRetain.symm⟩
  case isRelease => exact fun wrapper => .of_done (.kernelRelease wrapper) rfl
  case released => exact fun _ => rfl
  case rest => exact fun _ _ _ _ => trivial

/-- A queue that is imported without a device is asked for it, and released if there is none. -/
theorem ends_queue {handle : NativeHandle} {descriptor : Int32} {scope : Context}
    {device : Option Device} {keeps : Bool} {properties : QueueProperties}
    (resolved : registry.provider? backend = some provider)
    (suits : provider.demands.needsRetain =
      !(host.simulator provider.table.simulator).config.retainsOnImport)
    (formed : (host.simulator provider.table.simulator).store.WellFormed) :
    Ends (makeQueue registry handle descriptor scope device keeps properties backend) host
      (fun _ _ => True)
      (fun _ after => (Request.queue handle descriptor scope device keeps properties).Failed
        (host.simulator provider.table.simulator) (after.simulator provider.table.simulator)) := by
  unfold makeQueue
  rw [ends_bind, ends_notify]
  dsimp only
  by_cases given : properties.computeIndex.isSome = true
  · rw [if_pos given]
    exact .unmade rfl (.refl _)
  rw [if_neg given]
  apply ends_resolved resolved
  intro middle same
  apply ends_adopt (.queueCreate handle scope.handle (device.map Device.handle) _)
    Call.queueRetain Call.queueRelease rfl suits
  case isBefore => exact same _
  case uninvolved =>
    refine ⟨nofun, ?_⟩
    cases device <;> exact nofun
  case answers =>
    apply answers_queueCreate.imp
    · rintro _ _ ⟨middle, target, quiet, targeted, -, wraps⟩
      refine wraps.makes _ quiet formed rfl rfl ?_ ?_
      · exact ownsNative_ofKeep keeps
      · rintro _ ⟨⟩
        exact targeted formed
    · exact fun _ _ unchanged => unchanged
  case isRetain => exact fun _ => rfl
  case retained => exact fun _ => ⟨rfl, rfl⟩
  case isRelease => exact fun wrapper => .of_done (.queueRelease wrapper) rfl
  case released => exact fun _ => rfl
  case rest =>
    intro wrapper data after adopted
    cases device with
    | some device => exact trivial
    | none =>
        have asked : Ends (deviceOfQueue provider wrapper) after _ _ :=
          ends_deviceOfQueueAccounted rfl adopted.kind_eq adopted.single adopted.beyond
        apply (asked.imp (fun _ _ ended => ended) ?_).bind
        · exact fun _ _ _ => trivial
        · rintro e last ⟨begun, recorded, abandoned⟩
          exact adopted.failed rfl rfl recorded abandoned

/-- A program is asked for its devices, and released with those that have been linked from it if
anything fails then. -/
theorem ends_program {handle : NativeHandle} {scope : Context} {keeps : Bool}
    {target : BundleState} (resolved : registry.provider? backend = some provider)
    (suits : provider.demands.needsRetain =
      !(host.simulator provider.table.simulator).config.retainsOnImport)
    (formed : (host.simulator provider.table.simulator).store.WellFormed) :
    Ends (importProgram registry handle scope keeps target backend) host (fun _ _ => True)
      (fun _ after => (Request.program handle scope keeps target).Failed
        (host.simulator provider.table.simulator) (after.simulator provider.table.simulator)) := by
  unfold importProgram
  rw [ends_bind, ends_notify]
  apply Ends.timed
  case value => exact fun _ _ _ ended => ended
  case failure => exact fun _ _ _ ended => ended
  apply ends_resolved resolved
  intro middle same
  apply ends_adopt (.programCreate handle scope.handle (Ownership.ofKeep keeps).ownsNative)
    Call.programRetain Call.programRelease rfl suits
  case isBefore => exact same _
  case uninvolved => exact ⟨nofun, nofun⟩
  case answers =>
    apply answers_programCreate.imp
    · exact fun _ _ wraps =>
        wraps.makes _ (.refl _) formed rfl rfl (ownsNative_ofKeep keeps) (by rintro _ ⟨⟩)
    · exact fun _ _ failed => failed.1
  case isRetain => exact fun _ => rfl
  case retained => exact fun _ => ⟨rfl, rfl⟩
  case isRelease => exact fun wrapper => .of_done (.programRelease wrapper) rfl
  case released => exact fun _ => rfl
  case rest =>
    intro wrapper data after adopted
    have name : ProgramRef.Names provider ⟨wrapper, provider⟩ (wrapper.id, data) :=
      ⟨rfl, rfl, adopted.kind_eq, adopted.single⟩
    have fails : ∀ {begun : Simulator} {last : Host},
        Recorded (.programNumDevices wrapper) (after.simulator provider.table.simulator) begun →
        Abandoned provider .programRelease
          (host.simulator provider.table.simulator).store begun (wrapper.id, data) last →
        (Request.program handle scope keeps target).Failed
          (host.simulator provider.table.simulator) (last.simulator provider.table.simulator) :=
      fun recorded abandoned => adopted.failed rfl rfl recorded abandoned
    have start := Store.Descends.refl (host.simulator provider.table.simulator).store
      (wrapper.id, data)
    have listed : Ends (listDevices provider.table wrapper) after _ _ :=
      ends_listDevicesAccounted adopted.beyond
    apply (ends_orRelease.mpr (listed.imp (fun _ _ ended => ended) ?_)).bind
    · rintro handles last ⟨begun, recorded, account⟩
      rw [ends_bind, ends_notify]
      replace account := account.notify
        (.programImported wrapper handles.length (Ownership.ofKeep keeps))
      let builder : Builder := ⟨provider, scope, registry.options⟩
      have advanced : Ends (builder.advance target ⟨wrapper, provider⟩ [] handles) _ _ _ :=
        Account.advance name .nil start account
      apply (advanced.imp (fun _ _ ended => ended) fun _ _ => fails recorded).bind
      rintro built last ⟨entries, descends, names, account⟩
      have managed : Ends (manageDevices provider [] handles) last _ _ :=
        account.quiet (Uses.manageDevices trivial [] handles)
      have released : Ends (orRelease (built.current :: built.superseded)
          (manageDevices provider [] handles)) last _ _ :=
        Account.orRelease names descends managed
      apply (released.imp (fun _ _ ended => ended) fun _ _ => fails recorded).bind
      exact fun _ _ _ => trivial
    · rintro e last ⟨begun, recorded, account⟩
      exact fails recorded (account.abandon (.cons name .nil) start)

/-- Every import that fails does so in one of the three ways, whatever has been told to fail. -/
theorem ends_run (request : Request) (resolved : registry.provider? backend = some provider)
    (suits : provider.demands.needsRetain =
      !(host.simulator provider.table.simulator).config.retainsOnImport)
    (formed : (host.simulator provider.table.simulator).store.WellFormed) :
    Ends (request.run registry backend) host (fun _ _ => True)
      (fun _ after => request.Failed (host.simulator provider.table.simulator)
        (after.simulator provider.table.simulator)) := by
  cases request with
  | context => exact (ends_context resolved suits formed).bind fun _ _ _ => trivial
  | queue => exact (ends_queue resolved suits formed).bind fun _ _ _ => trivial
  | event => exact (ends_event resolved suits formed).bind fun _ _ _ => trivial
  | program => exact (ends_program resolved suits formed).bind fun _ _ _ => trivial
  | kernel => exact (ends_kernel (Or.inl rfl) resolved suits formed).bind fun _ _ _ => trivial
  | ownKernel =>
      exact (ends_kernel (Or.inr ⟨rfl, rfl⟩) resolved suits formed).bind fun _ _ _ => trivial

end Imports

end Request

end ComputeImport
