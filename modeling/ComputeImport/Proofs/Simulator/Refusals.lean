import ComputeImport.Proofs.Simulator.Failing
import ComputeImport.Proofs.Simulator.Moves

/-!
# What a backend refuses

A request names native objects by their handles and wrappers by their numbers.  Whatever it does, it
looks up everything that it names, and it fails at what is not there.  A request that only looks at
the state brings back that there is nothing.
-/

namespace ComputeImport

/-! ## Programs that need something -/

section Needs

variable {ε σ α β : Type} {found : σ → Prop} {first : EStateM ε σ α} {next : α → EStateM ε σ β}

/-- A program brings something back only where something holds of the state that it starts in. -/
def Needs (found : σ → Prop) (program : EStateM ε σ α) : Prop :=
  ∀ state, Ends program state (fun _ _ => found state) (fun _ _ => True)

namespace Needs

/-- What the first part of a program needs, the program needs. -/
theorem bind (needs : Needs found first) : Needs found (first >>= next) := by
  intro state
  refine (needs state).bind fun a after holds => ?_
  have ends : Ends (next a) after (fun _ _ => True) (fun _ _ => True) := .trivial
  exact ends.imp (fun _ _ _ => holds) fun _ _ _ => trivial

/-- What the rest of a program needs, the program needs, if the first part cannot bring it about. -/
theorem after (brings : ∀ state, Ends first state (fun _ after => found after → found state)
      (fun _ _ => True)) (rest : ∀ a, Needs found (next a)) : Needs found (first >>= next) := by
  intro state
  refine (brings state).bind fun a after before => ?_
  exact (rest a after).imp (fun _ _ => before) fun _ _ _ => trivial

theorem throw (e : ε) : Needs found (MonadExcept.throw e : EStateM ε σ α) :=
  fun _ => trivial

/-- Where what a program needs is missing, it fails. -/
theorem exists_error (needs : Needs found first) {state : σ} (missing : ¬ found state) :
    ∃ e after, first state = .error e after := by
  have fails : Ends first state (fun _ _ => False) (fun _ _ => True) :=
    (needs state).imp (fun _ _ => missing) fun _ _ _ => trivial
  obtain ⟨e, after, failed, -⟩ := fails.exists_error
  exact ⟨e, after, failed⟩

end Needs

end Needs

/-! ## What requests name -/

/-- The name of something that a backend keeps: the handle of a native object, or the number of a
wrapper. -/
inductive ObjectName where
  | native (handle : NativeHandle)
  | wrapper (id : Nat)
  deriving DecidableEq

/-- The name of the wrapper that a handle is for. -/
def Handle.objectName {kind : ObjectKind} (handle : Handle kind) : ObjectName :=
  .wrapper handle.id

/-- The names that a call passes to a backend. -/
def Call.names : Call → List ObjectName
  | platformCreate native => [.native native]
  | platformBackend platform | platformNative platform => [platform.objectName]
  | deviceCreate native platform => .native native :: platform.toList.map Handle.objectName
  | devicePlatform device | deviceNative device => [device.objectName]
  | contextCreate native devices _ => .native native :: devices.map Handle.objectName
  | contextNative context | contextRetain context | contextRelease context => [context.objectName]
  | queueCreate native context device _ =>
      .native native :: context.objectName :: device.toList.map Handle.objectName
  | queueDevice queue | queueNative queue | queueRetain queue | queueRelease queue =>
      [queue.objectName]
  | eventCreate native context _ | programCreate native context _ =>
      [.native native, context.objectName]
  | eventNative event | eventRetain event | eventRelease event => [event.objectName]
  | programRetain program | programRelease program | programNumDevices program
  | programDevices program | programKernelNames program => [program.objectName]
  | programBinaryType program device => [program.objectName, device.objectName]
  | programCompileFor program devices _ | programBuildFor program devices _ =>
      program.objectName :: devices.map Handle.objectName
  | programCompile context program _ | programBuild context program _ =>
      [context.objectName, program.objectName]
  | programLinkFor context devices programs _ =>
      context.objectName :: devices.map Handle.objectName ++ programs.map Handle.objectName
  | programLink context programs _ => context.objectName :: programs.map Handle.objectName
  | kernelCreate native context program _ =>
      .native native :: context.objectName :: program.toList.map Handle.objectName
  | kernelNative kernel | kernelRetain kernel | kernelRelease kernel => [kernel.objectName]
  | memNative mem device => [mem.objectName, device.objectName]

namespace CallerAction

/-- The names that the caller passes to a backend directly. -/
def names : CallerAction → List ObjectName
  | createDevice native | createQueue native | createKernel native _ | retain native
  | release native | nativeRefs native | isAlive native => [.native native]
  | createContext devices | createProgram devices _ _ => devices.map .native
  | setStage program device _ | stage program device => [.native program, .native device]
  | wrapperRefs id => [.wrapper id]
  | programNative program => [program.objectName]
  | queueFlags queue => [queue.objectName]
  | createPlatform | createEvent | createMem | liveWrappers | callCount _ | clearCalls | inject _ _
  | lastOptions | config => []

/-- What a look at something brings back where there is nothing. -/
def denial? : CallerAction → Option Reply
  | isAlive _ => some (.flag false)
  | stage _ _ | nativeRefs _ | wrapperRefs _ | programNative _ | queueFlags _ => some .nothing
  | _ => none

end CallerAction

/-! ## What is looked up in a store -/

namespace Store

variable {α β : Type} {name : ObjectName} {kind : ObjectKind}

/-- Something live goes by a name. -/
def Has (name : ObjectName) (store : Store) : Prop :=
  match name with
  | .native handle => store.natives.get? handle ≠ none
  | .wrapper id => store.wrappers.get? id ≠ none

/-- Something goes by a name: it is live, or a stage of a live program is recorded for it. -/
def Mentions (name : ObjectName) (store : Store) : Prop :=
  store.Has name ∨ ∃ device program binary refs, name = .native device ∧
    store.natives.get? program = some ⟨.program binary, refs⟩ ∧
    binary.stages.contains device = true

theorem mentions_native {store : Store} {handle : NativeHandle} {object : NativeObject}
    (found : store.natives.get? handle = some object) : store.Mentions (.native handle) :=
  .inl (Option.ne_none_iff_exists'.mpr ⟨object, found⟩)

theorem mentions_wrapper {store : Store} {id : Nat} {wrapper : Wrapper}
    (found : store.wrappers.get? id = some wrapper) : store.Mentions (.wrapper id) :=
  .inl (Option.ne_none_iff_exists'.mpr ⟨wrapper, found⟩)

/-- To look first brings nothing about. -/
theorem Looks.needs {first : StoreM α} {next : α → StoreM β} {found : Store → Prop}
    (looks : Looks first) (rest : ∀ a, Needs found (next a)) : Needs found (first >>= next) :=
  .after (fun store => (looks store).imp (fun _ _ same holds => same ▸ holds) fun _ _ _ => trivial)
    rest

theorem needs_inspect {view : NativeData → Option α} (handle : NativeHandle) :
    Needs (Mentions (.native handle)) (inspect kind view handle) := by
  refine fun store => ends_inspect.imp ?_ fun _ _ _ => trivial
  rintro _ _ ⟨-, object, found, -⟩
  exact mentions_native found

theorem needs_wrapper (handle : Handle kind) :
    Needs (Mentions handle.objectName) (wrapper handle) := by
  refine fun store => ends_wrapper.imp ?_ fun _ _ _ => trivial
  rintro wrapper _ ⟨-, found, -⟩
  exact mentions_wrapper found

theorem needs_behind (handle : Handle kind) : Needs (Mentions handle.objectName) (behind handle) :=
  (needs_wrapper handle).bind

theorem needs_queueRecord (queue : QueueHandle) :
    Needs (Mentions queue.objectName) (queueRecord queue) := by
  refine fun store => ends_queueRecord.imp ?_ fun _ _ _ => trivial
  rintro _ _ ⟨-, wrapper, found, -⟩
  exact mentions_wrapper found

theorem looks_native (kind : ObjectKind) (handle : NativeHandle) : Looks (native kind handle) :=
  fun _ => ends_native.imp (fun _ _ found => found.1) fun _ _ failed => failed.1

theorem looks_nativeQueue (handle : NativeHandle) : Looks (nativeQueue handle) :=
  fun _ => ends_nativeQueue.imp (fun _ _ found => found.1) fun _ _ failed => failed.1

theorem looks_nativeKernel (handle : NativeHandle) : Looks (nativeKernel handle) :=
  fun _ => ends_nativeKernel.imp (fun _ _ found => found.1) fun _ _ failed => failed.1

theorem looks_behindAll (handles : List (Handle kind)) : Looks (behindAll handles) :=
  fun _ => ends_behindAll.imp (fun _ _ found => found.1) fun _ _ failed => failed.1

theorem needs_behindAll {handles : List (Handle kind)} {handle : Handle kind}
    (member : handle ∈ handles) : Needs (Mentions handle.objectName) (behindAll handles) := by
  induction member with
  | head => exact (needs_behind handle).bind
  | tail other _ ih => exact (looks_behind other).needs fun _ => ih.bind

theorem needs_wrapPlatform (native : NativeHandle) :
    Needs (Mentions (.native native)) (wrapPlatform native) :=
  (needs_inspect native).bind

theorem needs_wrapDevice (native : NativeHandle) :
    Needs (Mentions (.native native)) (wrapDevice native) :=
  (needs_inspect native).bind

theorem needs_binaryBehind (program : ProgramHandle) :
    Needs (Mentions program.objectName) (Simulator.binaryBehind program) :=
  (needs_behind program).bind

theorem needs_linkPrograms {wanted : NativeHandle → Bool} {programs : List ProgramHandle}
    {program : ProgramHandle} (member : program ∈ programs) (linked : ProgramBinary) :
    Needs (Mentions program.objectName) (Simulator.linkPrograms wanted programs linked) := by
  induction member generalizing linked with
  | head => exact (needs_binaryBehind program).bind
  | tail other _ ih =>
      refine (looks_binaryBehind other).needs fun input => ?_
      cases Simulator.linkDevices wanted input input.devices linked with
      | error e => exact .throw e
      | ok next => exact ih _

theorem needs_linkInto {wanted : NativeHandle → Bool} {programs : List ProgramHandle}
    {program : ProgramHandle} (member : program ∈ programs) :
    Needs (Mentions program.objectName) (Simulator.linkInto wanted programs) :=
  (needs_linkPrograms member _).bind

theorem needs_checkDevices {devices : List NativeHandle} {device : NativeHandle}
    (member : device ∈ devices) :
    Needs (Mentions (.native device)) (Simulator.checkDevices devices) := by
  refine fun store => Simulator.ends_checkDevices.imp ?_ fun _ _ _ => trivial
  rintro _ _ ⟨-, live⟩
  obtain ⟨object, found, -⟩ := live device member
  exact mentions_native found

theorem needs_retainNative (handle : NativeHandle) :
    Needs (Mentions (.native handle)) (retainNative handle) := by
  refine fun store => ends_retainNative.imp ?_ fun _ _ _ => trivial
  rintro _ _ ⟨object, found, -⟩
  exact mentions_native found

theorem needs_releaseNative (handle : NativeHandle) :
    Needs (Mentions (.native handle)) (releaseNative handle) := by
  refine fun store => ends_releaseNative.imp ?_ fun _ _ _ => trivial
  rintro _ _ ⟨⟨object, found⟩, -⟩
  exact mentions_native found

end Store

/-! ## What every operation looks up -/

namespace Simulator

variable {α β : Type} {name : ObjectName} {sim : Simulator}

/-- Something in the store goes by a name. -/
def Mentions (name : ObjectName) (sim : Simulator) : Prop :=
  sim.store.Mentions name

theorem needs_onStore {step : StoreM α} (needs : Needs (Store.Mentions name) step) :
    Needs (Mentions name) (onStore step) :=
  fun sim => ends_onStore.mpr (needs sim.store)

/-- A step on the store that only looks brings nothing about. -/
theorem needs_afterLook {step : StoreM α} {next : α → Native β} (looks : Store.Looks step)
    (rest : ∀ a, Needs (Mentions name) (next a)) :
    Needs (Mentions name) (onStore step >>= next) := by
  refine .after (fun sim => ends_onStore.mpr ?_) rest
  refine (looks sim.store).imp (fun _ after same holds => ?_) fun _ _ _ => trivial
  change Store.Mentions name sim.store
  exact same ▸ (show Store.Mentions name after from holds)

theorem needs_afterOptions {options : Option String} {next : Unit → Native β}
    (rest : ∀ a, Needs (Mentions name) (next a)) :
    Needs (Mentions name) (noteOptions options >>= next) :=
  .after (fun _ holds => holds) rest

/-- What the work of a call looks up, the call looks up. -/
theorem needs_perform {call : Call} {body : Native α} {change : α → Native β}
    (needs : Needs (Mentions name) body) :
    Needs (Mentions name) (perform call body >>= change) := by
  refine Needs.bind fun sim => ?_
  unfold Ends perform
  dsimp only
  cases sim.failures.get? call.entryPoint with
  | some error => trivial
  | none => exact needs { sim with calls := sim.calls ++ [call] }

theorem needs_performFor {call : Call} {entryPoint : String} {body : Native α}
    {change : α → Native β} (needs : Needs (Mentions name) body) :
    Needs (Mentions name) (performFor call entryPoint body >>= change) := by
  refine needs_perform fun sim => ends_bind.mpr ?_
  change Ends (if sim.config.perDevice then body else _) sim _ _
  split
  · exact needs sim
  · trivial

theorem needs_advanceFor {program : ProgramHandle} {devices : List DeviceHandle} {stage : Stage}
    {options : Option String}
    (given : name ∈ program.objectName :: devices.map Handle.objectName) :
    Needs (Mentions name) (advanceFor program devices stage options) := by
  rcases List.mem_cons.mp given with rfl | given
  · exact (needs_onStore (Store.needs_behind program)).bind
  · obtain ⟨device, member, rfl⟩ := List.mem_map.mp given
    refine needs_afterLook (Store.looks_behind program) fun native => ?_
    exact (needs_onStore (Store.needs_behindAll member)).bind

/-- The work of a call in a context, for one program. -/
theorem needs_advance {context : ContextHandle} {program : ProgramHandle} {stage : Stage}
    {options : Option String} (given : name ∈ [context.objectName, program.objectName]) :
    Needs (Mentions name) (do
      let _ ← onStore (Store.wrapper context)
      advance program stage options) := by
  rcases List.mem_pair.mp given with rfl | rfl
  · exact (needs_onStore (Store.needs_wrapper context)).bind
  · refine needs_afterLook (Store.looks_wrapper context) fun _ => ?_
    exact (needs_onStore (Store.needs_behind program)).bind

theorem needs_checkKernelProgram {native owner : NativeHandle} {program : ProgramHandle} :
    Needs (Mentions program.objectName) (checkKernelProgram native owner (some program)) :=
  (needs_onStore (Store.needs_behind program)).bind

/-- A call brings something back only where everything that it names is there. -/
theorem needs_answer {call : Call} (given : name ∈ call.names) :
    Needs (Mentions name) (answer call) := by
  cases call with
  | platformCreate native =>
      obtain rfl := List.mem_singleton.mp given
      exact needs_perform (needs_onStore (Store.needs_wrapPlatform native))
  | platformBackend handle =>
      obtain rfl := List.mem_singleton.mp given
      exact needs_perform (needs_onStore (Store.needs_behind handle).bind)
  | platformNative handle | deviceNative handle | contextNative handle | eventNative handle
  | kernelNative handle =>
      obtain rfl := List.mem_singleton.mp given
      exact needs_perform (needs_onStore (Store.needs_behind handle))
  | deviceCreate native platform =>
      refine needs_perform (needs_onStore ?_)
      rcases List.mem_cons.mp given with rfl | given
      · cases platform with
        | none => exact Store.needs_wrapDevice native
        | some platform =>
            exact (Store.looks_wrapper platform).needs fun _ => Store.needs_wrapDevice native
      · cases platform with
        | none => contradiction
        | some platform =>
            obtain rfl := List.mem_singleton.mp given
            exact (Store.needs_wrapper platform).bind
  | devicePlatform device =>
      obtain rfl := List.mem_singleton.mp given
      exact needs_perform (needs_onStore (Store.needs_behind device).bind)
  | contextCreate native devices ownsNative =>
      apply needs_perform
      rcases List.mem_cons.mp given with rfl | given
      · exact (needs_onStore (Store.needs_inspect native)).bind
      · obtain ⟨device, member, rfl⟩ := List.mem_map.mp given
        refine needs_afterLook (Store.looks_native .context native) fun _ => ?_
        exact (needs_onStore (Store.needs_behindAll member)).bind
  | queueCreate native context device settings =>
      apply needs_perform
      rcases List.mem_cons.mp given with rfl | given
      · refine needs_afterLook (Store.looks_wrapper context) fun _ => ?_
        exact (needs_onStore (Store.needs_inspect native)).bind
      rcases List.mem_cons.mp given with rfl | given
      · exact (needs_onStore (Store.needs_wrapper context)).bind
      · cases device with
        | none => contradiction
        | some device =>
            obtain rfl := List.mem_singleton.mp given
            refine needs_afterLook (Store.looks_wrapper context) fun _ => ?_
            refine needs_afterLook (Store.looks_nativeQueue native) fun _ => ?_
            exact (needs_onStore (Store.needs_wrapper device).bind).bind
  | queueDevice queue =>
      obtain rfl := List.mem_singleton.mp given
      exact needs_perform (needs_onStore (Store.needs_queueRecord queue).bind)
  | queueNative queue =>
      obtain rfl := List.mem_singleton.mp given
      exact needs_perform (needs_onStore (Store.needs_behind queue).bind)
  | eventCreate native context ownsNative | programCreate native context ownsNative =>
      apply needs_perform
      rcases List.mem_pair.mp given with rfl | rfl
      · refine needs_afterLook (Store.looks_wrapper context) fun _ => ?_
        exact (needs_onStore (Store.needs_inspect native)).bind
      · exact (needs_onStore (Store.needs_wrapper context)).bind
  | contextRetain handle | queueRetain handle | eventRetain handle | programRetain handle
  | kernelRetain handle =>
      obtain rfl := List.mem_singleton.mp given
      exact needs_perform (needs_onStore (Store.needs_wrapper handle).bind)
  | contextRelease handle | queueRelease handle | eventRelease handle | programRelease handle
  | kernelRelease handle =>
      obtain rfl := List.mem_singleton.mp given
      exact needs_perform (needs_onStore (Store.needs_wrapper handle).bind)
  | programNumDevices program | programDevices program | programKernelNames program =>
      obtain rfl := List.mem_singleton.mp given
      exact needs_perform (needs_onStore (Store.needs_binaryBehind program).bind)
  | programBinaryType program device =>
      refine needs_perform (needs_onStore ?_)
      rcases List.mem_pair.mp given with rfl | rfl
      · exact (Store.needs_behind program).bind
      · exact (Store.looks_behind program).needs fun _ => (Store.needs_behind device).bind
  | programCompileFor program devices options | programBuildFor program devices options =>
      exact needs_performFor (needs_advanceFor given)
  | programCompile context program options | programBuild context program options =>
      exact needs_perform (needs_advance given)
  | programLinkFor context devices programs options =>
      apply needs_performFor
      rcases List.mem_cons.mp given with rfl | given
      · exact (needs_onStore (Store.needs_wrapper context)).bind
      refine needs_afterLook (Store.looks_wrapper context) fun _ => ?_
      split
      · exact Needs.bind (.throw _)
      rcases List.mem_append.mp given with given | given
      · obtain ⟨device, member, rfl⟩ := List.mem_map.mp given
        exact (needs_onStore (Store.needs_behindAll member)).bind
      · obtain ⟨program, member, rfl⟩ := List.mem_map.mp given
        refine needs_afterLook (Store.looks_behindAll devices) fun _ => ?_
        exact needs_afterOptions fun _ => needs_onStore (Store.needs_linkInto member)
  | programLink context programs options =>
      apply needs_perform
      rcases List.mem_cons.mp given with rfl | given
      · exact (needs_onStore (Store.needs_wrapper context)).bind
      obtain ⟨program, member, rfl⟩ := List.mem_map.mp given
      refine needs_afterLook (Store.looks_wrapper context) fun _ => ?_
      split
      · exact Needs.bind (.throw _)
      · exact needs_afterOptions fun _ => needs_onStore (Store.needs_linkInto member)
  | kernelCreate native context program ownsNative =>
      apply needs_perform
      rcases List.mem_cons.mp given with rfl | given
      · refine needs_afterLook (Store.looks_wrapper context) fun _ => ?_
        exact (needs_onStore (Store.needs_inspect native)).bind
      rcases List.mem_cons.mp given with rfl | given
      · exact (needs_onStore (Store.needs_wrapper context)).bind
      · cases program with
        | none => contradiction
        | some program =>
            obtain rfl := List.mem_singleton.mp given
            refine needs_afterLook (Store.looks_wrapper context) fun _ => ?_
            refine needs_afterLook (Store.looks_nativeKernel native) fun _ => ?_
            exact needs_checkKernelProgram.bind
  | memNative mem device =>
      refine needs_perform (needs_onStore ?_)
      rcases List.mem_pair.mp given with rfl | rfl
      · refine (Store.looks_wrapper device).needs fun _ store => ?_
        rw [ends_tryCatch]
        exact (Store.needs_behind mem store).imp (fun _ _ found => found) fun _ _ _ => trivial
      · exact (Store.needs_wrapper device).bind

/-- An action of the caller's that does not only look brings something back only where everything
that it names is there. -/
theorem needs_act {action : CallerAction} (acts : action.denial? = none)
    (given : name ∈ action.names) : Needs (Mentions name) (Session.act action) := by
  cases action with
  | createDevice native | createQueue native =>
      obtain rfl := List.mem_singleton.mp given
      exact (needs_onStore (Store.needs_inspect native).bind).bind
  | createContext devices | createProgram devices stage kernels =>
      obtain ⟨device, member, rfl⟩ := List.mem_map.mp given
      exact (needs_onStore (Store.needs_checkDevices member).bind).bind
  | createKernel program name =>
      obtain rfl := List.mem_singleton.mp given
      exact (needs_onStore (Store.needs_inspect program).bind).bind
  | setStage program device stage =>
      refine Needs.bind (needs_onStore ?_)
      rcases List.mem_pair.mp given with rfl | rfl
      · exact (Store.needs_inspect program).bind
      · intro store
        refine (Store.ends_nativeProgram.imp (fun _ _ found => found) fun _ _ _ => trivial).bind ?_
        rintro binary _ ⟨rfl, refs, found⟩
        split
        · rename_i staged
          refine Store.ends_setProgram.imp (fun _ _ _ => ?_) fun _ _ _ => trivial
          exact .inr ⟨device, program, binary, refs, rfl, found, staged⟩
        · trivial
  | retain handle =>
      obtain rfl := List.mem_singleton.mp given
      exact (needs_onStore (Store.needs_retainNative handle)).bind
  | release handle =>
      obtain rfl := List.mem_singleton.mp given
      exact (needs_onStore (Store.needs_releaseNative handle)).bind
  | stage _ _ | nativeRefs _ | isAlive _ | wrapperRefs _ | programNative _ | queueFlags _ =>
      cases acts
  | createPlatform | createEvent | createMem | liveWrappers | callCount _ | clearCalls | inject _ _
  | lastOptions | config => cases given

/-- An action of the caller's that only looks finds nothing where something that it names is not
there. -/
theorem act_eq_denial {action : CallerAction} {reply : Reply} (looks : action.denial? = some reply)
    (given : name ∈ action.names) (missing : ¬ sim.Mentions name) :
    Session.act action sim = .ok reply sim := by
  have dead : ∀ {handle}, ¬ sim.Mentions (.native handle) →
      sim.store.natives.get? handle = none :=
    fun missing => not_not.mp fun live => missing (.inl live)
  have ended : ∀ {id}, ¬ sim.Mentions (.wrapper id) → sim.store.wrappers.get? id = none :=
    fun missing => not_not.mp fun live => missing (.inl live)
  cases action with
  | isAlive handle =>
      cases looks
      obtain rfl := List.mem_singleton.mp given
      change EStateM.Result.ok (Reply.flag (sim.isAlive handle)) sim = _
      rw [isAlive_eq_false (dead missing)]
  | nativeRefs handle =>
      cases looks
      obtain rfl := List.mem_singleton.mp given
      change EStateM.Result.ok (Reply.ofOption .number (sim.nativeRefs? handle)) sim = _
      rw [nativeRefs?, dead missing]
      rfl
  | wrapperRefs id =>
      cases looks
      obtain rfl := List.mem_singleton.mp given
      change EStateM.Result.ok (Reply.ofOption .number (sim.wrapperRefs? id)) sim = _
      rw [wrapperRefs?, ended missing]
      rfl
  | programNative program =>
      cases looks
      obtain rfl := List.mem_singleton.mp given
      change EStateM.Result.ok (Reply.ofOption .handle (sim.programBehind? program)) sim = _
      rw [programBehind?, wrapper?, ended missing]
      rfl
  | queueFlags queue =>
      cases looks
      obtain rfl := List.mem_singleton.mp given
      change EStateM.Result.ok (Reply.ofOption .flags (sim.queueFlags? queue)) sim = _
      rw [queueFlags?, wrapper?, ended missing]
      rfl
  | stage program device =>
      cases looks
      have unrecorded : sim.programStage? program device = none := by
        rw [programStage?, program?, Option.bind_eq_none_iff]
        intro binary known
        obtain ⟨⟨data, refs⟩, found, isProgram⟩ := Option.bind_eq_some_iff.mp known
        rcases List.mem_pair.mp given with rfl | rfl
        · rw [dead missing] at found
          contradiction
        · cases data <;> cases isProgram
          rw [← Option.not_isSome_iff_eq_none]
          exact fun staged => missing (.inr ⟨device, program, binary, refs, rfl, found, staged⟩)
      change EStateM.Result.ok (Reply.ofOption (fun stage : Stage => .text stage.text)
        (sim.programStage? program device)) sim = _
      rw [unrecorded]
      rfl
  | _ => cases looks

/-- The names that an operation passes to a backend. -/
def Operation.names : Operation → List ObjectName
  | .caller action => action.names
  | .call made => made.names

/-- A backend denies an operation: it fails, or where it only looks, it finds nothing. -/
def Denies (sim : Simulator) : Operation → Prop
  | .call call => ∃ e after, answer call sim = .error e after
  | .caller action =>
      match action.denial? with
      | some reply => Session.act action sim = .ok reply sim
      | none => ∃ e after, Session.act action sim = .error e after

/-- An operation that names something which is not there is denied. -/
theorem denies_of_missing {operation : Operation} (given : name ∈ operation.names)
    (missing : ¬ sim.Mentions name) : sim.Denies operation := by
  cases operation with
  | call call => exact (needs_answer given).exists_error missing
  | caller action =>
      unfold Denies
      dsimp only
      split
      · exact act_eq_denial ‹_› given missing
      · exact (needs_act ‹_› given).exists_error missing

/-- A reference to a native object is dropped, unless the object is not live. -/
theorem denies_release_iff {handle : NativeHandle} :
    sim.Denies (.caller (.release handle)) ↔ sim.store.natives.get? handle = none := by
  constructor
  · rintro ⟨e, after, failed⟩
    exact (ends_act_release.of_error failed).2
  · intro dead
    cases outcome : Session.act (.release handle) sim with
    | error e after => exact ⟨e, after, outcome⟩
    | ok reply after =>
        obtain ⟨⟨object, found⟩, -⟩ := ends_act_release.of_ok outcome
        rw [dead] at found
        contradiction

/-- The references to a wrapper are told, unless the wrapper is not live. -/
theorem denies_wrapperRefs_iff {id : Nat} :
    sim.Denies (.caller (.wrapperRefs id)) ↔ sim.store.wrappers.get? id = none := by
  change EStateM.Result.ok (Reply.ofOption .number (sim.wrapperRefs? id)) sim = .ok .nothing sim ↔ _
  rw [wrapperRefs?]
  cases sim.store.wrappers.get? id <;> simp [Reply.ofOption]

end Simulator

end ComputeImport
