import ComputeImport.Proofs.Simulator.Growth
import ComputeImport.Session.Run

/-!
# Histories of a backend

A backend changes by calls and by what its caller does directly.  A history lists both, oldest
first, and `replay` runs it.  Whatever the history, the configuration stays and the store is well
formed.
-/

namespace ComputeImport

namespace Call

/-- How a call counts the references to a wrapper: the kind and the number of the wrapper. -/
def counted? : Call → Option (Counting × ObjectKind × Nat)
  | contextRetain context => some (.retain, .context, context.id)
  | contextRelease context => some (.release, .context, context.id)
  | queueRetain queue => some (.retain, .queue, queue.id)
  | queueRelease queue => some (.release, .queue, queue.id)
  | eventRetain event => some (.retain, .event, event.id)
  | eventRelease event => some (.release, .event, event.id)
  | programRetain program => some (.retain, .program, program.id)
  | programRelease program => some (.release, .program, program.id)
  | kernelRetain kernel => some (.retain, .kernel, kernel.id)
  | kernelRelease kernel => some (.release, .kernel, kernel.id)
  | _ => none

/-- The entry point of a call says whether it counts, and the references to which kind. -/
theorem counting?_entryPoint (call : Call) :
    call.entryPoint.counting? = call.counted?.map fun (counting, kind, _) => (counting, kind) := by
  cases call <;> rfl

theorem uncounted_entryPoint {call : Call} (uncounted : call.counted? = none) :
    call.entryPoint.counting? = none := by
  rw [counting?_entryPoint, uncounted]
  rfl

/-- The wrappers of platforms and devices are not counted. -/
theorem ordinary_of_counted {call : Call} {counting : Counting} {kind : ObjectKind} {id : Nat}
    (counted : call.counted? = some (counting, kind, id)) :
    kind ≠ .platform ∧ kind ≠ .device := by
  cases call <;> cases counted <;> decide

end Call

/-- How an action of the caller's counts the references to a native object. -/
def CallerAction.counted? : CallerAction → Option (Counting × NativeHandle)
  | retain handle => some (.retain, handle)
  | release handle => some (.release, handle)
  | _ => none

namespace Simulator

variable {sim : Simulator} {α β : Type}

theorem Answers.map {call : Call} {program : Native α} {change : α → β} {ok : α → Store → Prop}
    {ok' : β → Store → Prop} {failed : NativeError → Store → Prop}
    (answers : Answers call program sim ok failed)
    (value : ∀ a store, ok a store → ok' (change a) store) :
    Answers call (do return change (← program)) sim ok' failed :=
  Ends.bind answers fun a after ended => ⟨ended.1, ended.2.1, value a after.store ended.2.2⟩

/-! ## Counting calls -/

theorem answers_retained {call : Call} {kind : ObjectKind} {id : Nat}
    (counted : call.counted? = some (.retain, kind, id)) :
    Answers call (answer call) sim
      (fun _ store => ∃ wrapper, sim.store.wrappers.get? id = some wrapper ∧
        wrapper.data.kind = kind ∧
        store = sim.store.recounted id { wrapper with refs := wrapper.refs + 1 })
      (fun e store => store = sim.store ∧ e = .invalidHandle kind.name id ∧
        ¬ sim.store.HasWrapper (⟨id⟩ : Handle kind)) := by
  cases call <;> cases counted <;>
    exact (Works.onStore Store.ends_retain).answers.map fun _ _ done => done

/-- Dropping a reference fails where the wrapper is not live or has no reference left, and where it
takes along a native object that is gone. -/
theorem answers_released {call : Call} {kind : ObjectKind} {id : Nat}
    (counted : call.counted? = some (.release, kind, id)) :
    Answers call (answer call) sim
      (fun _ store => ∃ wrapper, sim.store.wrappers.get? id = some wrapper ∧
        wrapper.data.kind = kind ∧ sim.store.Released id wrapper store)
      (fun e store =>
        (store = sim.store ∧ e = .invalidHandle kind.name id ∧
          ¬ sim.store.HasWrapper (⟨id⟩ : Handle kind)) ∨
        ∃ wrapper, sim.store.wrappers.get? id = some wrapper ∧ wrapper.data.kind = kind ∧
          ((wrapper.refs = 0 ∧ store = sim.store ∧ e = .refCountUnderflow kind.name id) ∨
            (sim.store.Released id wrapper store ∧ wrapper.refs = 1 ∧
              wrapper.ownsNative = true ∧ sim.store.natives.get? wrapper.native = none ∧
              e = .invalidNativeHandle "object" wrapper.native))) := by
  cases call <;> cases counted <;>
    exact (Works.onStore Store.ends_release).answers.map fun _ _ done => done

/-! ## Every call -/

/-- What the work of a call keeps of the store, the call keeps, whether it works or not. -/
theorem Answers.keeps {call : Call} {program : Native α} {ok : α → Store → Prop}
    {failed : NativeError → Store → Prop} {holds : Store → Prop}
    (answers : Answers call program sim ok failed) (start : holds sim.store)
    (value : ∀ a store, ok a store → holds store)
    (failure : ∀ e store, failed e store → holds store) :
    Ends program sim (fun _ after => holds after.store) (fun _ after => holds after.store) := by
  refine Ends.imp answers (fun a after ended => value a after.store ended.2.2) ?_
  rintro e after ⟨-, ⟨-, unchanged⟩ | ⟨-, failed⟩⟩
  · rw [unchanged]
    exact start
  · exact failure e after.store failed

theorem wellFormed_answer (call : Call) :
    Keeps (fun sim => sim.store.WellFormed) (answer call) := by
  constructor
  intro sim formed
  cases counted : call.counted? with
  | none =>
      have grows := extends_answer (Call.uncounted_entryPoint counted) formed
      exact grows.imp (fun _ _ grown => grown.wellFormed formed)
        fun _ _ grown => grown.wellFormed formed
  | some what =>
      rcases what with ⟨counting | counting, kind, id⟩
      · refine (answers_retained counted).keeps formed ?_ ?_
        · rintro _ _ ⟨wrapper, found, rfl, rfl⟩
          exact formed.recounted found (Call.ordinary_of_counted counted)
        · rintro _ _ ⟨rfl, -⟩
          exact formed
      · refine (answers_released counted).keeps formed ?_ ?_
        · rintro _ _ ⟨wrapper, found, rfl, released⟩
          exact released.wellFormed formed found (Call.ordinary_of_counted counted)
        · rintro _ _ (⟨rfl, -⟩ | ⟨wrapper, found, rfl, ⟨-, rfl, -⟩ | ⟨released, -⟩⟩)
          · exact formed
          · exact formed
          · exact released.wellFormed formed found (Call.ordinary_of_counted counted)

/-! ## What every call leaves behind -/

/-- A body that changes nothing but the store and the latest options. -/
def OnlyStore (body : Native α) : Prop :=
  ∀ before, Ends body before (fun _ after => StoreOnly before after)
    (fun _ after => StoreOnly before after)

theorem OnlyStore.onStore (step : StoreM α) : OnlyStore (Simulator.onStore step) := by
  intro before
  refine ends_onStore.mpr ?_
  unfold Ends
  cases step before.store <;> exact ⟨rfl, rfl, rfl⟩

theorem OnlyStore.pure (a : α) : OnlyStore (Pure.pure a : Native α) :=
  StoreOnly.refl

theorem OnlyStore.throw (e : NativeError) : OnlyStore (MonadExcept.throw e : Native α) :=
  StoreOnly.refl

theorem OnlyStore.get_bind {next : Simulator → Native α} (rest : ∀ sim, OnlyStore (next sim)) :
    OnlyStore (get >>= next) :=
  fun before => rest before before

theorem OnlyStore.bind {first : Native α} {next : α → Native β} (start : OnlyStore first)
    (rest : ∀ a, OnlyStore (next a)) : OnlyStore (first >>= next) := by
  intro before
  refine (start before).bind fun a middle same => ?_
  exact (rest a middle).imp (fun _ _ same' => same.trans same') fun _ _ same' => same.trans same'

theorem OnlyStore.wrapImported (data : WrapperData) (native : NativeHandle)
    (ownsNative : Bool) : OnlyStore (Simulator.wrapImported data native ownsNative) :=
  .get_bind fun _ => .onStore _

theorem OnlyStore.noteOptions (options : Option String) :
    OnlyStore (Simulator.noteOptions options) :=
  fun _ => ⟨rfl, rfl, rfl⟩

theorem OnlyStore.advanceFor (program : ProgramHandle) (devices : List DeviceHandle)
    (stage : Stage) (options : Option String) :
    OnlyStore (Simulator.advanceFor program devices stage options) :=
  .bind (.onStore _) fun _ => .bind (.onStore _) fun _ => .bind (.noteOptions _) fun _ =>
    .onStore _

theorem OnlyStore.advance (program : ProgramHandle) (stage : Stage) (options : Option String) :
    OnlyStore (Simulator.advance program stage options) :=
  .bind (.onStore _) fun _ => .bind (.noteOptions _) fun _ => .onStore _

theorem OnlyStore.ite {condition : Prop} [Decidable condition] {first second : Native α}
    (yes : OnlyStore first) (no : OnlyStore second) :
    OnlyStore (if condition then first else second) := by
  split
  · exact yes
  · exact no

/-- A call is recorded and uses up the failure that is set for it, whatever it does. -/
theorem recorded_perform {call : Call} {body : Native α} (only : OnlyStore body)
    (change : α → β) :
    Ends (do return change (← perform call body)) sim (fun _ after => Recorded call sim after)
      (fun _ after => Recorded call sim after) := by
  have recorded : Ends (perform call body) sim (fun _ after => Recorded call sim after)
      (fun _ after => Recorded call sim after) := by
    unfold Ends perform
    dsimp only
    cases injected : sim.failures.get? call.entryPoint with
    | some e => exact ⟨rfl, rfl, rfl⟩
    | none =>
        have unchanged : sim.failures.erase call.entryPoint = sim.failures :=
          Ledger.erase_eq_self injected
        refine Ends.imp (only { sim with calls := sim.calls ++ [call] }) ?_ ?_
        · exact fun _ _ same => ⟨same.config, same.calls, same.failures.trans unchanged.symm⟩
        · exact fun _ _ same => ⟨same.config, same.calls, same.failures.trans unchanged.symm⟩
  exact recorded.bind fun _ _ kept => kept

/-- Every call is recorded, and changes nothing else but the store, the latest options and the
failure that was set for its entry point. -/
theorem recorded_answer (call : Call) :
    Recorded call sim (stateAfter (answer call) sim) := by
  refine ends_stateAfter.mp ?_
  cases call with
  | platformCreate | platformBackend | platformNative | deviceCreate | devicePlatform
  | deviceNative | contextNative | contextRetain | contextRelease | queueDevice | queueNative
  | queueRetain | queueRelease | eventNative | eventRetain | eventRelease | programRetain
  | programRelease | programNumDevices | programDevices | programBinaryType | programKernelNames
  | kernelNative | kernelRetain | kernelRelease | memNative =>
      exact recorded_perform (.onStore _) _
  | contextCreate =>
      exact recorded_perform (.bind (.onStore _) fun _ => .bind (.onStore _) fun _ =>
        .wrapImported _ _ _) _
  | queueCreate native context device settings =>
      have wraps : ∀ device, OnlyStore (Simulator.wrapImported
          (.queue ⟨device, settings.flags, settings.descriptor⟩) native settings.ownsNative :
            Native QueueHandle) :=
        fun _ => .wrapImported _ _ _
      exact recorded_perform (.bind (.onStore _) fun _ => .bind (.onStore _) fun _ =>
        .bind (.onStore _) wraps) fun handle : QueueHandle => Answer.handle handle.id
  | eventCreate =>
      exact recorded_perform (.bind (.onStore _) fun _ => .bind (.onStore _) fun _ =>
        .wrapImported _ _ _) _
  | programCreate =>
      exact recorded_perform (.bind (.onStore _) fun _ => .bind (.onStore _) fun _ =>
        .wrapImported _ _ _) _
  | programCompileFor program devices options =>
      exact recorded_perform (.get_bind fun _ => .ite (.advanceFor _ _ _ _) (.throw _)) _
  | programBuildFor program devices options =>
      exact recorded_perform (.get_bind fun _ => .ite (.advanceFor _ _ _ _) (.throw _)) _
  | programCompile context program options =>
      exact recorded_perform (.bind (.onStore _) fun _ => .advance _ _ _) _
  | programBuild context program options =>
      exact recorded_perform (.bind (.onStore _) fun _ => .advance _ _ _) _
  | programLinkFor =>
      refine recorded_perform (.get_bind fun _ => .ite (.bind (.onStore _) fun _ => ?_)
        (.throw _)) _
      exact .ite (.throw _) (.bind (.onStore _) fun _ => .bind (.noteOptions _) fun _ =>
        .onStore _)
  | programLink =>
      refine recorded_perform (.bind (.onStore _) fun _ => ?_) _
      exact .ite (.throw _) (.bind (.noteOptions _) fun _ => .onStore _)
  | kernelCreate native context program ownsNative =>
      refine recorded_perform (.bind (.onStore _) fun _ => .bind (.onStore _) fun owner =>
        .bind ?_ fun _ => .wrapImported _ _ _) _
      cases program with
      | some program =>
          exact .bind (.onStore _) fun _ => .ite (.throw _) (.pure _)
      | none => exact .get_bind fun _ => .ite (.throw _) (.pure _)

/-! ## What the caller does -/

theorem grows_create {wraps : ObjectKind → Prop} {data : NativeData} {store : Store}
    (tidy : data.IsTidy) :
    Ends (Store.create data) store (fun _ after => Store.Grows wraps store after)
      (fun _ after => Store.Grows wraps store after) :=
  (Store.Growth.created data tidy).grows

theorem ends_checkDevices {devices : List NativeHandle} {store : Store} :
    Ends (checkDevices devices) store
      (fun _ after => after = store ∧ ∀ device ∈ devices, store.HasNative .device device)
      (fun _ after => after = store) := by
  induction devices with
  | nil => exact ⟨rfl, fun _ member => absurd member List.not_mem_nil⟩
  | cons device devices ih =>
      refine (Store.ends_native.imp (fun _ _ found => found) fun _ _ failed => failed.1).bind ?_
      rintro _ _ ⟨rfl, live⟩
      refine ih.imp (fun _ _ rest => ⟨rest.1, ?_⟩) fun _ _ same => same
      intro other member
      rcases List.mem_cons.mp member with rfl | member
      · exact live
      · exact rest.2 other member

/-- A step on the store that only adds to it. -/
theorem extends_onStore {wraps : ObjectKind → Prop} {step : StoreM α}
    (grows : Ends step sim.store (fun _ after => Store.Grows wraps sim.store after)
      (fun _ after => Store.Grows wraps sim.store after)) :
    Extends wraps (onStore step) sim :=
  ends_onStore.mpr grows

theorem Extends.after_get {wraps : ObjectKind → Prop} {next : Simulator → Native α}
    (grows : Extends wraps (next sim) sim) : Extends wraps (get >>= next) sim :=
  ends_bind.mpr grows

/-- The stage of a live program is set for one of its devices, or not at all. -/
theorem extends_setProgramStage {wraps : ObjectKind → Prop} {program device : NativeHandle}
    {stage : Stage} : Extends wraps (setProgramStage program device stage) sim := by
  refine extends_onStore ((Store.ends_nativeProgram.imp (fun _ _ found => found) ?_).bind ?_)
  · rintro _ _ ⟨rfl, -⟩
    exact .refl _
  rintro binary _ ⟨rfl, refs, found⟩
  split
  · rename_i known
    refine Store.ends_setProgram.imp ?_ fun _ _ failed => failed.elim
    rintro _ _ rfl
    have devices : ({ binary with stages := binary.stages.set device stage } :
        ProgramBinary).devices = binary.devices := rfl
    refine (Store.growth_reprogrammed found devices rfl ?_).grows
    intro other
    rw [Ledger.contains, Ledger.get?_set]
    split
    · rename_i equal
      subst equal
      rw [known]
      rfl
    · rfl
  · exact .refl _

/-- What the caller does directly, apart from counting references, adds to the store. -/
theorem extends_act {action : CallerAction} (uncounted : action.counted? = none) :
    Extends (fun kind => kind = .mem) (Session.act action) sim := by
  have untidy : ∀ {data : NativeData}, data.kind ≠ .program → data.IsTidy := by
    rintro _ other binary rfl
    exact absurd rfl other
  cases action with
  | createPlatform =>
      refine Extends.map ?_ _
      refine Extends.after_get ?_
      exact extends_onStore (grows_create (untidy (by simp [NativeData.kind])))
  | createDevice platform =>
      refine (extends_onStore
        ((Store.ends_native.imp (fun _ _ found => found) ?_).bind ?_)).map _
      · rintro _ _ ⟨rfl, -⟩
        exact .refl _
      · rintro _ _ ⟨rfl, -⟩
        exact grows_create (untidy (by simp [NativeData.kind]))
  | createContext devices =>
      refine (extends_onStore
        ((ends_checkDevices.imp (fun _ _ found => found) ?_).bind ?_)).map _
      · rintro _ _ rfl
        exact .refl _
      · rintro _ _ ⟨rfl, -⟩
        exact grows_create (untidy (by simp [NativeData.kind]))
  | createQueue device =>
      refine (extends_onStore
        ((Store.ends_native.imp (fun _ _ found => found) ?_).bind ?_)).map _
      · rintro _ _ ⟨rfl, -⟩
        exact .refl _
      · rintro _ _ ⟨rfl, -⟩
        exact grows_create (untidy (by simp [NativeData.kind]))
  | createEvent => exact (extends_onStore (grows_create (untidy (by decide)))).map _
  | createProgram devices stage kernels =>
      refine (extends_onStore
        ((ends_checkDevices.imp (fun _ _ found => found) ?_).bind ?_)).map _
      · rintro _ _ rfl
        exact .refl _
      · rintro _ _ ⟨rfl, -⟩
        refine grows_create ?_
        rintro _ ⟨⟩
        exact ProgramBinary.isTidy_uniform devices stage kernels
  | createKernel program name =>
      refine (extends_onStore
        ((Store.ends_nativeProgram.imp (fun _ _ found => found) ?_).bind ?_)).map _
      · rintro _ _ ⟨rfl, -⟩
        exact .refl _
      · rintro binary _ ⟨rfl, -⟩
        split
        · exact grows_create (untidy (by simp [NativeData.kind]))
        · exact .refl _
  | createMem =>
      refine Extends.map (extends_onStore ?_) _
      have creates : Ends (Store.create .mem) sim.store
          (fun native after => native = ⟨sim.store.nextNative⟩ ∧ after = sim.store.created .mem)
          (fun _ after => Store.Grows (fun kind => kind = .mem) sim.store after) := ⟨rfl, rfl⟩
      refine creates.bind ?_
      rintro _ _ ⟨rfl, rfl⟩
      refine (Store.Growth.created .mem (untidy (by decide))).grows.trans (Store.Growth.grows
        (.wrapped true 1 rfl (by decide) ⟨⟨.mem, 1⟩, by simp [Store.created], rfl⟩ ?_))
      rintro _ ⟨⟩
  | setStage program device stage =>
      exact Ends.bind extends_setProgramStage fun _ _ grown => grown
  | stage _ _ | nativeRefs _ | isAlive _ | wrapperRefs _ | programNative _ | liveWrappers
  | queueFlags _ | callCount _ | clearCalls | inject _ _ | lastOptions | config =>
      exact Store.Grows.refl sim.store
  | retain _ | release _ => contradiction

theorem ends_act_retain {handle : NativeHandle} :
    Ends (Session.act (.retain handle)) sim
      (fun _ after => ∃ object, sim.store.natives.get? handle = some object ∧
        after = { sim with
          store := sim.store.recorded handle { object with refs := object.refs + 1 } })
      (fun _ after => after = sim ∧ sim.store.natives.get? handle = none) := by
  refine Ends.bind (ends_onStore.mpr (Store.ends_retainNative.imp ?_ ?_)) fun _ _ ended => ended
  · rintro _ _ ⟨object, found, rfl⟩
    exact ⟨object, found, rfl⟩
  · rintro _ _ ⟨rfl, -, dead⟩
    exact ⟨rfl, dead⟩

theorem ends_act_release {handle : NativeHandle} :
    Ends (Session.act (.release handle)) sim
      (fun _ after => (∃ object, sim.store.natives.get? handle = some object) ∧
        after = { sim with store := sim.store.dropped handle })
      (fun _ after => after = { sim with store := sim.store.dropped handle } ∧
        sim.store.natives.get? handle = none) := by
  refine Ends.bind (ends_onStore.mpr (Store.ends_releaseNative.imp ?_ ?_)) fun _ _ ended => ended
  · rintro _ _ ⟨live, rfl⟩
    exact ⟨live, rfl⟩
  · rintro _ _ ⟨rfl, -, dead⟩
    exact ⟨rfl, dead⟩

theorem wellFormed_act (action : CallerAction) :
    Keeps (fun sim => sim.store.WellFormed) (Session.act action) := by
  constructor
  intro sim formed
  cases counted : action.counted? with
  | none =>
      exact (extends_act counted).imp (fun _ _ grown => grown.wellFormed formed)
        fun _ _ grown => grown.wellFormed formed
  | some what =>
      cases action with
      | retain handle =>
          refine ends_act_retain.imp ?_ ?_
          · rintro _ _ ⟨object, found, rfl⟩
            exact formed.renewed found (Nat.succ_pos object.refs)
          · rintro _ _ ⟨rfl, -⟩
            exact formed
      | release handle =>
          refine ends_act_release.imp ?_ ?_
          · rintro _ _ ⟨-, rfl⟩
            exact formed.dropped handle
          · rintro _ _ ⟨rfl, -⟩
            exact formed.dropped handle
      | _ => cases counted

/-! ## Histories -/

/-- What changes a backend: an action of its caller's, or a call. -/
inductive Operation where
  | caller (action : CallerAction)
  | call (call : Call)

/-- The backend after an operation, whether it succeeds or fails. -/
def after (sim : Simulator) : Operation → Simulator
  | .caller action => stateAfter (Session.act action) sim
  | .call call => stateAfter (answer call) sim

/-- The backend after a history, oldest operation first. -/
def replay (sim : Simulator) (history : List Operation) : Simulator :=
  history.foldl after sim

theorem replay_append (sim : Simulator) (first second : List Operation) :
    sim.replay (first ++ second) = (sim.replay first).replay second :=
  List.foldl_append

theorem wellFormed_after (formed : sim.store.WellFormed) (operation : Operation) :
    (sim.after operation).store.WellFormed := by
  cases operation with
  | caller action => exact (wellFormed_act action).stateAfter formed
  | call call => exact (wellFormed_answer call).stateAfter formed

/-- The store is well formed, whatever has happened. -/
theorem wellFormed_replay (formed : sim.store.WellFormed) (history : List Operation) :
    (sim.replay history).store.WellFormed := by
  induction history generalizing sim with
  | nil => exact formed
  | cons operation history ih => exact ih (wellFormed_after formed operation)

/-- What the caller does changes neither the configuration nor a failure that is set, unless it sets
another one. -/
theorem kept_act (action : CallerAction) :
    (sim.after (.caller action)).config = sim.config ∧
      ∀ entryPoint, (∀ error, action ≠ .inject entryPoint error) →
        (sim.after (.caller action)).failures.get? entryPoint =
          sim.failures.get? entryPoint := by
  have kept : OnlyStore (Session.act action) →
      (sim.after (.caller action)).config = sim.config ∧
        (sim.after (.caller action)).failures = sim.failures := by
    intro only
    have same : StoreOnly sim (stateAfter (Session.act action) sim) :=
      ends_stateAfter.mp (only sim)
    exact ⟨same.config, same.failures⟩
  have ofKept : OnlyStore (Session.act action) → _ := fun only =>
    And.intro (kept only).1 fun entryPoint (_ : ∀ error, action ≠ .inject entryPoint error) =>
      congrArg (Ledger.get? · entryPoint) (kept only).2
  cases action with
  | createPlatform => exact ofKept (.bind (.get_bind fun _ => .onStore _) fun _ => .pure _)
  | createDevice | createContext | createQueue | createEvent | createProgram | createKernel
  | createMem | setStage | retain | release =>
      exact ofKept (.bind (.onStore _) fun _ => .pure _)
  | stage | nativeRefs | isAlive | wrapperRefs | programNative | liveWrappers | queueFlags
  | callCount | lastOptions | config =>
      exact ofKept (.get_bind fun _ => .pure _)
  | clearCalls => exact ⟨rfl, fun _ _ => rfl⟩
  | inject entryPoint error =>
      constructor
      · rfl
      · intro other different
        have equal : entryPoint ≠ other := by
          rintro rfl
          exact different error rfl
        exact (Ledger.get?_set _ _ _ _).trans (if_neg equal)

/-- No operation changes the configuration. -/
theorem config_replay (history : List Operation) : (sim.replay history).config = sim.config := by
  induction history generalizing sim with
  | nil => rfl
  | cons operation history ih =>
      have kept : (sim.after operation).config = sim.config := by
        cases operation with
        | caller action => exact (kept_act action).1
        | call call => exact (recorded_answer call).config
      exact ih.trans kept

/-- All calls are recorded. -/
theorem calls_replay (sim : Simulator) (calls : List Call) :
    (sim.replay (calls.map .call)).calls = sim.calls ++ calls := by
  induction calls generalizing sim with
  | nil => exact (List.append_nil _).symm
  | cons call calls ih =>
      have recorded : Recorded call sim (sim.after (.call call)) := recorded_answer call
      exact (ih (sim.after (.call call))).trans
        (by rw [recorded.calls, List.append_assoc, List.singleton_append])

end Simulator

end ComputeImport
