import ComputeImport.Proofs.Simulator.History

/-!
# What a failing call leaves behind

Most entry points look at everything that they need before they change anything, so that a call that
fails has changed nothing.  Two act step by step and take nothing back.  The devices of a program are
wrapped one after the other, up to one that is gone; and a wrapper that loses its last reference is
destroyed before the native object that it owns is looked for.  No failing call changes a native
object.
-/

namespace ComputeImport

namespace Store

variable {store : Store}

/-- The native devices have been wrapped in order, up to one that is gone. -/
def WrapsUpTo (store : Store) (devices : List NativeHandle) (e : NativeError) (after : Store) :
    Prop :=
  ∃ live gone rest wrappers, devices = live ++ gone :: rest ∧
    (∀ device ∈ live, store.HasNative .device device) ∧ ¬ store.HasNative .device gone ∧
    e = .invalidNativeHandle ObjectKind.device.name gone ∧
    wrapDevices live store = .ok wrappers after

/-- Wrapping several devices stops at the first one that is gone. -/
theorem ends_wrapDevices_upTo {devices : List NativeHandle} :
    Ends (wrapDevices devices) store (fun _ _ => True) (store.WrapsUpTo devices) := by
  induction devices generalizing store with
  | nil => exact True.intro
  | cons device devices ih =>
      have wrapped : Ends (wrapDevice device) store _ _ := ends_wrapDevice
      unfold wrapDevices
      rw [ends_bind]
      unfold Ends
      cases outcome : wrapDevice device store with
      | error e after =>
          obtain ⟨rfl, cause, gone⟩ := wrapped.of_error outcome
          exact ⟨[], device, devices, [], rfl, by simp, gone, cause, rfl⟩
      | ok wrapper middle =>
          obtain ⟨quiet, -, isLive⟩ := wrapped.of_ok outcome
          have same : ∀ other, middle.HasNative .device other ↔ store.HasNative .device other := by
            intro other
            rw [HasNative, HasNative, quiet.natives]
          refine Ends.bind (ih.imp (fun _ _ done => done) ?_) fun _ _ _ => True.intro
          rintro e after ⟨live, gone, rest, wrappers, rfl, lives, isGone, cause, done⟩
          refine ⟨device :: live, gone, rest, wrapper :: wrappers, rfl, ?_,
            fun stays => isGone ((same gone).mpr stays), cause, ?_⟩
          · intro other member
            rcases List.mem_cons.mp member with rfl | member
            · exact isLive
            · exact (same other).mp (lives other member)
          · unfold wrapDevices
            rw [bind_apply, outcome]
            change (wrapDevices live >>= fun wrappers => pure (wrapper :: wrappers)) middle = _
            rw [bind_apply, done]
            rfl

/-- Devices that have been wrapped up to some point have left the native objects alone. -/
theorem WrapsUpTo.natives {devices : List NativeHandle} {e : NativeError} {after : Store}
    (wraps : store.WrapsUpTo devices e after) : after.natives = store.natives := by
  obtain ⟨live, -, -, wrappers, -, -, -, -, done⟩ := wraps
  exact (ends_wrapDevices.of_ok done).1.natives

/-! ## Steps that change nothing when they fail -/

variable {α β : Type}

/-- A step leaves the store as it is, whether it finds something or fails. -/
def Looks (step : StoreM α) : Prop :=
  ∀ store, Ends step store (fun _ after => after = store) (fun _ after => after = store)

/-- A step changes the store only when it succeeds. -/
def Careful (step : StoreM α) : Prop :=
  ∀ store, Ends step store (fun _ _ => True) (fun _ after => after = store)

/-- To look first is careful, whatever careful step comes next. -/
theorem Looks.bind {first : StoreM α} {next : α → StoreM β} (looks : Looks first)
    (rest : ∀ a, Careful (next a)) : Careful (first >>= next) := by
  intro store
  refine Ends.bind (looks store) ?_
  rintro a _ rfl
  exact rest a _

theorem Looks.careful {step : StoreM α} (looks : Looks step) : Careful step :=
  fun store => (looks store).imp (fun _ _ _ => True.intro) fun _ _ same => same

theorem careful_pure (a : α) : Careful (pure a) :=
  fun _ => True.intro

section Lookups

variable {kind : ObjectKind} (handle : Handle kind) (native : NativeHandle)

theorem looks_wrapper : Looks (wrapper handle) :=
  fun _ => ends_wrapper.imp (fun _ _ found => found.1) fun _ _ failed => failed.1

theorem looks_behind : Looks (behind handle) :=
  fun _ => ends_behind.imp (fun _ _ found => found.1) fun _ _ failed => failed.1

theorem looks_queueRecord (queue : QueueHandle) : Looks (queueRecord queue) :=
  fun _ => ends_queueRecord.imp (fun _ _ found => found.1) fun _ _ failed => failed.1

theorem looks_nativePlatform : Looks (nativePlatform native) :=
  fun _ => ends_nativePlatform.imp (fun _ _ found => found.1) fun _ _ failed => failed.1

theorem looks_binaryBehind (program : ProgramHandle) : Looks (Simulator.binaryBehind program) :=
  fun _ => ends_binaryBehind.imp (fun _ _ found => found.1) fun _ _ failed => failed.1

theorem careful_wrapPlatform : Careful (wrapPlatform native) :=
  fun _ => ends_wrapPlatform.imp (fun _ _ _ => True.intro) fun _ _ failed => failed.1

theorem careful_wrapDevice : Careful (wrapDevice native) :=
  fun _ => ends_wrapDevice.imp (fun _ _ _ => True.intro) fun _ _ failed => failed.1

end Lookups

end Store

namespace Simulator

variable {sim : Simulator} {call : Call}

/-- A call has listed the devices of a live program and wrapped them up to one that is gone. -/
def ListsUpTo (call : Call) (store : Store) (e : NativeError) (after : Store) : Prop :=
  ∃ program native binary, call = .programDevices program ∧ store.Leads program native binary ∧
    store.WrapsUpTo binary.devices e after

/-- A call has dropped the last reference to a wrapper, which is destroyed, and has not found the
native object that the wrapper owned. -/
def EndsOrphan (call : Call) (store : Store) (e : NativeError) (after : Store) : Prop :=
  ∃ kind id wrapper, call.counted? = some (.release, kind, id) ∧
    store.wrappers.get? id = some wrapper ∧ wrapper.data.kind = kind ∧ wrapper.refs = 1 ∧
    wrapper.ownsNative = true ∧ store.natives.get? wrapper.native = none ∧
    e = .invalidNativeHandle "object" wrapper.native ∧ after = store.unwrapped id

/-- What a failing call may leave behind: nothing, but for the two calls that act step by step. -/
def LeavesBehind (call : Call) (store : Store) (e : NativeError) (after : Store) : Prop :=
  after = store ∨ ListsUpTo call store e after ∨ EndsOrphan call store e after

/-- What a failing call leaves behind, it leaves in the wrappers alone. -/
theorem LeavesBehind.natives {store after : Store} {e : NativeError}
    (leaves : LeavesBehind call store e after) : after.natives = store.natives := by
  rcases leaves with rfl | ⟨_, _, binary, _, _, wraps⟩ | ⟨_, _, _, _, _, _, _, _, _, _, rfl⟩
  · rfl
  · exact wraps.natives
  · rfl

/-! ## Calls that change nothing when they fail -/

/-- A call changes the store only when it succeeds. -/
def Careful {α : Type} (call : Call) (program : Native α) (sim : Simulator) : Prop :=
  Answers call program sim (fun _ _ => True) (fun _ store => store = sim.store)

theorem Answers.careful {α : Type} {program : Native α} {ok : α → Store → Prop}
    {failed : NativeError → Store → Prop} {change : α → Answer}
    (answers : Answers call program sim ok failed)
    (unchanged : ∀ e store, failed e store → store = sim.store) :
    Careful call (do return change (← program)) sim :=
  Answers.map (answers.imp (fun _ _ done => done) unchanged) fun _ _ _ => True.intro

/-- A call that works on the store alone is careful when its work is. -/
theorem careful_onStore {α : Type} {step : StoreM α} {change : α → Answer}
    (careful : Store.Careful step) :
    Careful call (do return change (← perform call (onStore step))) sim :=
  (Works.onStore (careful sim.store)).answers.careful fun _ _ same => same

/-- Linking makes nothing before all of its inputs have been joined. -/
theorem ends_linkPrograms_careful {wanted : NativeHandle → Bool} {programs : List ProgramHandle}
    {store : Store} :
    Ends (linkPrograms wanted programs ⟨[], {}, []⟩) store
      (fun _ after => after = store ∧ True) (fun _ after => after = store ∧ True) :=
  Store.ends_linkPrograms.imp (fun _ _ done => ⟨done.1, True.intro⟩)
    fun _ _ same => ⟨same, True.intro⟩

/-- The calls that neither count references nor list devices are careful. -/
theorem careful_answer (uncounted : call.counted? = none)
    (other : ∀ program, call ≠ .programDevices program) : Careful call (answer call) sim := by
  cases call with
  | platformCreate native => exact careful_onStore (Store.careful_wrapPlatform native)
  | platformBackend platform =>
      exact careful_onStore ((Store.looks_behind platform).bind fun native =>
        (Store.looks_nativePlatform native).careful)
  | platformNative handle | deviceNative handle | contextNative handle | eventNative handle
  | kernelNative handle =>
      exact careful_onStore (Store.looks_behind handle).careful
  | deviceCreate native platform =>
      refine careful_onStore ?_
      cases platform with
      | none => exact Store.careful_wrapDevice native
      | some platform =>
          exact (Store.looks_wrapper platform).bind fun _ => Store.careful_wrapDevice native
  | devicePlatform device => exact answers_devicePlatform.careful fun _ _ failed => failed.1
  | contextCreate native devices ownsNative =>
      exact answers_contextCreate.careful fun _ _ same => same
  | queueCreate native context device settings =>
      exact answers_queueCreate.careful fun _ _ same => same
  | queueDevice queue =>
      exact careful_onStore ((Store.looks_queueRecord queue).bind fun record =>
        Store.careful_pure record.device)
  | queueNative queue =>
      exact careful_onStore ((Store.looks_behind queue).bind fun native =>
        (Store.looks_queueRecord queue).bind fun record =>
          Store.careful_pure (native, record.descriptor))
  | eventCreate native context ownsNative =>
      exact answers_eventCreate.careful fun _ _ same => same
  | programCreate native context ownsNative =>
      exact answers_programCreate.careful fun _ _ failed => failed.1
  | programNumDevices program =>
      exact answers_programNumDevices.careful fun _ _ failed => failed.1
  | programDevices program => exact absurd rfl (other program)
  | programKernelNames program =>
      exact careful_onStore ((Store.looks_binaryBehind program).bind fun binary =>
        Store.careful_pure binary.kernels)
  | programBinaryType program device =>
      exact answers_programBinaryType.careful fun _ _ failed => failed.1
  | programCompileFor program devices options =>
      exact answers_programCompileFor.careful fun _ _ failed => failed.1
  | programCompile context program options =>
      exact answers_programCompile.careful fun _ _ failed => failed.1
  | programBuildFor program devices options =>
      exact answers_programBuildFor.careful fun _ _ failed => failed.1
  | programBuild context program options =>
      exact answers_programBuild.careful fun _ _ failed => failed.1
  | programLinkFor context devices programs options =>
      exact (works_linkFor fun _ => ends_linkPrograms_careful).careful fun _ _ failed => failed.1
  | programLink context programs options =>
      exact (works_link ends_linkPrograms_careful).careful fun _ _ failed => failed.1
  | kernelCreate native context program ownsNative =>
      exact answers_kernelCreate.careful fun _ _ failed => failed.1
  | memNative mem device =>
      refine careful_onStore ((Store.looks_wrapper device).bind fun _ => fun store => ?_)
      rw [ends_tryCatch]
      exact (Store.looks_behind mem store).imp (fun _ _ _ => True.intro) fun _ _ same => same
  | contextRetain _ | contextRelease _ | queueRetain _ | queueRelease _ | eventRetain _
  | eventRelease _ | programRetain _ | programRelease _ | kernelRetain _ | kernelRelease _ =>
      cases uncounted

/-! ## Every call -/

/-- The devices of a program are listed up to one that is gone. -/
theorem answers_programDevices_upTo {program : ProgramHandle} :
    Answers (.programDevices program) (answer (.programDevices program)) sim (fun _ _ => True)
      (LeavesBehind (.programDevices program) sim.store) := by
  refine Answers.map (Works.onStore ?_).answers fun _ _ done => done
  refine (Store.ends_binaryBehind.imp (fun _ _ found => found) fun _ _ failed => .inl failed.1).bind
    ?_
  rintro binary _ ⟨rfl, native, leads⟩
  refine Store.ends_wrapDevices_upTo.imp (fun _ _ done => done) ?_
  exact fun _ _ wraps => .inr (.inl ⟨program, native, binary, rfl, leads, wraps⟩)

/-- The last reference to a wrapper may go before the native object that it owns is missed. -/
theorem answers_released_orphan {kind : ObjectKind} {id : Nat}
    (counted : call.counted? = some (.release, kind, id)) :
    Answers call (answer call) sim (fun _ _ => True) (LeavesBehind call sim.store) := by
  refine (answers_released counted).imp (fun _ _ _ => True.intro) ?_
  rintro e store (⟨same, -⟩ |
    ⟨wrapper, found, isKind, ⟨-, same, -⟩ | ⟨released, last, owns, gone, cause⟩⟩)
  · exact .inl same
  · exact .inl same
  · refine .inr (.inr ⟨kind, id, wrapper, counted, found, isKind, last, owns, gone, cause, ?_⟩)
    cases released with
    | last =>
        have dead : (sim.store.unwrapped id).natives.get? wrapper.native = none := gone
        rw [Store.discarded, if_pos owns, Store.dropped, dead]
    | another several =>
        rw [last] at several
        omega

theorem answers_leavesBehind (call : Call) (sim : Simulator) :
    Answers call (answer call) sim (fun _ _ => True) (LeavesBehind call sim.store) := by
  cases counted : call.counted? with
  | some what =>
      rcases what with ⟨counting | counting, kind, id⟩
      · exact (answers_retained counted).imp (fun _ _ _ => True.intro) fun _ _ failed => .inl failed.1
      · exact answers_released_orphan counted
  | none =>
      by_cases lists : ∃ program, call = .programDevices program
      · obtain ⟨program, rfl⟩ := lists
        exact answers_programDevices_upTo
      · exact (careful_answer counted (not_exists.mp lists)).imp (fun _ _ done => done)
          fun _ _ same => .inl same

/-- A failing call never changes a native object, and leaves the store as it is, but for the devices
that it has wrapped before it came to one that is gone, and for the wrapper that it has ended before
it missed the native object.  A failure that was set for the call leaves the store as it is. -/
theorem ends_answer_leavesBehind (call : Call) (sim : Simulator) :
    Ends (answer call) sim (fun _ _ => True) (fun e after =>
      after.store.natives = sim.store.natives ∧
        (sim.failures.get? call.entryPoint ≠ none → after.store = sim.store) ∧
        LeavesBehind call sim.store e after.store) := by
  refine Ends.imp (answers_leavesBehind call sim) (fun _ _ _ => True.intro) ?_
  rintro e after ⟨-, ⟨injected, same⟩ | ⟨unset, leaves⟩⟩
  · rw [same]
    exact ⟨rfl, fun _ => rfl, .inl rfl⟩
  · exact ⟨leaves.natives, fun set => absurd unset set, leaves⟩

/-! ## What is left half done -/

/-- The history of a wrapped program, one of whose two devices has been released by its owner. -/
def shrunken : List Operation :=
  [.caller .createPlatform, .caller (.createDevice ⟨4096⟩), .caller (.createDevice ⟨4096⟩),
    .caller (.createContext [⟨4097⟩, ⟨4098⟩]),
    .caller (.createProgram [⟨4097⟩, ⟨4098⟩] .unbuilt []),
    .call (.contextCreate ⟨4099⟩ [] false), .call (.programCreate ⟨4100⟩ ⟨1⟩ false),
    .caller (.release ⟨4098⟩)]

/-- The history of a wrapper that owns a context which its former owner has released as well. -/
def orphaned : List Operation :=
  [.caller .createPlatform, .caller (.createDevice ⟨4096⟩), .caller (.createContext [⟨4097⟩]),
    .call (.contextCreate ⟨4098⟩ [] true), .caller (.release ⟨4098⟩)]

/-- A call that lists the devices of the program fails with the wrapper of the first one made, and a
call that releases the wrapper of the context fails with that wrapper gone. -/
theorem exists_half_done :
    (∃ e after, answer (.programDevices ⟨2⟩) (replay {} shrunken) = .error e after ∧
      (replay {} shrunken).store.deviceWrappers.get? ⟨4097⟩ = none ∧
      after.store.deviceWrappers.get? ⟨4097⟩ = some ⟨3⟩) ∧
    ∃ e after, answer (.contextRelease ⟨1⟩) (replay {} orphaned) = .error e after ∧
      (replay {} orphaned).store.wrappers.contains 1 = true ∧
      after.store.wrappers.contains 1 = false := by
  constructor
  · have fails : failsWith (fun _ after => after.store.deviceWrappers.get? ⟨4097⟩ = some ⟨3⟩)
        (answer (.programDevices ⟨2⟩) (replay {} shrunken)) = true := by
      decide +kernel
    obtain ⟨e, after, outcome, wrapped⟩ := exists_of_failsWith fails
    exact ⟨e, after, outcome, by decide +kernel, of_decide_eq_true wrapped⟩
  · have fails : failsWith (fun _ after => after.store.wrappers.contains 1 = false)
        (answer (.contextRelease ⟨1⟩) (replay {} orphaned)) = true := by
      decide +kernel
    obtain ⟨e, after, outcome, gone⟩ := exists_of_failsWith fails
    exact ⟨e, after, outcome, by decide +kernel, of_decide_eq_true gone⟩

end Simulator

end ComputeImport
