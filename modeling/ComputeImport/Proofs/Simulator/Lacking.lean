import ComputeImport.Proofs.Agreement
import ComputeImport.Session.Run

/-!
# A backend without the entry points for chosen devices

A backend may lack the entry points for chosen devices, or they may be hidden behind a function
table that does not pass calls of them on.  The first backend records such calls and refuses them,
and the second is never asked.  Everything else that is done with the two backends ends alike.
-/

namespace ComputeImport

variable {α β : Type}

/-- Whether an entry point acts for chosen devices. -/
def EntryPoint.isForDevices : EntryPoint → Bool
  | programCompileFor | programBuildFor | programLinkFor => true
  | _ => false

/-- Calls without those for chosen devices. -/
def Call.others (calls : List Call) : List Call :=
  calls.filter fun call => !call.entryPoint.isForDevices

theorem Call.others_append (calls more : List Call) :
    Call.others (calls ++ more) = Call.others calls ++ Call.others more :=
  List.filter_append ..

namespace Simulator

/-- The first backend lacks the entry points for chosen devices, and no failure is set for them.
The second has been called by other entry points only.  Otherwise they are the same. -/
structure Lacks (sim sim' : Simulator) : Prop where
  config : sim.config = sim'.config.wholeProgramsOnly
  store : sim.store = sim'.store
  calls : Call.others sim.calls = sim'.calls
  failures : sim.failures = sim'.failures
  lastOptions : sim.lastOptions = sim'.lastOptions
  unset : ∀ entryPoint, entryPoint.isForDevices = true → sim.failures.get? entryPoint = none

variable {sim sim' : Simulator}

/-- New backends, of which the first lacks the entry points for chosen devices. -/
theorem Lacks.fresh (config : SimulatorConfig) :
    Lacks { config := config.wholeProgramsOnly } { config } :=
  ⟨rfl, rfl, rfl, rfl, rfl, fun _ _ => rfl⟩

/-- The log of the first backend is read without the calls for chosen devices. -/
theorem Lacks.recorded (lacks : Lacks sim sim') (call : Call) :
    Lacks { sim with calls := sim.calls ++ [call] }
      { sim' with calls := sim'.calls ++ Call.others [call] } :=
  { lacks with calls := by rw [Call.others_append, lacks.calls] }

/-- A call for chosen devices is refused where they are lacking. -/
theorem Lacks.refused (lacks : Lacks sim sim') {call : Call} {entryPoint : String}
    {body : Native α} (isFor : call.entryPoint.isForDevices = true) :
    Ends (performFor call entryPoint body) sim (fun _ _ => False)
      (fun e after => e = .unsupportedFeature entryPoint ∧ Lacks after sim') := by
  have lacking : sim.config.perDevice = false := by
    rw [lacks.config]
    rfl
  have none : Call.others [call] = [] := by
    simp [Call.others, isFor]
  have recorded := lacks.recorded call
  rw [none, List.append_nil] at recorded
  unfold performFor perform Ends
  dsimp only
  rw [lacks.unset _ isFor]
  change Ends (get >>= _) _ _ _
  rw [ends_bind, ends_get, if_neg (by rw [lacking]; exact Bool.false_ne_true)]
  exact ⟨rfl, recorded⟩

/-- A step cannot tell the two backends apart. -/
def Blind (step : Native α) : Prop :=
  Mirrored Lacks id step step

namespace Blind

/-! ### The parts of a step -/

theorem onStore (step : StoreM α) : Blind (Simulator.onStore step) := by
  intro sim sim' lacks
  unfold Agree
  simp only [ends_onStore]
  rw [lacks.store]
  unfold Ends
  cases step sim'.store with
  | ok a store => exact ⟨rfl, { lacks with store := rfl }⟩
  | error e store => exact ⟨rfl, { lacks with store := rfl }⟩

/-- What is made of the value that a step brings back is the same at both backends. -/
theorem map {first : Native α} (blind : Blind first) (change : α → β) :
    Blind (first >>= fun a => Pure.pure (change a)) :=
  Mirrored.bind blind fun a => .pure (change a)

/-- What is read of a backend is the same at both. -/
theorem read {look : Simulator → α} (same : ∀ sim sim', Lacks sim sim' → look sim = look sim') :
    Blind (do return look (← get)) :=
  Parallel.get_bind fun sim sim' lacks => Parallel.pure (same sim sim' lacks)

theorem modify {change : Simulator → Simulator}
    (kept : ∀ sim sim', Lacks sim sim' → Lacks (change sim) (change sim')) :
    Blind (modify change) :=
  (Parallel.modify kept).imp fun _ _ _ => rfl

/-- A call of another entry point, where the work of the call is blind. -/
theorem perform {call : Call} {body : Native α} (other : call.entryPoint.isForDevices = false)
    (blind : Blind body) : Blind (Simulator.perform call body) := by
  intro sim sim' lacks
  have kept : Call.others [call] = [call] := by
    simp [Call.others, other]
  have recorded := lacks.recorded call
  rw [kept] at recorded
  have same : sim.failures.get? call.entryPoint = sim'.failures.get? call.entryPoint := by
    rw [lacks.failures]
  unfold Agree Ends Simulator.perform
  dsimp only
  rw [← same]
  cases sim.failures.get? call.entryPoint with
  | none => exact blind _ _ recorded
  | some error =>
      refine ⟨rfl, recorded.config, recorded.store, recorded.calls, ?_, recorded.lastOptions, ?_⟩
      · exact congrArg (Ledger.erase · call.entryPoint) lacks.failures
      · intro entryPoint isFor
        rw [Ledger.get?_erase, lacks.unset entryPoint isFor]
        exact ite_self none

theorem wrapImported (data : WrapperData) (native : NativeHandle) (ownsNative : Bool) :
    Blind (Simulator.wrapImported data native ownsNative) := by
  refine Parallel.get_bind fun sim sim' lacks => ?_
  have refs : initialRefs sim.config = initialRefs sim'.config := by
    rw [lacks.config]
    rfl
  dsimp only
  rw [refs]
  exact onStore _

theorem noteOptions (options : Option String) : Blind (Simulator.noteOptions options) :=
  modify fun _ _ lacks => { lacks with lastOptions := rfl }

/-! ### Calls that have work of their own -/

theorem advance (program : ProgramHandle) (stage : Stage) (options : Option String) :
    Blind (Simulator.advance program stage options) :=
  (onStore _).bind fun _ => (noteOptions options).bind fun _ => onStore _

theorem contextCreate (native : NativeHandle) (devices : List DeviceHandle) (ownsNative : Bool) :
    Blind (Simulator.contextCreate native devices ownsNative) :=
  perform rfl ((onStore _).bind fun _ => (onStore _).bind fun _ => wrapImported _ _ _)

theorem queueCreate (native : NativeHandle) (context : ContextHandle)
    (device : Option DeviceHandle) (settings : QueueSettings) :
    Blind (Simulator.queueCreate native context device settings) :=
  perform rfl ((onStore _).bind fun _ => (onStore _).bind fun _ => (onStore _).bind fun _ =>
    wrapImported _ _ _)

theorem eventCreate (native : NativeHandle) (context : ContextHandle) (ownsNative : Bool) :
    Blind (Simulator.eventCreate native context ownsNative) :=
  perform rfl ((onStore _).bind fun _ => (onStore _).bind fun _ => wrapImported _ _ _)

theorem programCreate (native : NativeHandle) (context : ContextHandle) (ownsNative : Bool) :
    Blind (Simulator.programCreate native context ownsNative) :=
  perform rfl ((onStore _).bind fun _ => (onStore _).bind fun _ => wrapImported _ _ _)

theorem programCompile (context : ContextHandle) (program : ProgramHandle)
    (options : Option String) : Blind (Simulator.programCompile context program options) :=
  perform rfl ((onStore _).bind fun _ => advance program .object options)

theorem programBuild (context : ContextHandle) (program : ProgramHandle)
    (options : Option String) : Blind (Simulator.programBuild context program options) :=
  perform rfl ((onStore _).bind fun _ => advance program .executable options)

theorem programLink (context : ContextHandle) (programs : List ProgramHandle)
    (options : Option String) : Blind (Simulator.programLink context programs options) := by
  refine perform rfl ((onStore _).bind fun _ => ?_)
  split
  · exact .throw_bind
  · exact (noteOptions options).bind fun _ => onStore _

theorem checkKernelProgram (native owner : NativeHandle) (program : Option ProgramHandle) :
    Blind (Simulator.checkKernelProgram native owner program) := by
  unfold Simulator.checkKernelProgram
  cases program with
  | some program =>
      refine (onStore _).bind fun behind => ?_
      dsimp only [id]
      split
      · exact .throw _
      · exact .pure ()
  | none =>
      refine Parallel.get_bind fun sim sim' lacks => ?_
      have needs : sim.config.kernelNeedsProgram = sim'.config.kernelNeedsProgram := by
        rw [lacks.config]
        rfl
      rw [needs]
      split
      · exact Mirrored.throw _
      · exact Mirrored.pure ()

theorem kernelCreate (native : NativeHandle) (context : ContextHandle)
    (program : Option ProgramHandle) (ownsNative : Bool) :
    Blind (Simulator.kernelCreate native context program ownsNative) :=
  perform rfl ((onStore _).bind fun _ => (onStore _).bind fun owner =>
    (checkKernelProgram native owner program).bind fun _ => wrapImported _ _ _)

/-- Every call of another entry point is blind; most of them only work on the object store. -/
theorem answer (call : Call) (other : call.entryPoint.isForDevices = false) :
    Blind (Simulator.answer call) := by
  cases call with
  | programCompileFor | programBuildFor | programLinkFor => contradiction
  | contextCreate native devices ownsNative => exact (contextCreate _ _ _).map _
  | queueCreate native context device settings => exact (queueCreate _ _ _ _).map _
  | eventCreate native context ownsNative => exact (eventCreate _ _ _).map _
  | programCreate native context ownsNative => exact (programCreate _ _ _).map _
  | programCompile context program options => exact (programCompile _ _ _).map _
  | programBuild context program options => exact (programBuild _ _ _).map _
  | programLink context programs options => exact (programLink _ _ _).map _
  | kernelCreate native context program ownsNative => exact (kernelCreate _ _ _ _).map _
  | _ => exact (perform rfl (onStore _)).map _

end Blind

end Simulator

end ComputeImport
