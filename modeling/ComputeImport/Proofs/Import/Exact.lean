import Mathlib.Data.List.Chain
import ComputeImport.Proofs.Import.Reconciliation
import ComputeImport.Proofs.Import.Unhindered

/-!
# Imports where nothing stands in the way

On a backend that has the entry points for chosen devices, and that has not been told to fail, the
stages at the start say what an import does.  Each device is dealt with at its first occurrence, by
one call and without any effect on the other devices, up to the first one that is past the state
that is asked for.  The invariant says of every device where it stands: where it is planned to be,
if it has been gone through, and else where it was at the start.
-/

namespace ComputeImport

open Simulator

/-! ## What is planned for a device -/

/-- The stage to which a device is taken. -/
def Stage.reached (target : BundleState) (stage : Stage) : Stage :=
  match stage.plan target with
  | .run operation => operation.goal
  | .keep | .mismatch => stage

theorem Stage.reached_of_run {stage : Stage} {target : BundleState} {operation : BuildOperation}
    (planned : stage.plan target = .run operation) : stage.reached target = operation.goal := by
  rw [reached, planned]

theorem Stage.reached_of_keep {stage : Stage} {target : BundleState}
    (planned : stage.plan target = .keep) : stage.reached target = stage := by
  rw [reached, planned]

/-- Nothing has to be done any more at the stage to which a device is taken. -/
theorem Stage.plan_reached {stage : Stage} {target : BundleState}
    (fine : stage.plan target ≠ .mismatch) : (stage.reached target).plan target = .keep := by
  cases planned : stage.plan target with
  | keep =>
      rw [reached_of_keep planned]
      exact planned
  | run operation =>
      rw [reached_of_run planned]
      exact plan_goal planned
  | mismatch => exact absurd planned fine

/-- Devices are past a state only if that state is not the last one. -/
theorem Stage.ne_executable_of_mismatch {stage : Stage} {target : BundleState}
    (planned : stage.plan target = .mismatch) : target ≠ .executable := by
  rintro rfl
  cases stage <;> contradiction

/-- Linking is planned for what has been compiled, on the way to the last state. -/
theorem Stage.plan_eq_link_iff {stage : Stage} {target : BundleState} :
    stage.plan target = .run .link ↔
      target = .executable ∧ (stage = .object ∨ stage = .library) := by
  cases stage <;> cases target <;> decide

theorem length_filter_link {target : BundleState} {binary : ProgramBinary}
    {devices : List NativeHandle} :
    (devices.filter fun device => (binary.stageOf device).plan target = .run .link).length =
      if target = .executable then
        (devices.filter fun device =>
          binary.stageOf device = .object ∨ binary.stageOf device = .library).length
      else 0 := by
  by_cases last : target = .executable <;> simp [Stage.plan_eq_link_iff, last]

/-- The call for one device that does an operation. -/
def Builder.callFor (builder : Builder) (operation : BuildOperation) (program : ProgramHandle)
    (device : DeviceHandle) : Call :=
  match operation with
  | .compile => .programCompileFor program [device] builder.options.compile
  | .build => .programBuildFor program [device] builder.options.compile
  | .link => .programLinkFor builder.context.handle [device] [program] builder.options.link

/-! ## Devices in the order of their first occurrence -/

/-- The devices of a list, each once, apart from those that have been gone through. -/
def unseen (done devices : List NativeHandle) : List NativeHandle :=
  (devices.filter fun device => device ∉ done).eraseDups

section Unseen

variable {done devices : List NativeHandle} {device : NativeHandle}

theorem unseen_none : unseen [] devices = devices.eraseDups := by
  simp [unseen]

/-- A device that has been gone through is passed over. -/
theorem unseen_cons_of_mem (member : device ∈ done) :
    unseen done (device :: devices) = unseen (done ++ [device]) devices := by
  have same : ∀ other, other ∉ done ++ [device] ↔ other ∉ done := by
    intro other
    simp only [List.mem_append, List.mem_singleton, not_or, and_iff_left_iff_imp]
    rintro absent rfl
    exact absent member
  simp only [unseen, same]
  rw [List.filter_cons_of_neg]
  simpa using member

/-- Any other device comes first, and is gone through from then on. -/
theorem unseen_cons_of_not_mem (absent : device ∉ done) :
    unseen done (device :: devices) = device :: unseen (done ++ [device]) devices := by
  rw [unseen, List.filter_cons_of_pos (by simpa using absent), List.eraseDups_cons, unseen,
    List.filter_filter]
  congr 2
  apply List.filter_congr
  intro other _
  by_cases equal : other = device <;> by_cases member : other ∈ done <;> simp [equal, member]

variable {p : NativeHandle → Bool}

theorem filter_unseen_cons_of_neg (cause : device ∈ done ∨ p device = false) :
    (unseen done (device :: devices)).filter p = (unseen (done ++ [device]) devices).filter p := by
  by_cases isDone : device ∈ done
  · rw [unseen_cons_of_mem isDone]
  · rw [unseen_cons_of_not_mem isDone, List.filter_cons_of_neg]
    rw [cause.resolve_left isDone]
    exact Bool.false_ne_true

theorem filter_unseen_cons_of_pos (absent : device ∉ done) (holds : p device = true) :
    (unseen done (device :: devices)).filter p =
      device :: (unseen (done ++ [device]) devices).filter p := by
  rw [unseen_cons_of_not_mem absent, List.filter_cons_of_pos holds]

end Unseen

/-! ## A willing backend -/

/-- The backend has the entry points for chosen devices, no call has been told to fail, and a
context is live. -/
structure Simulator.Willing (sim : Simulator) (context : ContextHandle) : Prop where
  perDevice : sim.config.perDevice = true
  unset : ∀ entryPoint, sim.failures.get? entryPoint = none
  context : sim.store.HasWrapper context
  formed : sim.store.WellFormed

/-- The calls so far that change the stages of a program or make a new one. -/
def Simulator.mutations (sim : Simulator) : List Call :=
  sim.calls.filter fun call => call.entryPoint.mutatesProgram

namespace Simulator

variable {before after : Simulator} {allowed : EntryPoint → Prop} {context : ContextHandle}

theorem Did.willing_of (did : Did allowed before after) (willing : before.Willing context)
    (live : after.store.HasWrapper context) (formed : after.store.WellFormed) :
    after.Willing context := by
  obtain ⟨calls, ran, -⟩ := did
  constructor
  case perDevice =>
    rw [ran.config]
    exact willing.perDevice
  case unset =>
    intro entryPoint
    rw [ran.failures, willing.unset, ite_self]
  case context => exact live
  case formed => exact formed

theorem Did.willing {wraps : ObjectKind → Prop} (did : Did allowed before after)
    (willing : before.Willing context) (grows : Store.Grows wraps before.store after.store) :
    after.Willing context := by
  obtain ⟨wrapper, found, isContext⟩ := willing.context
  have live : after.store.HasWrapper context :=
    ⟨wrapper, grows.get?_wrappers willing.formed found, isContext⟩
  exact did.willing_of willing live (grows.wellFormed willing.formed)

theorem Did.mutations (did : Did allowed before after)
    (harmless : ∀ entryPoint, allowed entryPoint → entryPoint.mutatesProgram = false) :
    after.mutations = before.mutations := by
  rcases did with ⟨calls, ran, all⟩
  have none : (calls.filter fun call => call.entryPoint.mutatesProgram) = [] := by
    rw [List.filter_eq_nil_iff]
    intro call member
    rw [harmless _ (all call member)]
    exact Bool.false_ne_true
  rw [Simulator.mutations, ran.calls, List.filter_append, none, List.append_nil]
  rfl

theorem Recorded.mutations {call : Call} (recorded : Recorded call before after)
    (mutates : call.entryPoint.mutatesProgram = true) :
    after.mutations = before.mutations ++ [call] := by
  simp [Simulator.mutations, recorded.calls, mutates]

end Simulator

/-! ## One call for one device -/

/-- The program at `next`, which may be the same one, has been taken further for one device and
stands as it was for the others. -/
structure Moves (store : Store) (program next : ProgramHandle) (native : NativeHandle)
    (binary : ProgramBinary) (device : NativeHandle) (operation : BuildOperation)
    (after : Store) : Prop where
  grows : Store.Grows (fun kind => kind = .program) store after
  moved : ∃ native' new, after.Leads next native' new ∧
    (∀ device, device ∈ new.devices ↔ device ∈ binary.devices) ∧
    (∀ name, name ∈ new.kernels ↔ name ∈ binary.kernels) ∧
    (∀ other ∈ binary.devices, new.stageOf other =
      if other = device then operation.goal else binary.stageOf other) ∧
    (operation ≠ .link → native' = native)

section Moves

variable {builder : Builder} {target : BundleState} {program : ProgramHandle}
  {native nativeDevice : NativeHandle} {binary : ProgramBinary} {device : DeviceHandle}
  {operation : BuildOperation} {context : ContextHandle} {sim : Simulator}

/-- A device that is planned to be compiled or built is unbuilt. -/
theorem unbuilt_of_planned (member : nativeDevice ∈ binary.devices)
    (planned : (binary.stageOf nativeDevice).plan target = .run operation)
    (other : operation ≠ .link) : binary.Unbuilt [nativeDevice] := by
  intro other' isDevice
  rw [List.mem_singleton.mp isDevice]
  exact ⟨member, Stage.eq_unbuilt planned other⟩

theorem moves_of_advancesFor {store after : Store}
    (standing : Standing store program native binary device nativeDevice)
    (advances : AdvancesFor store program [device] operation.goal after) :
    Moves store program program native binary nativeDevice operation after := by
  have grows : Store.Grows (fun kind => kind = .program) store after :=
    advances.grows standing.formed
  obtain ⟨native', binary', selected, leads, chosen, -, rfl⟩ := advances
  obtain ⟨rfl, rfl⟩ := standing.leads.unique leads
  obtain rfl := forall₂_behind_singleton chosen (standing.formed.behind_device standing.known)
  refine ⟨grows, native, _, leads.reprogrammed _, fun _ => Iff.rfl, fun _ => Iff.rfl, ?_,
    fun _ => rfl⟩
  intro other' _
  rw [ProgramBinary.stageOf_advancedFor]
  simp only [List.mem_singleton]

/-- Every device of its own that is unbuilt is compiled or built for by a willing backend. -/
theorem not_refuses {store : Store}
    (standing : Standing store program native binary device nativeDevice)
    (unbuilt : binary.Unbuilt [nativeDevice]) : ¬ Refuses store program [device] := by
  intro refuses
  have behind := standing.formed.behind_device standing.known
  exact refuses native binary [nativeDevice] standing.leads (.cons behind .nil) unbuilt

theorem ends_compileFor (willing : sim.Willing context)
    (standing : Standing sim.store program native binary device nativeDevice)
    (planned : (binary.stageOf nativeDevice).plan target = .run .compile)
    {options : Option String} :
    Ends (programCompileFor program [device] options) sim
      (fun _ after => Moves sim.store program program native binary nativeDevice .compile
          after.store ∧ Recorded (.programCompileFor program [device] options) sim after)
      (fun _ _ => False) := by
  have unbuilt := unbuilt_of_planned standing.member planned (by decide)
  apply Ends.imp answers_programCompileFor
  · rintro _ after ⟨recorded, -, advances⟩
    have goal : AdvancesFor sim.store program [device] BuildOperation.compile.goal after.store :=
      advances
    exact ⟨moves_of_advancesFor standing goal, recorded⟩
  · rintro e after ⟨-, ⟨injected, -⟩ | ⟨-, -, refuses⟩⟩
    · exact Option.some_ne_none e (injected.symm.trans (willing.unset _))
    · exact not_refuses standing unbuilt (refuses willing.perDevice)

theorem ends_buildFor (willing : sim.Willing context)
    (standing : Standing sim.store program native binary device nativeDevice)
    (planned : (binary.stageOf nativeDevice).plan target = .run .build)
    {options : Option String} :
    Ends (programBuildFor program [device] options) sim
      (fun _ after => Moves sim.store program program native binary nativeDevice .build
          after.store ∧ Recorded (.programBuildFor program [device] options) sim after)
      (fun _ _ => False) := by
  have unbuilt := unbuilt_of_planned standing.member planned (by decide)
  apply Ends.imp answers_programBuildFor
  · rintro _ after ⟨recorded, -, advances⟩
    have goal : AdvancesFor sim.store program [device] BuildOperation.build.goal after.store :=
      advances
    exact ⟨moves_of_advancesFor standing goal, recorded⟩
  · rintro e after ⟨-, ⟨injected, -⟩ | ⟨-, -, refuses⟩⟩
    · exact Option.some_ne_none e (injected.symm.trans (willing.unset _))
    · exact not_refuses standing unbuilt (refuses willing.perDevice)

theorem moves_of_joins {store after : Store}
    (standing : Standing store program native binary device nativeDevice) {linked : ProgramHandle}
    (joins : Joins store (fun output => ∃ native input, store.Leads program native input ∧
      input.Linked (fun device => [nativeDevice].contains device) output) linked after) :
    Moves store program linked native binary nativeDevice .link after := by
  have grows : Store.Grows (fun kind => kind = .program) store after := by
    refine joins.grows ?_ rfl
    rintro output ⟨_, _, -, isLinked⟩
    exact isLinked.isTidy
  obtain ⟨output, ⟨native', input, leads, isLinked⟩, rfl, rfl⟩ := joins
  obtain ⟨rfl, rfl⟩ := standing.leads.unique leads
  refine ⟨grows, ⟨store.nextNative⟩, output, Store.leads_joined output, isLinked.devices,
    isLinked.kernels, ?_, fun other => absurd rfl other⟩
  intro other member
  rw [isLinked.stageOf member]
  by_cases equal : other = nativeDevice <;> simp [equal, BuildOperation.goal]

theorem ends_linkFor (willing : sim.Willing context)
    (standing : Standing sim.store program native binary device nativeDevice)
    (planned : (binary.stageOf nativeDevice).plan target = .run .link)
    {options : Option String} :
    Ends (programLinkFor context [device] [program] options) sim
      (fun linked after => linked = ⟨sim.store.nextWrapper⟩ ∧
        Moves sim.store program linked native binary nativeDevice .link after.store ∧
        Recorded (.programLinkFor context [device] [program] options) sim after)
      (fun _ _ => False) := by
  have behind := standing.formed.behind_device standing.known
  apply Ends.imp answers_programLinkFor_singleton
  · rintro linked after ⟨recorded, -, selected, chosen, joins⟩
    obtain rfl := forall₂_behind_singleton chosen behind
    have fresh : linked = ⟨sim.store.nextWrapper⟩ := by
      obtain ⟨output, -, isNext, -⟩ := joins
      exact isNext
    exact ⟨fresh, moves_of_joins standing joins, recorded⟩
  · rintro e after ⟨-, ⟨injected, -⟩ | ⟨-, -, refused⟩⟩
    · exact Option.some_ne_none e (injected.symm.trans (willing.unset _))
    · apply refused willing.perDevice willing.context (by simp) [nativeDevice]
        (.cons behind .nil) native binary standing.leads
      intro other _ isWanted
      have equal : other = nativeDevice := by simpa using isWanted
      rw [equal, ← Stage.executable_of_link planned]
      exact planned

end Moves

/-! ## One device -/

section Proceeds

variable {builder : Builder} {target : BundleState} {program : ProgramRef}
  {native nativeDevice : NativeHandle} {binary : ProgramBinary} {device : DeviceHandle}
  {host : Host} {α : Type}

/-- Where the first way cannot fail, the second one is not tried. -/
theorem Ends.withoutFallback {operation : BuildOperation} {table : Table} {entryPoint : String}
    {step : Native α} {whole : TableM α} {ok : α → Simulator → Prop}
    (direct : table.delegation = none)
    (ends : Ends step (host.simulator table.simulator) ok fun _ _ => False) :
    Ends (ComputeImport.withFallback operation device (table.callFor entryPoint step) whole) host
      (fun a after => ok a (after.simulator table.simulator)) (fun _ _ => False) := by
  have first : Ends (table.callFor entryPoint step) host _ fun _ _ => False :=
    ends.callFor fun delegates => delegates direct
  have either : Ends (ComputeImport.withFallback operation device (table.callFor entryPoint step)
      whole) host _ fun _ _ => _ ∧ False := Ends.withFallback first fun _ => False.elim
  exact either.imp (fun _ _ ended => ended) fun _ _ ended => ended.2

/-- What dealing with one device comes to: the program that takes the place of the old one, if
there is one, and the backend. -/
inductive Proceeds (builder : Builder) (target : BundleState) (program : ProgramRef)
    (native : NativeHandle) (binary : ProgramBinary) (device : DeviceHandle)
    (nativeDevice : NativeHandle) (before : Simulator) : Option ProgramRef → Simulator → Prop
  | kept {after : Simulator} (planned : (binary.stageOf nativeDevice).plan target = .keep)
      (store : after.store = before.store) (mutations : after.mutations = before.mutations) :
      Proceeds builder target program native binary device nativeDevice before none after
  | moved {after : Simulator} {operation : BuildOperation} (other : operation ≠ .link)
      (planned : (binary.stageOf nativeDevice).plan target = .run operation)
      (moves : Moves before.store program.handle program.handle native binary nativeDevice
        operation after.store)
      (mutations : after.mutations =
        before.mutations ++ [builder.callFor operation program.handle device]) :
      Proceeds builder target program native binary device nativeDevice before none after
  | replaced {after : Simulator}
      (planned : (binary.stageOf nativeDevice).plan target = .run .link)
      (moves : Moves before.store program.handle ⟨before.store.nextWrapper⟩ native binary
        nativeDevice .link after.store)
      (mutations : after.mutations =
        before.mutations ++ [builder.callFor .link program.handle device]) :
      Proceeds builder target program native binary device nativeDevice before
        (some ⟨⟨before.store.nextWrapper⟩, builder.provider⟩) after

theorem ends_discoverWillingly
    (willing : (builder.simulator host).Willing builder.context.handle)
    (standing : Standing (builder.simulator host).store program.handle native binary device
      nativeDevice) :
    Ends (ComputeImport.native (builder.provider.table.call
        (programBinaryType program.handle device))) host
      (fun stage after => stage = binary.stageOf nativeDevice ∧
        (builder.simulator after).store = (builder.simulator host).store ∧
        (builder.simulator after).mutations = (builder.simulator host).mutations ∧
        (builder.simulator after).Willing builder.context.handle)
      (fun _ _ => False) := by
  apply (ends_discover standing).imp
  · rintro stage after ⟨isStage, unchanged, recorded⟩
    have did : Did (fun entryPoint => entryPoint = .programBinaryType) (builder.simulator host)
        (builder.simulator after) := recorded.did rfl
    refine ⟨isStage, unchanged, ?_, ?_⟩
    · apply did.mutations
      rintro _ rfl
      rfl
    · have grows : Store.Grows (fun _ => False) (builder.simulator host).store
          (builder.simulator after).store := by
        rw [unchanged]
        exact .refl _
      exact did.willing willing grows
  · rintro e after ⟨-, injected, -⟩
    exact injected (willing.unset _)

/-- A device is dealt with as its stage says, and that fails only where it is past the state. -/
theorem ends_advanceDeviceWillingly (direct : builder.provider.table.delegation = none)
    (willing : (builder.simulator host).Willing builder.context.handle)
    (standing : Standing (builder.simulator host).store program.handle native binary device
      nativeDevice) :
    Ends (builder.advanceDevice target program device) host
      (fun next after => Proceeds builder target program native binary device nativeDevice
          (builder.simulator host) next (builder.simulator after) ∧
        (builder.simulator after).Willing builder.context.handle)
      (fun e after => (binary.stageOf nativeDevice).plan target = .mismatch ∧
        e = .stateMismatch (binary.stageOf nativeDevice) target ∧
        (builder.simulator after).store = (builder.simulator host).store ∧
        (builder.simulator after).mutations = (builder.simulator host).mutations) := by
  refine ((ends_discoverWillingly willing standing).imp (fun _ _ found => found)
    fun _ _ => False.elim).bind ?_
  rintro stage middle ⟨rfl, unchanged, unmutated, willing'⟩
  rw [ends_bind, ends_notify]
  generalize noted : middle.notify _ = after
  have same : builder.simulator after = builder.simulator middle := by
    rw [← noted]
    rfl
  rw [← unchanged] at standing
  rw [← same] at standing willing' unchanged unmutated
  cases planned : (binary.stageOf nativeDevice).plan target with
  | keep => exact ⟨.kept planned unchanged unmutated, willing'⟩
  | mismatch => exact ⟨rfl, rfl, unchanged, unmutated⟩
  | run operation =>
      have proceeds : ∀ {next : ProgramHandle} (last : Host),
          Moves (builder.simulator after).store program.handle next native binary nativeDevice
              operation (builder.simulator last).store ∧
            Recorded (builder.callFor operation program.handle device) (builder.simulator after)
              (builder.simulator last) →
          Moves (builder.simulator host).store program.handle next native binary nativeDevice
              operation (builder.simulator last).store ∧
            (builder.simulator last).mutations = (builder.simulator host).mutations ++
              [builder.callFor operation program.handle device] ∧
            (builder.simulator last).Willing builder.context.handle := by
        rintro next last ⟨moves, recorded⟩
        have mutates : (builder.callFor operation program.handle device).entryPoint.mutatesProgram =
            true := by
          cases operation <;> rfl
        have did : Did (fun _ => True) (builder.simulator after) (builder.simulator last) :=
          recorded.did trivial
        have willing' := did.willing willing' moves.grows
        rw [unchanged] at moves
        rw [← unmutated]
        exact ⟨moves, recorded.mutations mutates, willing'⟩
      cases operation with
      | compile =>
          have compiles : Ends (builder.compile program.handle device) after _ fun _ _ => False :=
            Ends.withoutFallback direct (ends_compileFor willing' standing planned)
          refine (compiles.imp (fun _ _ ended => ended) fun _ _ => False.elim).bind ?_
          intro _ last ended
          obtain ⟨moves, mutations, willing⟩ := proceeds last ended
          exact ⟨.moved (by decide) planned moves mutations, willing⟩
      | build =>
          have builds : Ends (builder.build program.handle device) after _ fun _ _ => False :=
            Ends.withoutFallback direct (ends_buildFor willing' standing planned)
          refine (builds.imp (fun _ _ ended => ended) fun _ _ => False.elim).bind ?_
          intro _ last ended
          obtain ⟨moves, mutations, willing⟩ := proceeds last ended
          exact ⟨.moved (by decide) planned moves mutations, willing⟩
      | link =>
          have links : Ends (builder.link program.handle device) after _ fun _ _ => False :=
            Ends.withoutFallback direct (ends_linkFor willing' standing planned)
          refine (links.imp (fun _ _ ended => ended) fun _ _ => False.elim).bind ?_
          rintro linked last ⟨fresh, ended⟩
          obtain ⟨moves, mutations, willing⟩ := proceeds last ended
          rw [unchanged] at fresh
          subst fresh
          rw [ends_bind, ends_notify]
          exact ⟨.replaced planned moves mutations, willing⟩

end Proceeds

/-! ## All devices -/

/-- The devices in `done` have been gone through: they are where they were planned to be, and all
others are where they were. -/
structure Underway (builder : Builder) (target : BundleState) (binary : ProgramBinary)
    (done : List NativeHandle) (native : NativeHandle) (current : ProgramRef)
    (sim : Simulator) : Prop where
  willing : sim.Willing builder.context.handle
  own : current.provider = builder.provider
  fine : ∀ device ∈ done, (binary.stageOf device).plan target ≠ .mismatch
  leads : ∃ now, sim.store.Leads current.handle native now ∧
    (∀ device, device ∈ now.devices ↔ device ∈ binary.devices) ∧
    (∀ name, name ∈ now.kernels ↔ name ∈ binary.kernels) ∧
    ∀ device ∈ binary.devices, now.stageOf device =
      if device ∈ done then (binary.stageOf device).reached target else binary.stageOf device

section Underway

variable {builder : Builder} {target : BundleState} {binary now : ProgramBinary}
  {done : List NativeHandle} {native nativeDevice : NativeHandle} {current : ProgramRef}
  {device : DeviceHandle} {before after : Simulator}

/-- A device that has been gone through needs nothing more. -/
theorem keep_of_done (fine : ∀ device ∈ done, (binary.stageOf device).plan target ≠ .mismatch)
    (stages : ∀ device ∈ binary.devices, now.stageOf device =
      if device ∈ done then (binary.stageOf device).reached target else binary.stageOf device)
    (member : nativeDevice ∈ binary.devices) (isDone : nativeDevice ∈ done) :
    (now.stageOf nativeDevice).plan target = .keep := by
  rw [stages nativeDevice member, if_pos isDone]
  exact Stage.plan_reached (fine nativeDevice isDone)

/-- What one device comes to, in terms of where it stood at the start. -/
inductive Underway.Steps (builder : Builder) (target : BundleState) (binary : ProgramBinary)
    (done : List NativeHandle) (current : ProgramRef) (device : DeviceHandle)
    (nativeDevice : NativeHandle) (before : Simulator) : Option ProgramRef → Simulator → Prop
  | passed {after : Simulator}
      (cause : nativeDevice ∈ done ∨ (binary.stageOf nativeDevice).plan target = .keep)
      (mutations : after.mutations = before.mutations) :
      Steps builder target binary done current device nativeDevice before none after
  | moved {after : Simulator} {operation : BuildOperation} (other : operation ≠ .link)
      (first : nativeDevice ∉ done)
      (planned : (binary.stageOf nativeDevice).plan target = .run operation)
      (mutations : after.mutations =
        before.mutations ++ [builder.callFor operation current.handle device]) :
      Steps builder target binary done current device nativeDevice before none after
  | replaced {after : Simulator} (first : nativeDevice ∉ done)
      (planned : (binary.stageOf nativeDevice).plan target = .run .link)
      (mutations : after.mutations =
        before.mutations ++ [builder.callFor .link current.handle device])
      (later : current.handle.id < before.store.nextWrapper) :
      Steps builder target binary done current device nativeDevice before
        (some ⟨⟨before.store.nextWrapper⟩, builder.provider⟩) after

/-- Where a device stands after another one has been gone through. -/
theorem stageOf_append_of_ne {other : NativeHandle} {stage reached : Stage}
    (staged : stage = if other ∈ done then reached else binary.stageOf other)
    (different : other ≠ nativeDevice) :
    stage = if other ∈ done ++ [nativeDevice] then reached else binary.stageOf other := by
  simpa [different] using staged

/-- A device that needs nothing is gone through without a trace. -/
theorem Underway.pass (underway : Underway builder target binary done native current before)
    (willing : after.Willing builder.context.handle) (store : after.store = before.store)
    (cause : nativeDevice ∈ done ∨ (binary.stageOf nativeDevice).plan target = .keep) :
    Underway builder target binary (done ++ [nativeDevice]) native current after := by
  obtain ⟨now, leads, devices, kernels, stages⟩ := underway.leads
  refine ⟨willing, underway.own, ?_, now, ?_, devices, kernels, ?_⟩
  · intro other member
    rcases List.mem_append.mp member with isDone | isLast
    · exact underway.fine other isDone
    · obtain rfl := List.mem_singleton.mp isLast
      rcases cause with isDone | planned
      · exact underway.fine other isDone
      · simp [planned]
  · rw [store]
    exact leads
  · intro other member
    have staged := stages other member
    by_cases equal : other = nativeDevice
    · subst equal
      rw [staged, if_pos (List.mem_append_right done (List.mem_singleton_self other))]
      rcases cause with isDone | planned
      · rw [if_pos isDone]
      · rw [Stage.reached_of_keep planned, ite_self]
    · exact stageOf_append_of_ne staged equal

/-- A device that is taken further has been gone through then, and no other one. -/
theorem Underway.move {next : ProgramHandle} {operation : BuildOperation}
    (underway : Underway builder target binary done native current before)
    (willing : after.Willing builder.context.handle)
    (fresh : nativeDevice ∉ done)
    (planned : (binary.stageOf nativeDevice).plan target = .run operation)
    (moves : ∀ now, before.store.Leads current.handle native now →
      Moves before.store current.handle next native now nativeDevice operation after.store) :
    ∃ native', (operation ≠ .link → native' = native) ∧
      Underway builder target binary (done ++ [nativeDevice]) native' ⟨next, builder.provider⟩
        after := by
  obtain ⟨now, leads, devices, kernels, stages⟩ := underway.leads
  obtain ⟨native', new, leads', devices', kernels', stages', same⟩ := (moves now leads).moved
  refine ⟨native', same, willing, rfl, ?_, new, leads', ?_, ?_, ?_⟩
  · intro other member
    rcases List.mem_append.mp member with isDone | isLast
    · exact underway.fine other isDone
    · obtain rfl := List.mem_singleton.mp isLast
      simp [planned]
  · exact fun other => (devices' other).trans (devices other)
  · exact fun name => (kernels' name).trans (kernels name)
  · intro other member
    rw [stages' other ((devices other).mpr member)]
    by_cases equal : other = nativeDevice
    · subst equal
      simp [Stage.reached_of_run planned]
    · rw [if_neg equal]
      exact stageOf_append_of_ne (stages other member) equal

/-- One more device is gone through, unless it is the first one that is past the state. -/
theorem ends_advanceDevice_underway {host : Host}
    (direct : builder.provider.table.delegation = none)
    (underway : Underway builder target binary done native current (builder.simulator host))
    (known : (builder.simulator host).store.deviceWrappers.get? nativeDevice = some device)
    (member : nativeDevice ∈ binary.devices) :
    Ends (builder.advanceDevice target current device) host
      (fun next after =>
        Underway.Steps builder target binary done current device nativeDevice
            (builder.simulator host) next (builder.simulator after) ∧
          Store.Grows (fun kind => kind = .program) (builder.simulator host).store
            (builder.simulator after).store ∧
          ∃ native', (next = none → native' = native) ∧
            Underway builder target binary (done ++ [nativeDevice]) native' (next.getD current)
              (builder.simulator after))
      (fun e after => nativeDevice ∉ done ∧
        (binary.stageOf nativeDevice).plan target = .mismatch ∧
        e = .stateMismatch (binary.stageOf nativeDevice) target ∧
        (builder.simulator after).store = (builder.simulator host).store ∧
        (builder.simulator after).mutations = (builder.simulator host).mutations) := by
  obtain ⟨now, leads, devices, kernels, stages⟩ := underway.leads
  have standing : Standing (builder.simulator host).store current.handle native now device
      nativeDevice :=
    ⟨underway.willing.formed, leads, known, (devices nativeDevice).mpr member⟩
  have here : nativeDevice ∉ done → now.stageOf nativeDevice = binary.stageOf nativeDevice := by
    intro fresh
    rw [stages nativeDevice member, if_neg fresh]
  -- A device that has been gone through is kept, so any other plan means that it is new.
  have fresh : (now.stageOf nativeDevice).plan target ≠ .keep → nativeDevice ∉ done :=
    fun other isDone => other (keep_of_done underway.fine stages member isDone)
  have same : ∀ now', (builder.simulator host).store.Leads current.handle native now' →
      now' = now := fun now' leads' => (leads'.unique leads).2
  apply (ends_advanceDeviceWillingly direct underway.willing standing).imp
  · rintro next after ⟨proceeds, willing⟩
    cases proceeds with
    | kept planned store mutations =>
        have cause : nativeDevice ∈ done ∨ (binary.stageOf nativeDevice).plan target = .keep := by
          by_cases isDone : nativeDevice ∈ done
          · exact Or.inl isDone
          · rw [here isDone] at planned
            exact Or.inr planned
        refine ⟨.passed cause mutations, ?_, native, fun _ => rfl,
          underway.pass willing store cause⟩
        rw [store]
        exact .refl _
    | @moved _ operation other planned moves mutations =>
        have isNew := fresh (by simp [planned])
        have planned' := planned
        rw [here isNew] at planned'
        obtain ⟨native', isSame, underway'⟩ := underway.move willing isNew planned'
          fun now' leads' => by rw [same now' leads']; exact moves
        refine ⟨.moved other isNew planned' mutations, moves.grows, native',
          fun _ => isSame other, ?_⟩
        have unchanged : current = ⟨current.handle, builder.provider⟩ := by
          rw [← underway.own]
        rw [Option.getD_none, unchanged]
        exact underway'
    | replaced planned moves mutations =>
        have isNew := fresh (by simp [planned])
        have planned' := planned
        rw [here isNew] at planned'
        obtain ⟨native', -, underway'⟩ := underway.move willing isNew planned'
          fun now' leads' => by rw [same now' leads']; exact moves
        obtain ⟨wrapper, found, -⟩ := leads.1
        have later := underway.willing.formed.wrapper_lt _ _ found
        refine ⟨.replaced isNew planned' mutations later, moves.grows, native', ?_, underway'⟩
        rintro ⟨⟩
  · rintro e after ⟨planned, isMismatch, store, mutations⟩
    have isNew := fresh (by simp [planned])
    rw [here isNew] at planned isMismatch
    exact ⟨isNew, planned, isMismatch, store, mutations⟩

end Underway

/-- Whether a call does for a device what is planned for it. -/
def IsPlanned (builder : Builder) (target : BundleState) (binary : ProgramBinary) (store : Store)
    (call : Call) (device : NativeHandle) : Prop :=
  ∃ operation program handle, (binary.stageOf device).plan target = .run operation ∧
    store.deviceWrappers.get? device = some handle ∧
    call = builder.callFor operation program handle

/-- The devices in `first` have been gone through after those in `done`: each of them that was not
where it should be has been dealt with once, by one call, in order, and each link has replaced the
program, which starts out as `current`. -/
structure Progress (builder : Builder) (target : BundleState) (binary : ProgramBinary)
    (done first : List NativeHandle) (native : NativeHandle) (current : ProgramRef)
    (before : Simulator) (replaced : List ProgramRef) (last : ProgramRef)
    (after : Simulator) : Prop where
  grows : Store.Grows (fun kind => kind = .program) before.store after.store
  underway : ∃ native', Underway builder target binary (done ++ first) native' last after ∧
    (target ≠ .executable → native' = native)
  calls : ∃ steps, after.mutations = before.mutations ++ steps ∧
    List.Forall₂ (IsPlanned builder target binary after.store) steps
      ((unseen done first).filter fun device => ((binary.stageOf device).plan target).mutates)
  links : replaced.length =
    ((unseen done first).filter fun device =>
      (binary.stageOf device).plan target = .run .link).length
  head : (replaced ++ [last]).head? = some current
  order : (replaced ++ [last]).Pairwise fun older newer => older.handle.id < newer.handle.id

namespace Progress

variable {builder : Builder} {target : BundleState} {binary : ProgramBinary}
  {done first : List NativeHandle} {native nativeDevice : NativeHandle}
  {current last : ProgramRef} {device : DeviceHandle} {before middle after : Simulator}
  {replaced : List ProgramRef}

theorem nil (underway : Underway builder target binary done native current before) :
    Progress builder target binary done [] native current before [] current before := by
  constructor
  case grows => exact .refl _
  case underway =>
    rw [List.append_nil]
    exact ⟨native, underway, fun _ => rfl⟩
  case calls => exact ⟨[], (List.append_nil _).symm, .nil⟩
  case links => rfl
  case head => rfl
  case order => exact List.pairwise_singleton _ _

/-- A first program is older than the others if it is older than the first of them. -/
theorem pairwise_cons_of_head {oldest : ProgramRef} {programs : List ProgramRef}
    (head : programs.head? = some current) (older : oldest.handle.id < current.handle.id)
    (order : programs.Pairwise fun older newer => older.handle.id < newer.handle.id) :
    (oldest :: programs).Pairwise fun older newer => older.handle.id < newer.handle.id := by
  cases programs with
  | nil => contradiction
  | cons program programs =>
      obtain rfl := Option.some.inj head
      apply List.Pairwise.cons _ order
      intro other member
      rcases List.mem_cons.mp member with rfl | member
      · exact older
      · exact Nat.lt_trans older (List.rel_of_pairwise_cons order member)

/-- The devices that come after one that needs nothing. -/
theorem pass (grows : Store.Grows (fun kind => kind = .program) before.store middle.store)
    (cause : nativeDevice ∈ done ∨ (binary.stageOf nativeDevice).plan target = .keep)
    (mutations : middle.mutations = before.mutations)
    (rest : Progress builder target binary (done ++ [nativeDevice]) first native current middle
      replaced last after) :
    Progress builder target binary done (nativeDevice :: first) native current before replaced
      last after := by
  constructor
  case grows => exact grows.trans rest.grows
  case underway => simpa using rest.underway
  case calls =>
    obtain ⟨steps, made, planned⟩ := rest.calls
    refine ⟨steps, by rw [made, mutations], ?_⟩
    rw [filter_unseen_cons_of_neg]
    · exact planned
    · exact cause.imp_right fun planned => by rw [planned]; rfl
  case links =>
    rw [filter_unseen_cons_of_neg]
    · exact rest.links
    · exact cause.imp_right fun planned => by simp [planned]
  case head => exact rest.head
  case order => exact rest.order

/-- The call for one device, and those for the devices that come after it. -/
theorem calls_cons {operation : BuildOperation} {next : ProgramRef} {native' : NativeHandle}
    (known : before.store.deviceWrappers.get? nativeDevice = some device)
    (grows : Store.Grows (fun kind => kind = .program) before.store middle.store)
    (fresh : nativeDevice ∉ done)
    (planned : (binary.stageOf nativeDevice).plan target = .run operation)
    (mutations : middle.mutations =
      before.mutations ++ [builder.callFor operation current.handle device])
    (rest : Progress builder target binary (done ++ [nativeDevice]) first native' next middle
      replaced last after) :
    ∃ steps, after.mutations = before.mutations ++ steps ∧
      List.Forall₂ (IsPlanned builder target binary after.store) steps
        ((unseen done (nativeDevice :: first)).filter fun device =>
          ((binary.stageOf device).plan target).mutates) := by
  obtain ⟨steps, made, areplanned⟩ := rest.calls
  refine ⟨builder.callFor operation current.handle device :: steps, ?_, ?_⟩
  · rw [made, mutations, List.append_assoc]
    rfl
  · rw [filter_unseen_cons_of_pos fresh (by rw [planned]; rfl)]
    have known' := (grows.trans rest.grows).get?_deviceWrappers known
    exact .cons ⟨operation, current.handle, device, planned, known', rfl⟩ areplanned

/-- A device that is compiled or built for. -/
theorem move {operation : BuildOperation}
    (known : before.store.deviceWrappers.get? nativeDevice = some device)
    (grows : Store.Grows (fun kind => kind = .program) before.store middle.store)
    (other : operation ≠ .link) (fresh : nativeDevice ∉ done)
    (planned : (binary.stageOf nativeDevice).plan target = .run operation)
    (mutations : middle.mutations =
      before.mutations ++ [builder.callFor operation current.handle device])
    (rest : Progress builder target binary (done ++ [nativeDevice]) first native current middle
      replaced last after) :
    Progress builder target binary done (nativeDevice :: first) native current before replaced
      last after := by
  constructor
  case grows => exact grows.trans rest.grows
  case underway => simpa using rest.underway
  case calls => exact calls_cons known grows fresh planned mutations rest
  case links =>
    rw [filter_unseen_cons_of_neg]
    · exact rest.links
    · simp [planned, other]
  case head => exact rest.head
  case order => exact rest.order

/-- A device that is linked for: the program that has been current is replaced. -/
theorem replace {next : ProgramRef} {native' : NativeHandle}
    (known : before.store.deviceWrappers.get? nativeDevice = some device)
    (grows : Store.Grows (fun kind => kind = .program) before.store middle.store)
    (fresh : nativeDevice ∉ done)
    (planned : (binary.stageOf nativeDevice).plan target = .run .link)
    (mutations : middle.mutations =
      before.mutations ++ [builder.callFor .link current.handle device])
    (later : current.handle.id < next.handle.id)
    (rest : Progress builder target binary (done ++ [nativeDevice]) first native' next middle
      replaced last after) :
    Progress builder target binary done (nativeDevice :: first) native current before
      (current :: replaced) last after := by
  constructor
  case grows => exact grows.trans rest.grows
  case underway =>
    obtain ⟨final, underway, -⟩ := rest.underway
    refine ⟨final, by simpa using underway, ?_⟩
    exact fun other => absurd (Stage.executable_of_link planned) other
  case calls => exact calls_cons known grows fresh planned mutations rest
  case links =>
    rw [filter_unseen_cons_of_pos fresh (by simp [planned])]
    simp [rest.links]
  case head => rfl
  case order => exact pairwise_cons_of_head rest.head later rest.order

end Progress

section Advance

variable {builder : Builder} {target : BundleState} {binary : ProgramBinary}

/-- All devices have been gone through. -/
def Completes (builder : Builder) (target : BundleState) (binary : ProgramBinary)
    (done rest : List NativeHandle) (native : NativeHandle) (current : ProgramRef)
    (superseded : List ProgramRef) (before : Simulator) (built : Built) (after : Host) : Prop :=
  ∃ replaced, built.superseded = superseded ++ replaced ∧
    Progress builder target binary done rest native current before replaced built.current
      (builder.simulator after)

/-- The devices have been gone through up to one that is past the state, and all references to
programs have been released then. -/
def Stops (builder : Builder) (target : BundleState) (binary : ProgramBinary)
    (done rest : List NativeHandle) (native : NativeHandle) (current : ProgramRef)
    (superseded : List ProgramRef) (before : Simulator) (e : ImportError) (after : Host) : Prop :=
  ∃ first device others replaced last stopped, rest = first ++ device :: others ∧
    (binary.stageOf device).plan target = .mismatch ∧
    e = .stateMismatch (binary.stageOf device) target ∧
    Progress builder target binary done first native current before replaced last stopped ∧
    ∃ idle, (builder.simulator idle).store = stopped.store ∧
      (builder.simulator idle).mutations = stopped.mutations ∧
      after = releasePrograms (superseded ++ replaced ++ [last]) idle

/-- All devices are gone through, up to the first one that is past the state that is asked for. -/
theorem ends_advanceWillingly {rest done : List NativeHandle} {handles : List DeviceHandle}
    {native : NativeHandle} {current : ProgramRef} {superseded : List ProgramRef} {host : Host}
    (direct : builder.provider.table.delegation = none)
    (underway : Underway builder target binary done native current (builder.simulator host))
    (lists : (builder.simulator host).store.Lists rest handles)
    (members : ∀ device ∈ rest, device ∈ binary.devices) :
    Ends (builder.advance target current superseded handles) host
      (Completes builder target binary done rest native current superseded
        (builder.simulator host))
      (Stops builder target binary done rest native current superseded
        (builder.simulator host)) := by
  induction rest generalizing done handles native current superseded host with
  | nil =>
      cases lists with
      | nil => exact ⟨[], (List.append_nil _).symm, .nil underway⟩
  | cons nativeDevice rest ih =>
      cases lists with
      | @cons _ device _ handles known lists =>
          have member := members nativeDevice List.mem_cons_self
          have step := ends_advanceDevice_underway direct underway known member
          refine Ends.bind (ends_orRelease.mpr (step.imp (fun _ _ ended => ended) ?_)) ?_
          · rintro e after ⟨-, planned, isMismatch, store, mutations⟩
            refine ⟨[], nativeDevice, rest, [], current, builder.simulator host, rfl, planned,
              isMismatch, .nil underway, after, store, mutations, ?_⟩
            rw [List.append_nil]
          rintro next middle ⟨steps, grows, native', unmoved, underway'⟩
          have lists' := Store.Lists.grows lists grows
          have members' : ∀ device ∈ rest, device ∈ binary.devices :=
            fun device found => members device (List.mem_cons_of_mem nativeDevice found)
          -- What the other devices come to, behind what this one has put in front.
          have extend : ∀ {next : ProgramRef} (front : List ProgramRef),
              Underway builder target binary (done ++ [nativeDevice]) native' next
                (builder.simulator middle) →
              (∀ {first replaced last after},
                Progress builder target binary (done ++ [nativeDevice]) first native' next
                  (builder.simulator middle) replaced last after →
                Progress builder target binary done (nativeDevice :: first) native current
                  (builder.simulator host) (front ++ replaced) last after) →
              Ends (builder.advance target next (superseded ++ front) handles) middle
                (Completes builder target binary done (nativeDevice :: rest) native current
                  superseded (builder.simulator host))
                (Stops builder target binary done (nativeDevice :: rest) native current superseded
                  (builder.simulator host)) := by
            intro next front underway further
            apply (ih underway lists' members').imp
            · rintro built after ⟨replaced, isSuperseded, progress⟩
              rw [List.append_assoc] at isSuperseded
              exact ⟨front ++ replaced, isSuperseded, further progress⟩
            · rintro e after ⟨first, device, others, replaced, last, stopped, isRest, planned,
                isMismatch, progress, idle, store, mutations, released⟩
              rw [List.append_assoc superseded] at released
              exact ⟨nativeDevice :: first, device, others, front ++ replaced, last, stopped,
                by rw [isRest]; rfl, planned, isMismatch, further progress, idle, store, mutations,
                released⟩
          cases steps with
          | passed cause mutations =>
              obtain rfl := unmoved rfl
              have ended := extend [] underway' fun progress => progress.pass grows cause mutations
              rw [List.append_nil] at ended
              exact ended
          | moved other fresh planned mutations =>
              obtain rfl := unmoved rfl
              have ended := extend [] underway' fun progress =>
                progress.move known grows other fresh planned mutations
              rw [List.append_nil] at ended
              exact ended
          | replaced fresh planned mutations later =>
              exact extend [current] underway' fun progress =>
                progress.replace known grows fresh planned mutations later

end Advance

/-! ## The whole import -/

section Import

variable {registry : Registry} {handle : NativeHandle} {context : Context}
  {target : BundleState} {backend : Backend} {host : Host} {provider : Provider}
  {binary : ProgramBinary}

theorem EntryPoint.Prepares.harmless (entryPoint : EntryPoint) (prepares : entryPoint.Prepares) :
    entryPoint.mutatesProgram = false := by
  rcases prepares with rfl | rfl | rfl | rfl | rfl <;> rfl

/-- Releasing the wrapper of a program that belongs to somebody else leaves all native objects and
the wrappers of devices as they are. -/
theorem kept_of_release {program : ProgramHandle} {sim : Simulator} {found : Wrapper}
    (live : sim.store.wrappers.get? program.id = some found) (borrowed : found.ownsNative = false) :
    (sim.after (.call (.programRelease program))).store.natives = sim.store.natives ∧
      (sim.after (.call (.programRelease program))).store.deviceWrappers =
        sim.store.deviceWrappers := by
  let kept (store : Store) : Prop :=
    store.natives = sim.store.natives ∧ store.deviceWrappers = sim.store.deviceWrappers
  have start : kept sim.store := ⟨rfl, rfl⟩
  have same : ∀ {wrapper : Wrapper} {store : Store},
      sim.store.wrappers.get? program.id = some wrapper →
      sim.store.Released program.id wrapper store → kept store := by
    rintro wrapper store live' (last | another)
    · obtain rfl := Option.some.inj (live.symm.trans live')
      simp [kept, Store.discarded, borrowed, Store.unwrapped]
    · exact ⟨rfl, rfl⟩
  have keeps : Ends (answer (.programRelease program)) sim (fun _ after => kept after.store)
      (fun _ after => kept after.store) := by
    refine (answers_released rfl).keeps start ?_ ?_
    · rintro _ store ⟨wrapper, live', -, released⟩
      exact same live' released
    · rintro _ store (⟨equal, -⟩ | ⟨wrapper, live', -, ⟨-, equal, -⟩ | ⟨released, -⟩⟩)
      · exact equal ▸ start
      · exact equal ▸ start
      · exact same live' released
  exact ends_stateAfter.mp keeps

theorem kept_of_releasePrograms {builder : Builder} {program : ProgramHandle} {idle : Host}
    {found : Wrapper}
    (live : (builder.simulator idle).store.wrappers.get? program.id = some found)
    (borrowed : found.ownsNative = false) :
    let after := releasePrograms [⟨program, builder.provider⟩] idle
    (builder.simulator after).store.natives = (builder.simulator idle).store.natives ∧
      (builder.simulator after).store.deviceWrappers =
        (builder.simulator idle).store.deviceWrappers ∧
      Did EntryPoint.Prepares (builder.simulator idle) (builder.simulator after) := by
  have ended : builder.simulator (releasePrograms [⟨program, builder.provider⟩] idle) =
      (builder.simulator idle).after (.call (.programRelease program)) :=
    (ProgramRef.simulator_release _ idle _).trans (if_pos rfl)
  obtain ⟨natives, deviceWrappers⟩ := kept_of_release live borrowed
  have recorded : Recorded (.programRelease program) (builder.simulator idle)
      ((builder.simulator idle).after (.call (.programRelease program))) := recorded_answer _
  intro after
  rw [ended]
  exact ⟨natives, deviceWrappers, recorded.did (Or.inr (Or.inr (Or.inl rfl)))⟩

/-- Before the program is taken further, nothing has gone wrong. -/
structure Prepared (builder : Builder) (before : Simulator) (binary : ProgramBinary)
    (handle : NativeHandle) (wrapper : ProgramHandle) (after : Simulator) : Prop where
  enters : before.store.Enters handle binary false wrapper after.store
  willing : after.Willing builder.context.handle
  mutations : after.mutations = before.mutations

namespace Prepared

variable {builder : Builder} {before after : Simulator} {wrapper : ProgramHandle}

theorem of_did (did : Did EntryPoint.Prepares before after)
    (willing : before.Willing builder.context.handle)
    (enters : before.store.Enters handle binary false wrapper after.store) :
    Prepared builder before binary handle wrapper after :=
  ⟨enters, did.willing_of willing (enters.hasWrapper willing.context) enters.wellFormed,
    did.mutations EntryPoint.Prepares.harmless⟩

/-- No device has been gone through yet. -/
theorem underway (prepared : Prepared builder before binary handle wrapper after) :
    Underway builder target binary [] handle ⟨wrapper, builder.provider⟩ after := by
  refine ⟨prepared.willing, rfl, ?_, binary, prepared.enters.leads, fun _ => Iff.rfl,
    fun _ => Iff.rfl, ?_⟩
  · exact fun device member => absurd member List.not_mem_nil
  · exact fun device _ => (if_neg List.not_mem_nil).symm

end Prepared

/-- What is known of an import that has brought a bundle back: every device could be taken to the
state, each one that was not there has been dealt with by one call at its first occurrence, and
every link has left the program behind that it has replaced. -/
structure ImportedExactly (builder : Builder) (target : BundleState) (binary : ProgramBinary)
    (before : Simulator) (bundle : KernelBundle) (image : DeviceImage) (after : Simulator) :
    Prop where
  images : bundle.images = [image]
  fine : ∀ device ∈ binary.devices, (binary.stageOf device).plan target ≠ .mismatch
  calls : ∃ steps, after.mutations = before.mutations ++ steps ∧
    List.Forall₂ (IsPlanned builder target binary after.store) steps
      (binary.devices.eraseDups.filter fun device =>
        ((binary.stageOf device).plan target).mutates)
  links : image.superseded.length =
    if target = .executable then
      (binary.devices.eraseDups.filter fun device =>
        binary.stageOf device = .object ∨ binary.stageOf device = .library).length
    else 0
  head : (image.superseded ++ [image.program]).head? =
    some ⟨⟨before.store.nextWrapper⟩, builder.provider⟩
  order : (image.superseded ++ [image.program]).Pairwise fun older newer =>
    older.handle.id < newer.handle.id

/-- What is known of an import that has failed: the devices before the first one that is past the
state have been taken to it, by one call each, and the others are where they were. -/
structure HaltedExactly (builder : Builder) (target : BundleState) (binary : ProgramBinary)
    (handle : NativeHandle) (before : Simulator) (first : List NativeHandle)
    (device : NativeHandle) (e : ImportError) (after : Simulator) : Prop where
  fine : ∀ device ∈ first, (binary.stageOf device).plan target ≠ .mismatch
  mismatch : (binary.stageOf device).plan target = .mismatch
  error : e = .stateMismatch (binary.stageOf device) target
  calls : ∃ steps, after.mutations = before.mutations ++ steps ∧
    List.Forall₂ (IsPlanned builder target binary after.store) steps
      (first.eraseDups.filter fun device => ((binary.stageOf device).plan target).mutates)
  program : ∃ now, after.program? handle = some now ∧
    (∀ device, device ∈ now.devices ↔ device ∈ binary.devices) ∧
    (∀ name, name ∈ now.kernels ↔ name ∈ binary.kernels) ∧
    ∀ device ∈ binary.devices, now.stageOf device =
      if device ∈ first then (binary.stageOf device).reached target else binary.stageOf device

theorem halts_of_stops {builder : Builder} {before : Simulator} {wrapper : ProgramHandle}
    {middle : Simulator} {e : ImportError} {after : Host}
    (prepared : Prepared builder before binary handle wrapper middle)
    (stops : Stops builder target binary [] binary.devices handle ⟨wrapper, builder.provider⟩ []
      middle e after) :
    ∃ first device others, binary.devices = first ++ device :: others ∧
      HaltedExactly builder target binary handle before first device e
        (builder.simulator after) := by
  obtain ⟨first, device, others, replaced, last, stopped, split, planned, isMismatch, progress, idle,
    store, mutations, released⟩ := stops
  refine ⟨first, device, others, split, ?_⟩
  have target_ne := Stage.ne_executable_of_mismatch planned
  -- Without links the imported program is still the current one.
  have unlinked : replaced = [] := by
    apply List.length_eq_zero_iff.mp
    rw [progress.links, List.length_eq_zero_iff, List.filter_eq_nil_iff]
    intro other _ isLink
    exact target_ne (Stage.executable_of_link (of_decide_eq_true isLink))
  subst unlinked
  obtain rfl : last = ⟨wrapper, builder.provider⟩ := Option.some.inj progress.head
  obtain ⟨native, underway, same⟩ := progress.underway
  obtain rfl := same target_ne
  obtain ⟨now, ⟨-, refs, found⟩, devices, kernels, stages⟩ := underway.leads
  obtain ⟨record, live, borrowed⟩ := prepared.enters.owns
  have live' := progress.grows.get?_wrappers prepared.enters.wellFormed live
  rw [← store] at live'
  obtain ⟨natives, deviceWrappers, did⟩ := kept_of_releasePrograms live' borrowed
  change after = releasePrograms [⟨wrapper, builder.provider⟩] idle at released
  rw [← released] at natives deviceWrappers did
  rw [store] at natives deviceWrappers
  constructor
  case fine => exact underway.fine
  case mismatch => exact planned
  case error => exact isMismatch
  case calls =>
    obtain ⟨steps, made, arePlanned⟩ := progress.calls
    rw [unseen_none] at arePlanned
    refine ⟨steps, ?_, arePlanned.imp ?_⟩
    · rw [did.mutations EntryPoint.Prepares.harmless, mutations, made, prepared.mutations]
    · rintro call device ⟨operation, program, handle, isRun, known, isCall⟩
      rw [← deviceWrappers] at known
      exact ⟨operation, program, handle, isRun, known, isCall⟩
  case program =>
    refine ⟨now, program?_eq_some.mpr ⟨refs, ?_⟩, devices, kernels, stages⟩
    rw [natives]
    exact found

/-- An import that has everything it needs fails only where a device is past the state. -/
theorem ends_importProgramWillingly (resolved : registry.provider? backend = some provider)
    (direct : provider.table.delegation = none)
    (willing : (host.simulator provider.table.simulator).Willing context.handle)
    (known : (host.simulator provider.table.simulator).program? handle = some binary)
    (few : binary.devices.length < UInt32.size)
    (live : ∀ device ∈ binary.devices, ∃ platform refs,
      (host.simulator provider.table.simulator).store.natives.get? device =
        some ⟨.device platform, refs⟩ ∧
      (host.simulator provider.table.simulator).store.HasNative .platform platform) :
    Ends (importProgram registry handle context true target backend) host
      (fun bundle after => ∃ image,
        ImportedExactly ⟨provider, context, registry.options⟩ target binary
          (host.simulator provider.table.simulator) bundle image
          (after.simulator provider.table.simulator))
      (fun e after => ∃ first device others, binary.devices = first ++ device :: others ∧
        HaltedExactly ⟨provider, context, registry.options⟩ target binary handle
          (host.simulator provider.table.simulator) first device e
          (after.simulator provider.table.simulator)) := by
  let builder : Builder := ⟨provider, context, registry.options⟩
  let before := host.simulator provider.table.simulator
  let completed (built : Built) (advanced : Simulator) : Prop :=
    ∃ wrapper middle, Prepared builder before binary handle wrapper middle ∧
      Progress builder target binary [] binary.devices handle ⟨wrapper, provider⟩ middle
        built.superseded built.current advanced
  let halted (e : ImportError) (after : Simulator) : Prop :=
    ∃ first device others, binary.devices = first ++ device :: others ∧
      HaltedExactly builder target binary handle before first device e after
  have unhindered : before.Unhindered context.handle :=
    ⟨willing.unset, willing.context, willing.formed⟩
  refine (ends_importProgram_of_advance completed halted rfl resolved direct unhindered known few
    live ?_).imp ?_ fun _ _ ended => ended
  · intro wrapper handles ready did enters lists
    have prepared : Prepared builder before binary handle wrapper (builder.simulator ready) :=
      .of_did did willing enters
    have members : ∀ device ∈ binary.devices, device ∈ binary.devices := fun _ member => member
    refine (ends_advanceWillingly direct prepared.underway lists members).imp ?_ ?_
    · rintro built advanced ⟨replaced, isSuperseded, progress⟩
      obtain rfl : built.superseded = replaced := isSuperseded
      obtain ⟨native, underway, -⟩ := progress.underway
      exact ⟨progress.grows, underway.willing.unset _, wrapper, _, prepared, progress⟩
    · exact fun e after stops => halts_of_stops prepared stops
  rintro bundle after ⟨image, advanced, images, ⟨wrapper, middle, prepared, progress⟩, quiet, did⟩
  obtain ⟨native, underway, -⟩ := progress.underway
  refine ⟨image, ?_⟩
  constructor
  case images => exact images
  case fine => exact underway.fine
  case calls =>
    obtain ⟨steps, made, arePlanned⟩ := progress.calls
    rw [unseen_none] at arePlanned
    have harmless : (after.simulator provider.table.simulator).mutations = advanced.mutations :=
      did.mutations (by rintro _ rfl; rfl)
    refine ⟨steps, harmless.trans (made.trans (by rw [prepared.mutations])), arePlanned.imp ?_⟩
    rintro call device ⟨operation, program, handle, isRun, known, isCall⟩
    have known' := quiet.grows.get?_deviceWrappers known
    exact ⟨operation, program, handle, isRun, known', isCall⟩
  case links => rw [progress.links, unseen_none, length_filter_link]
  case head =>
    rw [← prepared.enters.first]
    exact progress.head
  case order => exact progress.order

/-- In every session, an import of a live program that stays the caller's and whose devices can be
counted in 32 bits, through a table that gives access to all entry points of a backend that has
those for chosen devices and has not been told to fail, brings a bundle back exactly when no device
is past the state that is asked for.  What calls it makes and which programs it leaves behind, and
where it stops otherwise, is said by the stages of the program at the start. -/
theorem importProgram_exact {session : Session} (reachable : session.Reachable)
    (resolved : registry.provider? backend = some provider)
    (direct : provider.table.delegation = none)
    (perDevice : (session.host.simulator provider.table.simulator).config.perDevice = true)
    (unset : ∀ entryPoint,
      (session.host.simulator provider.table.simulator).failures.get? entryPoint = none)
    (liveContext :
      (session.host.simulator provider.table.simulator).store.HasWrapper context.handle)
    (known : (session.host.simulator provider.table.simulator).program? handle = some binary)
    (few : binary.devices.length < UInt32.size)
    (liveDevices : ∀ device ∈ binary.devices, ∃ platform refs,
      (session.host.simulator provider.table.simulator).store.natives.get? device =
        some ⟨.device platform, refs⟩ ∧
      (session.host.simulator provider.table.simulator).store.HasNative .platform platform) :
    ((∃ bundle after, importProgram registry handle context true target backend session.host =
        .ok bundle after) ↔
      ∀ device ∈ binary.devices, (binary.stageOf device).plan target ≠ .mismatch) ∧
    (∀ bundle after,
      importProgram registry handle context true target backend session.host =
        .ok bundle after →
      ∃ image, ImportedExactly ⟨provider, context, registry.options⟩ target binary
        (session.host.simulator provider.table.simulator) bundle image
        (after.simulator provider.table.simulator)) ∧
    ∀ e after,
      importProgram registry handle context true target backend session.host =
        .error e after →
      ∃ first device others, binary.devices = first ++ device :: others ∧
        HaltedExactly ⟨provider, context, registry.options⟩ target binary handle
          (session.host.simulator provider.table.simulator) first device e
          (after.simulator provider.table.simulator) := by
  have willing : (session.host.simulator provider.table.simulator).Willing context.handle :=
    ⟨perDevice, unset, liveContext, reachable.wellFormed _⟩
  have ends : Ends (importProgram registry handle context true target backend) session.host _ _ :=
    ends_importProgramWillingly resolved direct willing known few liveDevices
  refine ⟨⟨?_, ?_⟩, fun bundle after => ends.of_ok, fun e after => ends.of_error⟩
  · rintro ⟨bundle, after, outcome⟩
    obtain ⟨image, imported⟩ := ends.of_ok outcome
    exact imported.fine
  · intro fine
    cases outcome : importProgram registry handle context true target backend session.host with
    | ok bundle after => exact ⟨bundle, after, rfl⟩
    | error e after =>
        obtain ⟨first, device, others, split, halted⟩ := ends.of_error outcome
        refine absurd halted.mismatch (fine device ?_)
        rw [split]
        exact List.mem_append_right first List.mem_cons_self

/-- A session with a program that has been compiled for one device, which it lists twice, and is a
library for the other. -/
def Session.mixed : Session :=
  sample .cuda [⟨4097⟩, ⟨4098⟩, ⟨4097⟩] .object
    [⟨.caller 0 (.setStage ⟨4100⟩ ⟨4098⟩ .library), none⟩]

/-- The program of that session. -/
def ProgramBinary.mixed : ProgramBinary :=
  ⟨[⟨4097⟩, ⟨4098⟩, ⟨4097⟩], ⟨[(⟨4097⟩, .object), (⟨4098⟩, .library)]⟩, ["axpy"]⟩

theorem importProgram_exact_mixed :
    ∃ bundle after, importProgram .sample ⟨4100⟩ .sample true .executable .cuda
      Session.mixed.host = .ok bundle after := by
  have reachable : Session.mixed.Reachable := Session.sample_reachable
  have resolved : Registry.sample.provider? .cuda = some .sample := by decide
  have perDevice : (Session.mixed.host.simulator Provider.sample.table.simulator).config.perDevice =
      true := by decide +kernel
  have failures : (Session.mixed.host.simulator Provider.sample.table.simulator).failures = {} := by
    decide +kernel
  have context :
      (Session.mixed.host.simulator Provider.sample.table.simulator).store.wrappers.get? 1 =
        some ⟨.context, ⟨4099⟩, 1, false⟩ := by decide +kernel
  have known : (Session.mixed.host.simulator Provider.sample.table.simulator).program? ⟨4100⟩ =
      some .mixed := by decide +kernel
  have device : ∀ device ∈ ProgramBinary.mixed.devices,
      (Session.mixed.host.simulator Provider.sample.table.simulator).store.natives.get? device =
        some ⟨.device ⟨4096⟩, 1⟩ := by decide +kernel
  have platform :
      (Session.mixed.host.simulator Provider.sample.table.simulator).store.natives.get? ⟨4096⟩ =
        some ⟨.platform .cuda, 1⟩ := by decide +kernel
  have few : ProgramBinary.mixed.devices.length < UInt32.size := by decide
  have fine : ∀ device ∈ ProgramBinary.mixed.devices,
      (ProgramBinary.mixed.stageOf device).plan .executable ≠ .mismatch := by decide
  refine (importProgram_exact reachable resolved rfl perDevice ?_ ?_ known few ?_).1.mpr fine
  · intro entryPoint
    rw [failures]
    exact Ledger.get?_empty entryPoint
  · exact ⟨_, context, rfl⟩
  · intro other member
    exact ⟨⟨4096⟩, 1, device other member, _, platform, rfl⟩

end Import

end ComputeImport
