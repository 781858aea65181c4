import ComputeImport.Proofs.Store.Programs

/-!
# Programs on the way to a state

A device is settled when nothing has to be done about it any more.  Whatever entry point does the
planned work for a device, that device is settled afterwards, and those that were settled before
stay so, whether the work is done for the one device or for the whole program.
-/

namespace ComputeImport

/-- The stage that an operation leads to. -/
def BuildOperation.goal : BuildOperation → Stage
  | compile => .object
  | build | link => .executable

namespace Stage

variable {stage : Stage} {target : BundleState} {operation : BuildOperation}

theorem plan_goal (planned : stage.plan target = .run operation) :
    operation.goal.plan target = .keep := by
  cases stage <;> cases target <;> cases planned <;> rfl

/-- Only what is unbuilt is compiled or built. -/
theorem eq_unbuilt (planned : stage.plan target = .run operation) (other : operation ≠ .link) :
    stage = .unbuilt := by
  cases stage <;> cases target <;> cases planned <;> first | rfl | exact absurd rfl other

theorem executable_of_link (planned : stage.plan target = .run .link) : target = .executable := by
  cases stage <;> cases target <;> cases planned <;> rfl

end Stage

namespace ProgramBinary

variable {target : BundleState} {device : NativeHandle} {binary new later : ProgramBinary}
  {operation : BuildOperation}

/-- Nothing has to be done about a device any more. -/
def Settled (binary : ProgramBinary) (target : BundleState) (device : NativeHandle) : Prop :=
  (binary.stageOf device).plan target = .keep

/-- A program is for the same devices and has the same kernels, and its settled devices stay
settled. -/
structure Follows (target : BundleState) (binary new : ProgramBinary) : Prop where
  devices : ∀ device, device ∈ new.devices ↔ device ∈ binary.devices
  kernels : ∀ name, name ∈ new.kernels ↔ name ∈ binary.kernels
  settled : ∀ device ∈ binary.devices, binary.Settled target device → new.Settled target device

theorem Follows.refl (binary : ProgramBinary) : Follows target binary binary :=
  ⟨fun _ => Iff.rfl, fun _ => Iff.rfl, fun _ _ settled => settled⟩

theorem Follows.trans (first : Follows target binary new) (second : Follows target new later) :
    Follows target binary later := by
  constructor
  case devices => exact fun device => (second.devices device).trans (first.devices device)
  case kernels => exact fun name => (second.kernels name).trans (first.kernels name)
  case settled =>
    intro device member settled
    exact second.settled device ((first.devices device).mpr member)
      (first.settled device member settled)

theorem stageOf_eq {stage : Stage} (known : binary.stages.get? device = some stage) :
    binary.stageOf device = stage := by
  rw [stageOf, known]
  rfl

theorem stageOf_advancedFor (selected : List NativeHandle) (stage : Stage) :
    (binary.advancedFor selected stage).stageOf device =
      if device ∈ selected then stage else binary.stageOf device := by
  rw [stageOf, get?_advancedFor]
  split <;> rfl

/-- Work for a device alone settles it. -/
theorem settles_advancedFor (planned : (binary.stageOf device).plan target = .run operation) :
    Follows target binary (binary.advancedFor [device] operation.goal) ∧
      (binary.advancedFor [device] operation.goal).Settled target device := by
  have here : (binary.advancedFor [device] operation.goal).Settled target device := by
    rw [Settled, stageOf_advancedFor, if_pos (List.mem_singleton_self device)]
    exact Stage.plan_goal planned
  refine ⟨⟨fun _ => Iff.rfl, fun _ => Iff.rfl, ?_⟩, here⟩
  intro other _ settled
  by_cases equal : other = device
  · exact equal ▸ here
  · rw [Settled, stageOf_advancedFor, if_neg (mt List.mem_singleton.mp equal)]
    exact settled

theorem stageOf_advanced (tidy : binary.IsTidy) (member : device ∈ binary.devices)
    (stage : Stage) : (binary.advanced stage).stageOf device =
      if binary.stageOf device = .unbuilt then stage else binary.stageOf device := by
  apply stageOf_eq
  rw [get?_advanced, tidy.stage_known member]
  rfl

/-- Work for the whole program settles the device that it is done for. -/
theorem settles_advanced (tidy : binary.IsTidy) (member : device ∈ binary.devices)
    (planned : (binary.stageOf device).plan target = .run operation) (other : operation ≠ .link) :
    Follows target binary (binary.advanced operation.goal) ∧
      (binary.advanced operation.goal).Settled target device := by
  refine ⟨⟨fun _ => Iff.rfl, fun _ => Iff.rfl, ?_⟩, ?_⟩
  · intro device member settled
    rw [Settled, stageOf_advanced tidy member]
    split
    · exact Stage.plan_goal planned
    · exact settled
  · rw [Settled, stageOf_advanced tidy member, if_pos (Stage.eq_unbuilt planned other)]
    exact Stage.plan_goal planned

/-- A link settles every device that it is done for. -/
theorem settles_linked {wanted : NativeHandle → Bool} (linked : Linked wanted binary new)
    (member : device ∈ binary.devices) (isWanted : wanted device = true)
    (planned : (binary.stageOf device).plan target = .run .link) :
    Follows target binary new ∧ new.Settled target device := by
  have executable := Stage.executable_of_link planned
  have settled : ∀ other ∈ binary.devices,
      wanted other = true ∨ binary.Settled target other → new.Settled target other := by
    intro other member found
    rw [Settled, linked.stageOf member]
    by_cases isWanted : wanted other = true
    · rw [if_pos isWanted, executable]
      rfl
    · rw [if_neg isWanted]
      exact found.resolve_left isWanted
  refine ⟨⟨linked.devices, linked.kernels, ?_⟩, settled device member (Or.inl isWanted)⟩
  exact fun other member found => settled other member (Or.inr found)

end ProgramBinary

end ComputeImport
