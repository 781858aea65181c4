import ComputeImport.Proofs.Simulator.Conservation
import ComputeImport.Proofs.Simulator.Wrapping

/-!
# What programs have been created with

A wrapper is put around one native object when it is made, and a native program has its kernels from
the start.  Neither changes, so that whenever a backend lists the kernels of a program, it lists those
that the program has been created with.
-/

namespace ComputeImport.Simulator

variable {sim : Simulator} {history more : List Operation} {program : ProgramHandle}
  {native : NativeHandle} {names : List String} {id : Nat}

/-! ## Looking back -/

/-- The native object that a wrapper is put around, where it is made in a history. -/
def wrappedNative (id : Nat) (sim : Simulator) : List Operation → Option NativeHandle
  | [] => none
  | operation :: history =>
      match (sim.after operation).store.wrappers.get? id with
      | some wrapper => some wrapper.native
      | none => (sim.after operation).wrappedNative id history

/-- The kernels that a native program is created with, where it is created in a history. -/
def createdKernels (native : NativeHandle) (sim : Simulator) :
    List Operation → Option (List String)
  | [] => none
  | operation :: history =>
      match (sim.after operation).store.natives.get? native with
      | some object => object.data.program?.map ProgramBinary.kernels
      | none => (sim.after operation).createdKernels native history

/-- The kernels that the native program has been created with that a handle is for. -/
def kernelsOf (program : ProgramHandle) (sim : Simulator) (history : List Operation) :
    Option (List String) :=
  (sim.wrappedNative program.id history).bind fun native => sim.createdKernels native history

/-- What has been made is not made again. -/
theorem wrappedNative_append (made : sim.wrappedNative id history = some native) :
    sim.wrappedNative id (history ++ more) = some native := by
  induction history generalizing sim with
  | nil => contradiction
  | cons operation history ih =>
      rw [List.cons_append]
      unfold wrappedNative at made ⊢
      split at made
      · exact made
      · exact ih made

theorem createdKernels_append (created : sim.createdKernels native history = some names) :
    sim.createdKernels native (history ++ more) = some names := by
  induction history generalizing sim with
  | nil => contradiction
  | cons operation history ih =>
      rw [List.cons_append]
      unfold createdKernels at created ⊢
      split at created
      · exact created
      · exact ih created

theorem kernelsOf_append (known : sim.kernelsOf program history = some names) :
    sim.kernelsOf program (history ++ more) = some names := by
  obtain ⟨native, made, created⟩ := Option.bind_eq_some_iff.mp known
  exact Option.bind_eq_some_iff.mpr
    ⟨native, wrappedNative_append made, createdKernels_append created⟩

/-- A live wrapper is around the native object that it was made for. -/
theorem wrappedNative_of_live (formed : sim.store.WellFormed)
    (unused : sim.store.wrappers.get? id = none) {wrapper : Wrapper}
    (live : (sim.replay history).store.wrappers.get? id = some wrapper) :
    sim.wrappedNative id history = some wrapper.native := by
  induction history generalizing sim with
  | nil =>
      rw [show sim.replay [] = sim from rfl, unused] at live
      contradiction
  | cons operation history ih =>
      have formed' := wellFormed_after formed operation
      unfold wrappedNative
      split
      · rename_i first found
        have below := formed'.wrapper_lt id first found
        obtain ⟨refs, known⟩ := wrapper_replay formed' below live
        rw [found] at known
        obtain rfl := Option.some.inj known
        rfl
      · rename_i missing
        exact ih formed' missing live

/-- A live program has the kernels that it was created with. -/
theorem createdKernels_of_live (formed : sim.store.WellFormed)
    (unused : sim.store.natives.get? native = none) {binary : ProgramBinary} {refs : Nat}
    (live : (sim.replay history).store.natives.get? native = some ⟨.program binary, refs⟩) :
    sim.createdKernels native history = some binary.kernels := by
  induction history generalizing sim with
  | nil =>
      rw [show sim.replay [] = sim from rfl, unused] at live
      contradiction
  | cons operation history ih =>
      have formed' := wellFormed_after formed operation
      unfold createdKernels
      split
      · rename_i first found
        have below := formed'.native_lt native first found
        obtain ⟨old, known, becomes⟩ := becomes_replay formed' below live
        obtain rfl := Option.some.inj (found.symm.trans known)
        exact becomes.kernels_eq.symm
      · rename_i missing
        exact ih formed' missing live

/-- What a backend knows of a live program is what it was created with. -/
theorem kernelsOf_of_leads (formed : sim.store.WellFormed) {binary : ProgramBinary}
    (unwrapped : ∀ id, sim.store.wrappers.get? id = none)
    (uncreated : ∀ native, sim.store.natives.get? native = none)
    (leads : (sim.replay history).store.Leads program native binary) :
    sim.kernelsOf program history = some binary.kernels := by
  obtain ⟨⟨wrapper, found, -, rfl⟩, refs, live⟩ := leads
  exact Option.bind_eq_some_iff.mpr ⟨_, wrappedNative_of_live formed (unwrapped _) found,
    createdKernels_of_live formed (uncreated _) live⟩

/-! ## Lists that have been told -/

/-- Whether an operation asks for the kernels of a program. -/
def Operation.asksKernels (program : ProgramHandle) : Operation → Bool
  | .call (.programKernelNames other) => other == program
  | _ => false

/-- How often an operation tells the kernels of a program. -/
def tells (program : ProgramHandle) (sim : Simulator) (operation : Operation) : Nat :=
  if operation.asksKernels program && sim.succeeds operation then 1 else 0

theorem tells_of_not_asks {operation : Operation} (silent : operation.asksKernels program = false) :
    tells program sim operation = 0 := by
  rw [tells, silent]
  rfl

/-- How often the marked operations of a history tell the kernels of a program. -/
def tellings (program : ProgramHandle) (sim : Simulator) : List (Bool × Operation) → Nat
  | [] => 0
  | (isMarked, operation) :: history =>
      (if isMarked then tells program sim operation else 0) +
        (sim.after operation).tellings program history

theorem tellings_concat {history : List (Bool × Operation)} {isMarked : Bool}
    {operation : Operation} :
    sim.tellings program (history ++ [(isMarked, operation)]) = sim.tellings program history +
      if isMarked then tells program (sim.replay (history.map Prod.snd)) operation else 0 := by
  induction history generalizing sim with
  | nil => exact Nat.add_comm _ 0
  | cons first history ih =>
      rw [List.cons_append, tellings, tellings, ih, Nat.add_assoc]
      rfl

/-- Asking for kernels changes nothing, and where it is answered, the program is live and these are
its kernels. -/
theorem ends_programKernelNames :
    Ends (programKernelNames program) sim
      (fun names after => after = sim.after (.call (.programKernelNames program)) ∧
        after.store = sim.store ∧ sim.succeeds (.call (.programKernelNames program)) = true ∧
        ∃ native binary, sim.store.Leads program native binary ∧ names = binary.kernels)
      (fun _ after => after = sim.after (.call (.programKernelNames program)) ∧
        after.store = sim.store ∧
        sim.succeeds (.call (.programKernelNames program)) = false) := by
  have answers : Answers _ (programKernelNames program) sim _ _ := answers_programKernelNames
  have isCall : answer (.programKernelNames program) =
      do return .names (← programKernelNames program) := rfl
  have isAfter : sim.after (.call (.programKernelNames program)) =
      stateAfter (programKernelNames program) sim := by
    rw [after, isCall, stateAfter_bind_pure]
  rw [isAfter, succeeds, isCall, bind_apply, stateAfter]
  unfold Ends
  cases outcome : programKernelNames program sim with
  | ok names after =>
      obtain ⟨-, -, same, found⟩ := Ends.of_ok answers outcome
      exact ⟨rfl, same, rfl, found⟩
  | error e after =>
      obtain ⟨-, ⟨-, same⟩ | ⟨-, same⟩⟩ := Ends.of_error answers outcome
      · exact ⟨rfl, same, rfl⟩
      · exact ⟨rfl, same, rfl⟩

theorem store_after_programKernelNames :
    (sim.after (.call (.programKernelNames program))).store = sim.store := by
  cases outcome : programKernelNames program sim with
  | ok names after =>
      obtain ⟨rfl, same, -⟩ := Ends.of_ok ends_programKernelNames outcome
      exact same
  | error e after =>
      obtain ⟨rfl, same, -⟩ := Ends.of_error ends_programKernelNames outcome
      exact same

end ComputeImport.Simulator
