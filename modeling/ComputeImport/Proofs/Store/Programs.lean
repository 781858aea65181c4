import ComputeImport.Proofs.Store.Steps

/-!
# Programs in an object store

What compiling, building and linking make of the stages of a program, and where the steps end that
read and write programs.  An operation for chosen devices sets their stages and no others, one for
the whole program takes every unbuilt device further, and a link makes a program for the same
devices with the same kernels.
-/

namespace ComputeImport

/-! ## Stages after an operation -/

/-- Setting one value for several keys is seen at those keys and nowhere else. -/
theorem Ledger.get?_foldl_set {κ α : Type} [DecidableEq κ] (keys : List κ) (value : α)
    (ledger : Ledger κ α) (other : κ) :
    (keys.foldl (fun ledger key => ledger.set key value) ledger).get? other =
      if other ∈ keys then some value else ledger.get? other := by
  induction keys generalizing ledger with
  | nil => simp
  | cons key keys ih =>
      rw [List.foldl_cons, ih, Ledger.get?_set]
      by_cases member : other ∈ keys
      · rw [if_pos member, if_pos (List.mem_cons_of_mem key member)]
      · by_cases equal : key = other
        · subst equal
          simp
        · simp [member, equal, Ne.symm equal]

namespace ProgramBinary

/-- A program after an operation for chosen devices. -/
def advancedFor (binary : ProgramBinary) (selected : List NativeHandle) (stage : Stage) :
    ProgramBinary :=
  { binary with
      stages := selected.foldl (fun stages device => stages.set device stage) binary.stages }

/-- A program after an operation for all its devices. -/
def advanced (binary : ProgramBinary) (stage : Stage) : ProgramBinary :=
  { binary with stages := binary.stages.mapValues fun old => if old = .unbuilt then stage else old }

theorem get?_advancedFor (binary : ProgramBinary) (selected : List NativeHandle) (stage : Stage)
    (device : NativeHandle) :
    (binary.advancedFor selected stage).stages.get? device =
      if device ∈ selected then some stage else binary.stages.get? device :=
  Ledger.get?_foldl_set selected stage binary.stages device

theorem get?_advanced (binary : ProgramBinary) (stage : Stage) (device : NativeHandle) :
    (binary.advanced stage).stages.get? device =
      (binary.stages.get? device).map fun old => if old = .unbuilt then stage else old :=
  Ledger.get?_mapValues binary.stages _ device

/-- Whether the devices that are chosen have all been left unbuilt. -/
def Unbuilt (binary : ProgramBinary) (selected : List NativeHandle) : Prop :=
  ∀ device ∈ selected, device ∈ binary.devices ∧ binary.stageOf device = .unbuilt

/-- A link of one program for the wanted devices, which leaves the other ones at their stages. -/
structure Linked (wanted : NativeHandle → Bool) (input output : ProgramBinary) : Prop where
  devices : ∀ device, device ∈ output.devices ↔ device ∈ input.devices
  kernels : ∀ name, name ∈ output.kernels ↔ name ∈ input.kernels
  stages : ∀ device, output.stages.get? device =
    if device ∈ input.devices then
      some (if wanted device then .executable else input.stageOf device)
    else none

/-- Whether every wanted device stands at a stage that can be linked. -/
def Linkable (wanted : NativeHandle → Bool) (input : ProgramBinary) : Prop :=
  ∀ device ∈ input.devices, wanted device = true →
    (input.stageOf device).plan .executable = .run .link

theorem isTidy_uniform (devices : List NativeHandle) (stage : Stage) (kernels : List String) :
    (uniform devices stage kernels).IsTidy := by
  intro device
  rw [Ledger.contains, uniform, Ledger.get?_foldl_set]
  by_cases member : device ∈ devices <;> simp [member]

theorem IsTidy.stage_known {binary : ProgramBinary} (tidy : binary.IsTidy) {device : NativeHandle}
    (member : device ∈ binary.devices) :
    binary.stages.get? device = some (binary.stageOf device) := by
  have known := (tidy device).mpr member
  rw [Ledger.contains, Option.isSome_iff_exists] at known
  rcases known with ⟨stage, found⟩
  rw [stageOf, found]
  rfl

end ProgramBinary

namespace Simulator

variable {wanted : NativeHandle → Bool} {input linked output : ProgramBinary}
  {devices : List NativeHandle}

/-! ## Links -/

theorem linkedStage_eq_ok {device : NativeHandle} {stage after : Stage}
    (done : linkedStage wanted device stage = .ok after) :
    after = if wanted device then .executable else stage := by
  unfold linkedStage at done
  split at done
  · rename_i isWanted
    rw [if_pos isWanted]
    cases stage <;> cases done <;> rfl
  · rename_i unwanted
    rw [if_neg unwanted]
    cases done
    rfl

/-- Only what can be linked is linked, where that is wanted. -/
theorem plan_of_linkedStage {device : NativeHandle} {stage after : Stage}
    (done : linkedStage wanted device stage = .ok after) (isWanted : wanted device = true) :
    stage.plan .executable = .run .link := by
  unfold linkedStage at done
  rw [if_pos isWanted] at done
  cases stage with
  | object | library => rfl
  | unbuilt | executable => contradiction

theorem linkedStage_eq_error {device : NativeHandle} {stage : Stage} {e : NativeError}
    (refused : linkedStage wanted device stage = .error e) :
    wanted device = true ∧ stage.plan .executable ≠ .run .link ∧ ∃ log, e = .linkFailure log := by
  unfold linkedStage at refused
  split at refused
  · rename_i isWanted
    cases stage with
    | object | library => contradiction
    | unbuilt | executable =>
        cases refused
        exact ⟨isWanted, by decide, _, rfl⟩
  · contradiction

/-- The devices of an input are added, at the stages that the link takes them to. -/
theorem linkDevices_eq_ok (done : linkDevices wanted input devices linked = .ok output) :
    output.kernels = linked.kernels ∧
      (∀ device, device ∈ output.devices ↔ device ∈ linked.devices ∨ device ∈ devices) ∧
      ∀ device, output.stages.get? device =
        if device ∈ devices then
          some (if wanted device then .executable else input.stageOf device)
        else linked.stages.get? device := by
  induction devices generalizing linked with
  | nil =>
      cases done
      simp
  | cons device devices ih =>
      rw [linkDevices] at done
      cases staged : linkedStage wanted device (input.stageOf device) with
      | error e =>
          rw [staged] at done
          contradiction
      | ok stage =>
          rw [staged] at done
          rcases ih done with ⟨kernels, members, stages⟩
          refine ⟨kernels, ?_, ?_⟩
          · intro other
            rw [members other, List.mem_cons]
            dsimp only
            split
            · rename_i known
              constructor
              · rintro (found | found)
                · exact Or.inl found
                · exact Or.inr (Or.inr found)
              · rintro (found | rfl | found)
                · exact Or.inl found
                · exact Or.inl known
                · exact Or.inr found
            · rw [List.mem_append, List.mem_singleton, or_assoc]
          · intro other
            rw [stages other, linkedStage_eq_ok staged]
            by_cases member : other ∈ devices
            · rw [if_pos member, if_pos (List.mem_cons_of_mem device member)]
            · rw [if_neg member, Ledger.get?_set]
              by_cases equal : device = other
              · subst equal
                rw [if_pos rfl, if_pos List.mem_cons_self]
              · have absent : other ∉ device :: devices := by
                  rw [List.mem_cons]
                  rintro (same | found)
                  · exact equal same.symm
                  · exact member found
                rw [if_neg equal, if_neg absent]

/-- All devices of an input that are wanted can be linked, if the link succeeds. -/
theorem plan_of_linkDevices (done : linkDevices wanted input devices linked = .ok output) :
    ∀ device ∈ devices, wanted device = true →
      (input.stageOf device).plan .executable = .run .link := by
  induction devices generalizing linked with
  | nil => exact fun device member => absurd member List.not_mem_nil
  | cons device devices ih =>
      rw [linkDevices] at done
      cases staged : linkedStage wanted device (input.stageOf device) with
      | error e =>
          rw [staged] at done
          contradiction
      | ok stage =>
          rw [staged] at done
          intro other member
          rcases List.mem_cons.mp member with rfl | member
          · exact plan_of_linkedStage staged
          · exact ih done other member

theorem linkDevices_eq_error {e : NativeError}
    (refused : linkDevices wanted input devices linked = .error e) :
    ∃ device ∈ devices, wanted device = true ∧
      (input.stageOf device).plan .executable ≠ .run .link ∧ ∃ log, e = .linkFailure log := by
  induction devices generalizing linked with
  | nil => contradiction
  | cons device devices ih =>
      rw [linkDevices] at refused
      cases staged : linkedStage wanted device (input.stageOf device) with
      | error e' =>
          rw [staged] at refused
          cases refused
          exact ⟨device, List.mem_cons_self, linkedStage_eq_error staged⟩
      | ok stage =>
          rw [staged] at refused
          rcases ih refused with ⟨other, member, cause⟩
          exact ⟨other, List.mem_cons_of_mem device member, cause⟩

theorem mem_linkKernels (names : List String) (linked : ProgramBinary) (name : String) :
    name ∈ (linkKernels names linked).kernels ↔ name ∈ linked.kernels ∨ name ∈ names := by
  rw [linkKernels]
  dsimp only
  generalize linked.kernels = kernels
  induction names generalizing kernels with
  | nil => simp
  | cons first names ih =>
      rw [List.foldl_cons, ih, List.mem_cons]
      by_cases known : first ∈ kernels
      · rw [if_pos known]
        constructor
        · rintro (found | found)
          · exact Or.inl found
          · exact Or.inr (Or.inr found)
        · rintro (found | rfl | found)
          · exact Or.inl found
          · exact Or.inl known
          · exact Or.inr found
      · rw [if_neg known, List.mem_append, List.mem_singleton, or_assoc]

/-- The devices of an input keep the outcome of a link tidy. -/
theorem linkDevices_isTidy (done : linkDevices wanted input devices linked = .ok output)
    (tidy : linked.IsTidy) : output.IsTidy := by
  rcases linkDevices_eq_ok done with ⟨-, members, stages⟩
  intro device
  rw [Ledger.contains, stages, members]
  by_cases member : device ∈ devices
  · simp [member]
  · rw [if_neg member, or_iff_left member]
    exact tidy device

/-- A link of one program, on top of nothing. -/
theorem linked_of_linkDevices
    (done : linkDevices wanted input input.devices ⟨[], {}, []⟩ = .ok output) :
    ProgramBinary.Linked wanted input (linkKernels input.kernels output) := by
  rcases linkDevices_eq_ok done with ⟨kernels, members, stages⟩
  constructor
  case devices =>
    intro device
    rw [linkKernels, members]
    simp
  case kernels =>
    intro name
    rw [mem_linkKernels, kernels]
    simp
  case stages => exact stages

end Simulator

namespace ProgramBinary.Linked

variable {wanted : NativeHandle → Bool} {input output : ProgramBinary}

theorem stageOf (linked : Linked wanted input output) {device : NativeHandle}
    (member : device ∈ input.devices) :
    output.stageOf device = if wanted device then .executable else input.stageOf device := by
  rw [ProgramBinary.stageOf, linked.stages, if_pos member]
  rfl

theorem isTidy (linked : Linked wanted input output) : output.IsTidy := by
  intro device
  rw [Ledger.contains, linked.stages, linked.devices]
  by_cases member : device ∈ input.devices <;> simp [member]

end ProgramBinary.Linked

/-! ## Steps on programs -/

namespace Store

variable {store : Store} {program : ProgramHandle} {native : NativeHandle}
  {binary : ProgramBinary}

/-- A live wrapper leads to a live native program, of which `binary` is known. -/
def Leads (store : Store) (program : ProgramHandle) (native : NativeHandle)
    (binary : ProgramBinary) : Prop :=
  store.Behind program native ∧
    ∃ refs, store.natives.get? native = some ⟨.program binary, refs⟩

theorem Leads.unique {native' : NativeHandle} {binary' : ProgramBinary}
    (leads : store.Leads program native binary) (leads' : store.Leads program native' binary') :
    native = native' ∧ binary = binary' := by
  rcases leads with ⟨behind, refs, found⟩
  rcases leads' with ⟨behind', refs', found'⟩
  obtain rfl := behind.unique behind'
  rw [found] at found'
  cases found'
  exact ⟨rfl, rfl⟩

theorem ends_nativeProgram_of_behind (behind : store.Behind program native) :
    Ends (nativeProgram native) store
      (fun binary after => after = store ∧ store.Leads program native binary)
      (fun _ after => after = store ∧ ∀ native binary, ¬ store.Leads program native binary) := by
  refine ends_nativeProgram.imp ?_ ?_
  · rintro binary after ⟨equal, live⟩
    exact ⟨equal, behind, live⟩
  · rintro e after ⟨equal, -, dead⟩
    refine ⟨equal, ?_⟩
    rintro native' binary ⟨behind', refs, found⟩
    obtain rfl := behind.unique behind'
    exact dead ⟨_, found, rfl⟩

theorem ends_binaryBehind :
    Ends (Simulator.binaryBehind program) store
      (fun binary after => after = store ∧ ∃ native, store.Leads program native binary)
      (fun _ after => after = store ∧ ∀ native binary, ¬ store.Leads program native binary) := by
  refine (ends_behind.imp (fun _ _ found => found) ?_).bind ?_
  · rintro e after ⟨equal, -, dead⟩
    exact ⟨equal, fun _ _ leads => dead leads.1.hasWrapper⟩
  · rintro native _ ⟨rfl, behind⟩
    refine (ends_nativeProgram_of_behind behind).imp ?_ fun _ _ failed => failed
    rintro binary after ⟨equal, leads⟩
    exact ⟨equal, native, leads⟩

/-- The store after a native program has become another one. -/
def reprogrammed (store : Store) (native : NativeHandle) (binary : ProgramBinary) : Store :=
  match store.natives.get? native with
  | some object => store.recorded native { object with data := .program binary }
  | none => store

theorem ends_setProgram :
    Ends (setProgram native binary) store (fun _ after => after = store.reprogrammed native binary)
      (fun _ _ => False) := by
  unfold setProgram reprogrammed
  rw [ends_modify]
  cases found : store.natives.get? native <;> rfl

theorem ends_checkUnbuilt {selected : List NativeHandle} :
    Ends (Simulator.checkUnbuilt binary selected) store
      (fun _ after => after = store ∧ binary.Unbuilt selected)
      (fun _ after => after = store ∧ ¬ binary.Unbuilt selected) := by
  induction selected with
  | nil =>
      refine ⟨rfl, ?_⟩
      rintro device ⟨⟩
  | cons device devices ih =>
      unfold Simulator.checkUnbuilt
      by_cases foreign : device ∉ binary.devices
      · rw [if_pos foreign]
        exact ⟨rfl, fun unbuilt => foreign (unbuilt device List.mem_cons_self).1⟩
      · rw [if_neg foreign]
        by_cases built : binary.stageOf device ≠ .unbuilt
        · dsimp only
          rw [if_pos built]
          exact ⟨rfl, fun unbuilt => built (unbuilt device List.mem_cons_self).2⟩
        · dsimp only
          rw [if_neg built]
          refine Ends.imp ih ?_ ?_
          · rintro _ after ⟨equal, rest⟩
            refine ⟨equal, ?_⟩
            intro other member
            rcases List.mem_cons.mp member with rfl | member
            · exact ⟨Decidable.not_not.mp foreign, Decidable.not_not.mp built⟩
            · exact rest other member
          · rintro e after ⟨equal, refused⟩
            refine ⟨equal, fun unbuilt => refused ?_⟩
            exact fun other member => unbuilt other (List.mem_cons_of_mem device member)

/-- A program that has become another one of the same devices and kernels. -/
theorem growth_reprogrammed {wraps : ObjectKind → Prop} {new : ProgramBinary} {refs : Nat}
    (found : store.natives.get? native = some ⟨.program binary, refs⟩)
    (devices : new.devices = binary.devices) (kernels : new.kernels = binary.kernels)
    (staged : ∀ device, new.stages.contains device = binary.stages.contains device) :
    Growth wraps store (store.reprogrammed native new) := by
  unfold reprogrammed
  rw [found]
  exact .recorded found rfl devices kernels staged

/-! ## Programs that are left alone -/

/-- Every program that is live after a change was live before, at the same stages. -/
def Spares (store after : Store) : Prop :=
  ∀ native binary refs, after.natives.get? native = some ⟨.program binary, refs⟩ →
    ∃ refs, store.natives.get? native = some ⟨.program binary, refs⟩

theorem Spares.refl (store : Store) : store.Spares store :=
  fun _ _ refs found => ⟨refs, found⟩

theorem Spares.trans {middle after : Store} (first : store.Spares middle)
    (second : middle.Spares after) : store.Spares after := by
  intro native binary refs found
  rcases second native binary refs found with ⟨refs', found'⟩
  exact first native binary refs' found'

theorem Spares.of_natives {after : Store} (same : after.natives = store.natives) :
    store.Spares after := by
  intro native binary refs found
  rw [same] at found
  exact ⟨refs, found⟩

theorem Released.spares {id : Nat} {wrapper : Wrapper} {after : Store}
    (released : store.Released id wrapper after) : store.Spares after := by
  cases released with
  | last => exact fun native _ _ found => sameData_discarded native _ found
  | another => exact .of_natives rfl

/-! ## Linking -/

variable {wanted : NativeHandle → Bool}

theorem ends_linkPrograms {programs : List ProgramHandle} {linked : ProgramBinary} :
    Ends (Simulator.linkPrograms wanted programs linked) store
      (fun output after => after = store ∧ (linked.IsTidy → output.IsTidy))
      (fun _ after => after = store) := by
  induction programs generalizing linked with
  | nil => exact ⟨rfl, id⟩
  | cons program programs ih =>
      unfold Simulator.linkPrograms
      refine (ends_binaryBehind.imp (fun _ _ found => found) fun _ _ failed => failed.1).bind ?_
      rintro input _ ⟨rfl, -⟩
      cases done : Simulator.linkDevices wanted input input.devices linked with
      | error e => exact rfl
      | ok next =>
          refine Ends.imp ih ?_ fun _ _ failed => failed
          rintro output after ⟨equal, tidies⟩
          refine ⟨equal, fun tidy => tidies ?_⟩
          have tidy' : next.IsTidy := Simulator.linkDevices_isTidy done tidy
          exact tidy'

/-- A link of one program succeeds where that program is live and can be linked. -/
theorem ends_linkPrograms_singleton :
    Ends (Simulator.linkPrograms wanted [program] ⟨[], {}, []⟩) store
      (fun output after => after = store ∧ ∃ native input, store.Leads program native input ∧
        input.Linked wanted output)
      (fun _ after => after = store ∧
        ∀ native input, store.Leads program native input → ¬ input.Linkable wanted) := by
  unfold Simulator.linkPrograms
  refine (ends_binaryBehind.imp (fun _ _ found => found) ?_).bind ?_
  · rintro e after ⟨equal, dead⟩
    exact ⟨equal, fun native input leads => (dead native input leads).elim⟩
  · rintro input _ ⟨rfl, native, leads⟩
    cases done : Simulator.linkDevices wanted input input.devices ⟨[], {}, []⟩ with
    | error e =>
        refine ⟨rfl, ?_⟩
        intro native' input' leads' linkable
        obtain ⟨-, rfl⟩ := leads.unique leads'
        rcases Simulator.linkDevices_eq_error done with ⟨device, member, isWanted, cause, -⟩
        exact cause (linkable device member isWanted)
    | ok output => exact ⟨rfl, native, input, leads, Simulator.linked_of_linkDevices done⟩

/-- A live program that cannot be linked is refused as that. -/
theorem ends_linkPrograms_refused {input : ProgramBinary}
    (leads : store.Leads program native input) (stuck : ¬ input.Linkable wanted) :
    Ends (Simulator.linkPrograms wanted [program] ⟨[], {}, []⟩) store (fun _ _ => False)
      (fun e after => after = store ∧ ∃ log, e = .linkFailure log) := by
  unfold Simulator.linkPrograms
  refine (ends_binaryBehind.imp (fun _ _ found => found) ?_).bind ?_
  · exact fun _ _ failed => absurd leads (failed.2 native input)
  · rintro input' _ ⟨rfl, native', leads'⟩
    obtain ⟨-, rfl⟩ := leads.unique leads'
    cases done : Simulator.linkDevices wanted input input.devices ⟨[], {}, []⟩ with
    | error e =>
        obtain ⟨device, -, -, -, isFailure⟩ := Simulator.linkDevices_eq_error done
        exact ⟨rfl, isFailure⟩
    | ok output => exact stuck (Simulator.plan_of_linkDevices done)

/-- The store after a link: a new native program, owned by a new wrapper. -/
def joined (store : Store) (output : ProgramBinary) : Store :=
  (store.created (.program output)).wrapped .program ⟨store.nextNative⟩ true 1

theorem ends_linkInto {programs : List ProgramHandle} {ok : ProgramBinary → Prop}
    {failed : NativeError → Prop}
    (links : Ends (Simulator.linkPrograms wanted programs ⟨[], {}, []⟩) store
      (fun output after => after = store ∧ ok output) (fun e after => after = store ∧ failed e)) :
    Ends (Simulator.linkInto wanted programs) store
      (fun handle after => ∃ output, ok output ∧ handle = ⟨store.nextWrapper⟩ ∧
        after = store.joined output)
      (fun e after => after = store ∧ failed e) := by
  refine links.bind ?_
  rintro output _ ⟨rfl, holds⟩
  exact ⟨output, holds, rfl, rfl⟩

theorem grows_joined {wraps : ObjectKind → Prop} {output : ProgramBinary} (tidy : output.IsTidy)
    (allowed : wraps .program) : Grows wraps store (store.joined output) := by
  have created : Growth wraps store (store.created (.program output)) :=
    .created (.program output) (by rintro _ ⟨⟩; exact tidy)
  refine created.grows.trans (Growth.grows (.wrapped true 1 allowed (by decide) ?_ ?_))
  · exact ⟨⟨.program output, 1⟩, by simp [Store.created], rfl⟩
  · rintro record ⟨⟩

end Store

end ComputeImport
