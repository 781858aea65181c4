import ComputeImport.Proofs.Simulator.Building
import ComputeImport.Proofs.Simulator.Wrapping

/-!
# What a call makes of the store

Every entry point but those that count references only adds to the store: new wrappers of at most
one kind, apart from those of platforms and devices, and programs taken further.  The entry points
that count references change one count, and may end a wrapper.  So the form of the store is kept,
whichever call is made.
-/

namespace ComputeImport

/-- What an entry point does to the references to a wrapper. -/
inductive Counting where
  | retain | release
  deriving DecidableEq

namespace EntryPoint

/-- How an entry point counts the references to a wrapper, and of which kind, if it does. -/
def counting? : EntryPoint → Option (Counting × ObjectKind)
  | contextRetain => some (.retain, .context)
  | contextRelease => some (.release, .context)
  | queueRetain => some (.retain, .queue)
  | queueRelease => some (.release, .queue)
  | eventRetain => some (.retain, .event)
  | eventRelease => some (.release, .event)
  | programRetain => some (.retain, .program)
  | programRelease => some (.release, .program)
  | kernelRetain => some (.retain, .kernel)
  | kernelRelease => some (.release, .kernel)
  | _ => none

/-- The kind of the counted wrappers that an entry point makes, if it makes any. -/
def wraps? : EntryPoint → Option ObjectKind
  | contextCreate => some .context
  | queueCreate => some .queue
  | eventCreate => some .event
  | programCreate | programLinkFor | programLink => some .program
  | kernelCreate => some .kernel
  | _ => none

end EntryPoint

namespace Simulator

variable {sim : Simulator} {α β : Type}

/-- A call adds to the store, whether it succeeds or not. -/
def Extends (wraps : ObjectKind → Prop) (program : Native α) (sim : Simulator) : Prop :=
  Ends program sim (fun _ after => Store.Grows wraps sim.store after.store)
    (fun _ after => Store.Grows wraps sim.store after.store)

theorem Extends.map {wraps : ObjectKind → Prop} {program : Native α}
    (grows : Extends wraps program sim) (change : α → β) :
    Extends wraps (do return change (← program)) sim :=
  Ends.bind grows fun _ _ grown => grown

theorem Answers.extends {wraps : ObjectKind → Prop} {call : Call} {program : Native α}
    {ok : α → Store → Prop} {failed : NativeError → Store → Prop}
    (answers : Answers call program sim ok failed)
    (value : ∀ a store, ok a store → Store.Grows wraps sim.store store)
    (failure : ∀ e store, failed e store → Store.Grows wraps sim.store store) :
    Extends wraps program sim := by
  refine Ends.imp answers ?_ ?_
  · exact fun a after ended => value a after.store ended.2.2
  · rintro e after ⟨-, ⟨-, unchanged⟩ | ⟨-, failed⟩⟩
    · rw [unchanged]
      exact .refl sim.store
    · exact failure e after.store failed

/-- A call that looks something up adds nothing. -/
theorem extends_look {wraps : ObjectKind → Prop} {call : Call} {step : StoreM α}
    (still : Ends step sim.store (fun _ after => after = sim.store)
      (fun _ after => after = sim.store)) :
    Extends wraps (perform call (onStore step)) sim := by
  refine (Works.onStore still).answers.extends ?_ ?_
  · rintro _ _ rfl
    exact .refl _
  · rintro _ _ rfl
    exact .refl _

/-- A quiet call adds the wrappers of platforms and devices at most. -/
theorem extends_quiet {wraps : ObjectKind → Prop} {call : Call} {step : StoreM α}
    (quiet : Ends step sim.store (fun _ after => sim.store.Quiet after)
      (fun _ after => sim.store.Quiet after)) :
    Extends wraps (perform call (onStore step)) sim := by
  refine (Works.onStore quiet).answers.extends ?_ ?_
  · exact fun _ _ quiet => quiet.grows.mono fun _ => False.elim
  · exact fun _ _ quiet => quiet.grows.mono fun _ => False.elim

theorem Wraps.grows {store after : Store} {wraps : ObjectKind → Prop} {data : WrapperData}
    {native : NativeHandle} {ownsNative : Bool} {refs : Nat} {handle : Handle data.kind}
    (made : Wraps store data native ownsNative refs handle after) (allowed : wraps data.kind)
    (ordinary : data.kind ≠ .platform ∧ data.kind ≠ .device)
    (targeted : ∀ record, data.queue? = some record → store.HasWrapper record.device) :
    Store.Grows wraps store after := by
  rw [made.after_eq]
  exact Store.Growth.grows (.wrapped ownsNative refs allowed ordinary made.live targeted)

/-! ### Stages that are known stay known -/

theorem contains_advancedFor {binary : ProgramBinary} {selected : List NativeHandle}
    {stage : Stage} (tidy : binary.IsTidy) (unbuilt : binary.Unbuilt selected)
    (device : NativeHandle) :
    (binary.advancedFor selected stage).stages.contains device =
      binary.stages.contains device := by
  rw [Ledger.contains, ProgramBinary.get?_advancedFor]
  split
  · rename_i member
    rw [(tidy device).mpr (unbuilt device member).1]
    rfl
  · rfl

theorem contains_advanced {binary : ProgramBinary} {stage : Stage} (device : NativeHandle) :
    (binary.advanced stage).stages.contains device = binary.stages.contains device := by
  rw [Ledger.contains, ProgramBinary.get?_advanced, Option.isSome_map]
  rfl

theorem AdvancesFor.grows {store after : Store} {wraps : ObjectKind → Prop}
    {program : ProgramHandle} {devices : List DeviceHandle} {stage : Stage}
    (advances : AdvancesFor store program devices stage after) (formed : store.WellFormed) :
    Store.Grows wraps store after := by
  rcases advances with ⟨native, binary, selected, ⟨-, refs, found⟩, -, unbuilt, rfl⟩
  have tidy : binary.IsTidy := formed.tidy native _ found binary rfl
  have devices : (binary.advancedFor selected stage).devices = binary.devices := rfl
  exact (Store.growth_reprogrammed found devices rfl
    (contains_advancedFor tidy unbuilt)).grows

theorem Advances.grows {store after : Store} {wraps : ObjectKind → Prop}
    {program : ProgramHandle} {stage : Stage} (advances : Advances store program stage after) :
    Store.Grows wraps store after := by
  rcases advances with ⟨native, binary, ⟨-, refs, found⟩, rfl⟩
  have devices : (binary.advanced stage).devices = binary.devices := rfl
  exact (Store.growth_reprogrammed found devices rfl contains_advanced).grows

theorem Joins.grows {store after : Store} {wraps : ObjectKind → Prop}
    {output : ProgramBinary → Prop} {handle : ProgramHandle}
    (joins : Joins store output handle after) (tidy : ∀ linked, output linked → linked.IsTidy)
    (allowed : wraps .program) : Store.Grows wraps store after := by
  rcases joins with ⟨linked, holds, -, rfl⟩
  exact Store.grows_joined (tidy linked holds) allowed

theorem ends_tryCatch {ε σ : Type} {program : EStateM ε σ α} {handler : ε → EStateM ε σ α}
    {state : σ} {ok : α → σ → Prop} {failed : ε → σ → Prop} :
    Ends (tryCatch program handler) state ok failed ↔
      Ends program state ok (fun e after => Ends (handler e) after ok failed) := by
  change Ends (EStateM.tryCatch program handler) state ok failed ↔ _
  unfold Ends EStateM.tryCatch
  cases program state <;> exact Iff.rfl

/-- A call that does not count references adds wrappers of at most one kind to the store. -/
theorem extends_answer {call : Call} (uncounted : call.entryPoint.counting? = none)
    (formed : sim.store.WellFormed) :
    Extends (fun kind => call.entryPoint.wraps? = some kind) (answer call) sim := by
  have unchanged : ∀ {wraps : ObjectKind → Prop} (store : Store), store = sim.store →
      Store.Grows wraps sim.store store := by
    rintro wraps _ rfl
    exact .refl _
  cases call with
  | platformCreate native =>
      refine Extends.map (extends_quiet (Store.ends_wrapPlatform.imp ?_ ?_)) _
      · exact fun _ _ made => made.1
      · rintro _ _ ⟨rfl, -⟩
        exact .refl _
  | platformBackend platform =>
      refine Extends.map (extends_look ?_) _
      refine (Store.ends_behind.imp (fun _ _ found => found) fun _ _ failed => failed.1).bind ?_
      rintro _ _ ⟨rfl, -⟩
      exact Store.ends_nativePlatform.imp (fun _ _ found => found.1) fun _ _ failed => failed.1
  | platformNative _ | deviceNative _ | contextNative _ | eventNative _ | kernelNative _ =>
      exact Extends.map (extends_look
        (Store.ends_behind.imp (fun _ _ found => found.1) fun _ _ failed => failed.1)) _
  | deviceCreate native platform =>
      refine Extends.map (extends_quiet ?_) _
      have wraps : Ends (Store.wrapDevice native) sim.store
          (fun _ after => sim.store.Quiet after) (fun _ after => sim.store.Quiet after) := by
        refine Store.ends_wrapDevice.imp (fun _ _ made => made.1) ?_
        rintro _ _ ⟨rfl, -⟩
        exact .refl _
      cases platform with
      | none => exact wraps
      | some platform =>
          refine (Store.ends_wrapper.imp (fun _ _ found => found) ?_).bind ?_
          · rintro _ _ ⟨rfl, -⟩
            exact .refl _
          · rintro _ _ ⟨rfl, -⟩
            exact wraps
  | devicePlatform device =>
      refine (answers_devicePlatform.extends ?_ ?_).map _
      · exact fun _ _ made => made.1.grows.mono fun _ => False.elim
      · exact fun _ store failed => unchanged store failed.1
  | contextCreate native devices ownsNative =>
      refine (answers_contextCreate.extends ?_ fun _ => unchanged).map _
      exact fun _ _ made => made.grows rfl (by decide) (by rintro _ ⟨⟩)
  | queueCreate native context device settings =>
      refine (answers_queueCreate.extends ?_ fun _ => unchanged).map _
      rintro handle after ⟨quiet, target, grown, targeted, -, made⟩
      refine (grown.grows.mono fun _ => False.elim).trans (made.grows rfl (by simp [WrapperData.kind]) ?_)
      rintro _ ⟨⟩
      exact targeted formed
  | queueDevice queue =>
      refine Extends.map (extends_look ?_) _
      refine (Store.ends_queueRecord.imp (fun _ _ found => found)
        fun _ _ failed => failed.1).bind ?_
      exact fun _ _ found => found.1
  | queueNative queue =>
      refine Extends.map (extends_look ?_) fun (native, descriptor) =>
        Answer.queue native descriptor
      refine (Store.ends_behind.imp (fun _ _ found => found) fun _ _ failed => failed.1).bind ?_
      rintro _ _ ⟨rfl, -⟩
      refine (Store.ends_queueRecord.imp (fun _ _ found => found)
        fun _ _ failed => failed.1).bind ?_
      exact fun _ _ found => found.1
  | eventCreate native context ownsNative =>
      refine (answers_eventCreate.extends ?_ fun _ => unchanged).map _
      exact fun _ _ made => made.grows rfl (by decide) (by rintro _ ⟨⟩)
  | programCreate native context ownsNative =>
      refine (answers_programCreate.extends ?_ fun _ store failed => unchanged store failed.1).map _
      exact fun _ _ made => made.grows rfl (by decide) (by rintro _ ⟨⟩)
  | programNumDevices program =>
      exact (answers_programNumDevices.extends (fun _ store found => unchanged store found.1)
        fun _ store failed => unchanged store failed.1).map _
  | programDevices program =>
      refine (answers_programDevices.extends ?_ ?_).map _
      · exact fun _ _ made => made.1.grows.mono fun _ => False.elim
      · exact fun _ _ failed => failed.1.grows.mono fun _ => False.elim
  | programBinaryType program device =>
      exact (answers_programBinaryType.extends (fun _ store found => unchanged store found.1)
        fun _ store failed => unchanged store failed.1).map _
  | programKernelNames program =>
      refine Extends.map (extends_look ?_) _
      refine (Store.ends_binaryBehind.imp (fun _ _ found => found)
        fun _ _ failed => failed.1).bind ?_
      exact fun _ _ found => found.1
  | programCompileFor program devices options =>
      exact Ends.bind (answers_programCompileFor.extends (fun _ _ done => done.grows formed)
        fun _ store failed => unchanged store failed.1) fun _ _ grown => grown
  | programCompile context program options =>
      exact Ends.bind (answers_programCompile.extends (fun _ _ done => done.grows)
        fun _ store failed => unchanged store failed.1) fun _ _ grown => grown
  | programBuildFor program devices options =>
      exact Ends.bind (answers_programBuildFor.extends (fun _ _ done => done.grows formed)
        fun _ store failed => unchanged store failed.1) fun _ _ grown => grown
  | programBuild context program options =>
      exact Ends.bind (answers_programBuild.extends (fun _ _ done => done.grows)
        fun _ store failed => unchanged store failed.1) fun _ _ grown => grown
  | programLinkFor context devices programs options =>
      have links : ∀ selected : List NativeHandle, Ends
          (linkPrograms (fun device => selected.contains device) programs ⟨[], {}, []⟩) sim.store
          (fun output after => after = sim.store ∧ output.IsTidy)
          (fun _ after => after = sim.store ∧ True) := by
        intro selected
        refine Store.ends_linkPrograms.imp ?_ fun _ _ failed => ⟨failed, trivial⟩
        exact fun _ _ done => ⟨done.1, done.2 fun device => by simp [Ledger.contains]⟩
      refine ((works_linkFor links).extends ?_ fun _ store failed => unchanged store failed.1).map _
      rintro handle after ⟨selected, -, joins⟩
      exact joins.grows (fun _ tidy => tidy) rfl
  | programLink context programs options =>
      have links : Ends (linkPrograms (fun _ => true) programs ⟨[], {}, []⟩) sim.store
          (fun output after => after = sim.store ∧ output.IsTidy)
          (fun _ after => after = sim.store ∧ True) := by
        refine Store.ends_linkPrograms.imp ?_ fun _ _ failed => ⟨failed, trivial⟩
        exact fun _ _ done => ⟨done.1, done.2 fun device => by simp [Ledger.contains]⟩
      refine ((works_link links).extends ?_ fun _ store failed => unchanged store failed.1).map _
      exact fun _ _ joins => joins.grows (fun _ tidy => tidy) rfl
  | kernelCreate native context program ownsNative =>
      refine (answers_kernelCreate.extends ?_ fun _ store failed => unchanged store failed.1).map _
      exact fun _ _ made => made.2.grows rfl (by decide) (by rintro _ ⟨⟩)
  | memNative mem device =>
      refine Extends.map (extends_look ?_) _
      refine (Store.ends_wrapper.imp (fun _ _ found => found) fun _ _ failed => failed.1).bind ?_
      rintro _ _ ⟨rfl, -⟩
      rw [ends_tryCatch]
      exact Store.ends_behind.imp (fun _ _ found => found.1) fun _ _ failed => failed.1
  | contextRetain _ | contextRelease _ | queueRetain _ | queueRelease _ | eventRetain _
  | eventRelease _ | programRetain _ | programRelease _ | kernelRetain _ | kernelRelease _ =>
      contradiction

end Simulator

end ComputeImport
