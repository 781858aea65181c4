import ComputeImport.Proofs.Simulator.Failing
import ComputeImport.Proofs.Store.Frame

/-!
# The stages that a backend records

A program has one entry for each of its devices among its stages, whatever has been done with the
backend, so that what is found for a device is all that is recorded for it.  Only the calls that
compile, build and link write stages, and only those that drop references take native objects away.
-/

namespace ComputeImport

namespace Ledger

variable {κ α : Type} [DecidableEq κ]

/-- Setting keys that are known leaves the keys as they are. -/
theorem keys_foldl_set {keys : List κ} {ledger : Ledger κ α} (value : α)
    (known : ∀ key ∈ keys, key ∈ ledger.keys) :
    (keys.foldl (fun ledger key => ledger.set key value) ledger).keys = ledger.keys := by
  induction keys generalizing ledger with
  | nil => rfl
  | cons key keys ih =>
      have same : (ledger.set key value).keys = ledger.keys := by
        rw [keys_set, if_pos (known key List.mem_cons_self)]
      rw [List.foldl_cons, ih, same]
      intro other member
      rw [same]
      exact known other (List.mem_cons_of_mem key member)

/-- Setting several keys keeps the keys distinct. -/
theorem nodup_keys_foldl_set (keys : List κ) {ledger : Ledger κ α} (value : α)
    (distinct : ledger.keys.Nodup) :
    (keys.foldl (fun ledger key => ledger.set key value) ledger).keys.Nodup := by
  induction keys generalizing ledger with
  | nil => exact distinct
  | cons key keys ih => exact ih (nodup_keys_set ledger key value distinct)

/-- Lists of entries that have the same keys, each of them once, and the same values are the
same. -/
theorem entries_eq_of_find {entries others : List (κ × α)}
    (keys : entries.map Prod.fst = others.map Prod.fst) (distinct : (entries.map Prod.fst).Nodup)
    (same : ∀ key, find key entries = find key others) : entries = others := by
  induction entries generalizing others with
  | nil => exact (List.map_eq_nil_iff.mp keys.symm).symm
  | cons entry rest ih =>
      cases others with
      | nil => contradiction
      | cons other rest' =>
          obtain ⟨key, value⟩ := entry
          obtain ⟨key', value'⟩ := other
          obtain ⟨rfl, tails⟩ : key = key' ∧ rest.map Prod.fst = rest'.map Prod.fst :=
            List.cons.inj keys
          obtain ⟨unique, distinct⟩ := List.nodup_cons.mp distinct
          have first := same key
          simp only [find, if_true, Option.some.injEq] at first
          have absent : ∀ {entries : List (κ × α)}, key ∉ entries.map Prod.fst →
              find key entries = none := by
            intro entries missing
            rw [← isSome_find_iff] at missing
            exact Option.not_isSome_iff_eq_none.mp missing
          have tail : rest = rest' := by
            apply ih tails distinct
            intro wanted
            by_cases equal : key = wanted
            · subst equal
              rw [absent unique, absent (tails ▸ unique)]
            · simpa [find, equal] using same wanted
          rw [first, tail]

/-- Ledgers that have the same keys, each of them once, and the same values are the same. -/
theorem eq_of_get? {ledger other : Ledger κ α} (keys : ledger.keys = other.keys)
    (distinct : ledger.keys.Nodup) (same : ∀ key, ledger.get? key = other.get? key) :
    ledger = other := by
  cases ledger
  cases other
  exact congrArg Ledger.mk (entries_eq_of_find keys distinct same)

end Ledger

namespace ProgramBinary

variable {binary : ProgramBinary}

/-- An operation for chosen devices of the program leaves the devices with a stage as they are. -/
theorem keys_advancedFor (tidy : binary.IsTidy) {selected : List NativeHandle}
    (unbuilt : binary.Unbuilt selected) (stage : Stage) :
    (binary.advancedFor selected stage).stages.keys = binary.stages.keys :=
  Ledger.keys_foldl_set stage fun device member =>
    (Ledger.contains_iff_mem_keys _ _).mp ((tidy device).mpr (unbuilt device member).1)

theorem keys_advanced (binary : ProgramBinary) (stage : Stage) :
    (binary.advanced stage).stages.keys = binary.stages.keys :=
  Ledger.keys_mapValues _ _

/-- An operation for the whole program is the operation for the devices that it has not been built
for. -/
theorem advancedFor_eq_advanced (tidy : binary.IsTidy) (distinct : binary.stages.keys.Nodup)
    {selected : List NativeHandle}
    (chosen : ∀ device, device ∈ selected ↔
      device ∈ binary.devices ∧ binary.stages.get? device = some .unbuilt) (stage : Stage) :
    binary.advancedFor selected stage = binary.advanced stage := by
  have unbuilt : binary.Unbuilt selected := by
    intro device member
    obtain ⟨known, recorded⟩ := (chosen device).mp member
    exact ⟨known, by rw [stageOf, recorded]; rfl⟩
  have keys : (binary.advancedFor selected stage).stages.keys =
      (binary.advanced stage).stages.keys := by
    rw [keys_advancedFor tidy unbuilt, keys_advanced]
  have same : ∀ device, (binary.advancedFor selected stage).stages.get? device =
      (binary.advanced stage).stages.get? device := by
    intro device
    rw [get?_advancedFor, get?_advanced]
    by_cases member : device ∈ selected
    · rw [if_pos member, ((chosen device).mp member).2]
      rfl
    · rw [if_neg member]
      cases recorded : binary.stages.get? device with
      | none => rfl
      | some old =>
          have known : device ∈ binary.devices :=
            (tidy device).mp (by rw [Ledger.contains, recorded]; rfl)
          have built : old ≠ .unbuilt := by
            rintro rfl
            exact member ((chosen device).mpr ⟨known, recorded⟩)
          rw [Option.map_some, if_neg built]
  have stages := Ledger.eq_of_get? keys
    ((keys_advancedFor tidy unbuilt stage).symm ▸ distinct) same
  exact congrArg (fun stages => { binary with stages }) stages

end ProgramBinary

namespace Simulator

/-- The devices of an input are added to the outcome of a link, each of them once. -/
theorem nodup_keys_linkDevices {wanted : NativeHandle → Bool} {input linked output : ProgramBinary}
    {devices : List NativeHandle} (done : linkDevices wanted input devices linked = .ok output)
    (distinct : linked.stages.keys.Nodup) : output.stages.keys.Nodup := by
  induction devices generalizing linked with
  | nil =>
      cases done
      exact distinct
  | cons device devices ih =>
      rw [linkDevices] at done
      cases staged : linkedStage wanted device (input.stageOf device) with
      | error e =>
          rw [staged] at done
          contradiction
      | ok stage =>
          rw [staged] at done
          exact ih done (Ledger.nodup_keys_set _ _ _ distinct)

end Simulator

namespace Store

variable {store after : Store}

/-! ## What holds of every program -/

/-- Something holds of what is known of every live program. -/
def EveryProgram (holds : ProgramBinary → Prop) (store : Store) : Prop :=
  ∀ handle binary refs, store.natives.get? handle = some ⟨.program binary, refs⟩ → holds binary

/-- What holds of programs withstands what is done with them: stages are written for devices that
have one, programs are linked, and others are created for live devices. -/
structure Withstood (holds : ProgramBinary → Prop) (store : Store) : Prop where
  staged : ∀ {binary : ProgramBinary} {stages : Ledger NativeHandle Stage}, holds binary →
    stages.keys = binary.stages.keys → holds { binary with stages }
  linked : ∀ wanted programs, Ends (Simulator.linkPrograms wanted programs ⟨[], {}, []⟩) store
    (fun output after => after = store ∧ holds output) (fun _ after => after = store ∧ True)
  created : ∀ devices stage kernels, (∀ device ∈ devices, store.HasNative .device device) →
    holds (.uniform devices stage kernels)

namespace EveryProgram

variable {holds : ProgramBinary → Prop}

theorem of_spares (every : store.EveryProgram holds) (spares : store.Spares after) :
    after.EveryProgram holds := by
  intro handle binary refs found
  obtain ⟨refs', found'⟩ := spares handle binary refs found
  exact every handle binary refs' found'

theorem of_natives (every : store.EveryProgram holds) (same : after.natives = store.natives) :
    after.EveryProgram holds :=
  every.of_spares (.of_natives same)

theorem dropped (every : store.EveryProgram holds) (handle : NativeHandle) :
    (store.dropped handle).EveryProgram holds :=
  every.of_spares fun native _ _ found => sameData_dropped handle native _ found

theorem created (every : store.EveryProgram holds) {data : NativeData}
    (new : ∀ binary, data = .program binary → holds binary) :
    (store.created data).EveryProgram holds := by
  intro handle binary refs found
  rcases created_cases found with ⟨-, equal⟩ | found
  · cases equal
    exact new binary rfl
  · exact every handle binary refs found

/-- What is recorded for a native object may change, where it is right for a program. -/
theorem recorded (every : store.EveryProgram holds) {handle : NativeHandle} {object : NativeObject}
    (new : ∀ binary, object.data = .program binary → holds binary) :
    (store.recorded handle object).EveryProgram holds := by
  intro other binary refs found
  rcases recorded_cases found with ⟨-, rfl⟩ | found
  · exact new binary rfl
  · exact every other binary refs found

theorem reprogrammed (every : store.EveryProgram holds) {native : NativeHandle}
    {binary : ProgramBinary} (new : holds binary) :
    (store.reprogrammed native binary).EveryProgram holds := by
  unfold Store.reprogrammed
  split
  · refine every.recorded ?_
    rintro _ ⟨⟩
    exact new
  · exact every

theorem joined (every : store.EveryProgram holds) {output : ProgramBinary} (new : holds output) :
    (store.joined output).EveryProgram holds := by
  have created : (store.created (.program output)).EveryProgram holds := by
    refine every.created ?_
    rintro _ ⟨⟩
    exact new
  exact created.of_natives rfl

end EveryProgram

end Store

namespace Simulator

variable {sim : Simulator} {call : Call}

/-! ## Calls that leave native objects alone -/

/-- A call leaves the native objects as they are, whether it works or fails. -/
def LeavesNatives {α : Type} (program : Native α) (sim : Simulator) : Prop :=
  Ends program sim (fun _ after => after.store.natives = sim.store.natives)
    (fun _ after => after.store.natives = sim.store.natives)

theorem LeavesNatives.map {α β : Type} {program : Native α} (leaves : LeavesNatives program sim)
    (change : α → β) : LeavesNatives (do return change (← program)) sim :=
  Ends.bind leaves fun _ _ same => same

theorem Answers.leavesNatives {α : Type} {program : Native α} {ok : α → Store → Prop}
    {failed : NativeError → Store → Prop} (answers : Answers call program sim ok failed)
    (value : ∀ a store, ok a store → store.natives = sim.store.natives)
    (failure : ∀ e store, failed e store → store.natives = sim.store.natives) :
    LeavesNatives program sim := by
  refine Ends.imp answers (fun a after ended => value a after.store ended.2.2) ?_
  rintro e after ⟨-, ⟨-, unchanged⟩ | ⟨-, ended⟩⟩
  · rw [unchanged]
  · exact failure e after.store ended

/-- A call that works on the store alone leaves native objects alone when its work does. -/
theorem leavesNatives_onStore {α : Type} {step : StoreM α}
    (leaves : Ends step sim.store (fun _ after => after.natives = sim.store.natives)
      (fun _ after => after.natives = sim.store.natives)) :
    LeavesNatives (perform call (onStore step)) sim :=
  (Works.onStore leaves).answers.leavesNatives (fun _ _ same => same) fun _ _ same => same

theorem leavesNatives_look {α : Type} {step : StoreM α} (looks : Store.Looks step) :
    LeavesNatives (perform call (onStore step)) sim :=
  leavesNatives_onStore ((looks sim.store).imp (fun _ _ same => by rw [same])
    fun _ _ same => by rw [same])

theorem Wraps.natives {store after : Store} {data : WrapperData} {native : NativeHandle}
    {ownsNative : Bool} {refs : Nat} {handle : Handle data.kind}
    (wraps : Wraps store data native ownsNative refs handle after) :
    after.natives = store.natives := by
  rw [wraps.after_eq]
  rfl

/-- Calls that neither count references nor compile, build or link leave the native objects as they
are. -/
theorem leavesNatives_answer (uncounted : call.counted? = none)
    (unbuilding : call.entryPoint.mutatesProgram = false) : LeavesNatives (answer call) sim := by
  have unchanged : ∀ store : Store, store = sim.store → store.natives = sim.store.natives :=
    fun _ same => congrArg Store.natives same
  cases call with
  | platformCreate native =>
      refine (leavesNatives_onStore (Store.ends_wrapPlatform.imp ?_ ?_)).map _
      · exact fun _ _ made => made.1.natives
      · exact fun _ store failed => unchanged store failed.1
  | platformBackend platform =>
      refine (leavesNatives_look fun store => ?_).map _
      refine (Store.looks_behind platform store).bind ?_
      rintro native _ rfl
      exact Store.looks_nativePlatform native _
  | platformNative handle | deviceNative handle | contextNative handle | eventNative handle
  | kernelNative handle =>
      exact (leavesNatives_look (Store.looks_behind handle)).map _
  | deviceCreate native platform =>
      have wraps : Ends (Store.wrapDevice native) sim.store
          (fun _ after => after.natives = sim.store.natives)
          (fun _ after => after.natives = sim.store.natives) :=
        Store.ends_wrapDevice.imp (fun _ _ made => made.1.natives)
          fun _ store failed => unchanged store failed.1
      refine (leavesNatives_onStore ?_).map _
      cases platform with
      | none => exact wraps
      | some platform =>
          refine ((Store.looks_wrapper platform sim.store).imp (fun _ _ same => same)
            fun _ => unchanged).bind ?_
          rintro _ _ rfl
          exact wraps
  | devicePlatform device =>
      exact (answers_devicePlatform.leavesNatives (fun _ _ made => made.1.natives)
        fun _ store failed => unchanged store failed.1).map _
  | contextCreate native devices ownsNative =>
      exact (answers_contextCreate.leavesNatives (fun _ _ made => made.natives)
        fun _ => unchanged).map _
  | queueCreate native context device settings =>
      refine (answers_queueCreate.leavesNatives ?_ fun _ => unchanged).map _
      rintro handle after ⟨quiet, target, grown, -, -, made⟩
      exact made.natives.trans grown.natives
  | queueDevice queue =>
      refine (leavesNatives_look fun store => ?_).map _
      exact (Store.looks_queueRecord queue store).bind fun _ _ same => same
  | queueNative queue =>
      refine (leavesNatives_look fun store => ?_).map _
      refine (Store.looks_behind queue store).bind ?_
      rintro native _ rfl
      exact (Store.looks_queueRecord queue _).bind fun _ _ same => same
  | eventCreate native context ownsNative =>
      exact (answers_eventCreate.leavesNatives (fun _ _ made => made.natives)
        fun _ => unchanged).map _
  | programCreate native context ownsNative =>
      exact (answers_programCreate.leavesNatives (fun _ _ made => made.natives)
        fun _ store failed => unchanged store failed.1).map _
  | programNumDevices program =>
      exact (answers_programNumDevices.leavesNatives (fun _ store found => unchanged store found.1)
        fun _ store failed => unchanged store failed.1).map _
  | programDevices program =>
      exact (answers_programDevices.leavesNatives (fun _ _ made => made.1.natives)
        fun _ _ failed => failed.1.natives).map _
  | programBinaryType program device =>
      exact (answers_programBinaryType.leavesNatives (fun _ store found => unchanged store found.1)
        fun _ store failed => unchanged store failed.1).map _
  | programKernelNames program =>
      exact (answers_programKernelNames.leavesNatives (fun _ store found => unchanged store found.1)
        fun _ store failed => unchanged store failed).map _
  | kernelCreate native context program ownsNative =>
      exact (answers_kernelCreate.leavesNatives (fun _ _ made => made.2.natives)
        fun _ store failed => unchanged store failed.1).map _
  | memNative mem device =>
      refine (leavesNatives_look fun store => ?_).map _
      refine (Store.looks_wrapper device store).bind ?_
      rintro _ _ rfl
      rw [ends_tryCatch]
      exact Store.looks_behind mem _
  | programCompileFor _ _ _ | programCompile _ _ _ | programBuildFor _ _ _ | programBuild _ _ _
  | programLinkFor _ _ _ _ | programLink _ _ _ => cases unbuilding
  | contextRetain _ | contextRelease _ | queueRetain _ | queueRelease _ | eventRetain _
  | eventRelease _ | programRetain _ | programRelease _ | kernelRetain _ | kernelRelease _ =>
      cases uncounted

/-! ## Every operation -/

section EveryProgram

variable {holds : ProgramBinary → Prop}

theorem AdvancesFor.everyProgram {store after : Store} {program : ProgramHandle}
    {devices : List DeviceHandle} {stage : Stage}
    (advances : AdvancesFor store program devices stage after) (formed : store.WellFormed)
    (withstood : store.Withstood holds) (every : store.EveryProgram holds) :
    after.EveryProgram holds := by
  obtain ⟨native, binary, selected, ⟨-, refs, found⟩, -, unbuilt, rfl⟩ := advances
  have tidy : binary.IsTidy := formed.tidy native _ found binary rfl
  exact every.reprogrammed (withstood.staged (every native binary refs found)
    (ProgramBinary.keys_advancedFor tidy unbuilt stage))

theorem Advances.everyProgram {store after : Store} {program : ProgramHandle} {stage : Stage}
    (advances : Advances store program stage after) (withstood : store.Withstood holds)
    (every : store.EveryProgram holds) : after.EveryProgram holds := by
  obtain ⟨native, binary, ⟨-, refs, found⟩, rfl⟩ := advances
  exact every.reprogrammed (withstood.staged (every native binary refs found)
    (ProgramBinary.keys_advanced binary _))

theorem Joins.everyProgram {store after : Store} {handle : ProgramHandle}
    (joins : Joins store holds handle after) (every : store.EveryProgram holds) :
    after.EveryProgram holds := by
  obtain ⟨output, new, -, rfl⟩ := joins
  exact every.joined new

/-- A call that compiles, builds or links writes stages for devices that have one, or joins what is
known of other programs. -/
theorem everyProgram_build (formed : sim.store.WellFormed) (withstood : sim.store.Withstood holds)
    (every : sim.store.EveryProgram holds) (building : call.entryPoint.mutatesProgram = true) :
    Ends (answer call) sim (fun _ after => after.store.EveryProgram holds)
      (fun _ after => after.store.EveryProgram holds) := by
  have unchanged : ∀ store : Store, store = sim.store → store.EveryProgram holds :=
    fun store same => same ▸ every
  cases call with
  | programCompileFor program devices options =>
      refine (answers_programCompileFor.keeps every ?_ ?_).bind fun _ _ kept => kept
      · exact fun _ _ advances => advances.everyProgram formed withstood every
      · exact fun _ store failed => unchanged store failed.1
  | programCompile context program options =>
      refine (answers_programCompile.keeps every ?_ ?_).bind fun _ _ kept => kept
      · exact fun _ _ advances => advances.everyProgram withstood every
      · exact fun _ store failed => unchanged store failed.1
  | programBuildFor program devices options =>
      refine (answers_programBuildFor.keeps every ?_ ?_).bind fun _ _ kept => kept
      · exact fun _ _ advances => advances.everyProgram formed withstood every
      · exact fun _ store failed => unchanged store failed.1
  | programBuild context program options =>
      refine (answers_programBuild.keeps every ?_ ?_).bind fun _ _ kept => kept
      · exact fun _ _ advances => advances.everyProgram withstood every
      · exact fun _ store failed => unchanged store failed.1
  | programLinkFor context devices programs options =>
      refine ((works_linkFor fun _ => withstood.linked _ programs).keeps every ?_ ?_).bind
        fun _ _ kept => kept
      · rintro _ _ ⟨selected, -, joins⟩
        exact joins.everyProgram every
      · exact fun _ store failed => unchanged store failed.1
  | programLink context programs options =>
      refine ((works_link (withstood.linked _ programs)).keeps every ?_ ?_).bind
        fun _ _ kept => kept
      · exact fun _ _ joins => joins.everyProgram every
      · exact fun _ store failed => unchanged store failed.1
  | _ => cases building

theorem everyProgram_call (formed : sim.store.WellFormed) (withstood : sim.store.Withstood holds)
    (every : sim.store.EveryProgram holds) (call : Call) :
    (sim.after (.call call)).store.EveryProgram holds := by
  suffices ends : Ends (answer call) sim (fun _ after => after.store.EveryProgram holds)
      (fun _ after => after.store.EveryProgram holds) from ends_stateAfter.mp ends
  rcases counted : call.counted? with - | ⟨counting | counting, kind, id⟩
  case none =>
    by_cases building : call.entryPoint.mutatesProgram = true
    · exact everyProgram_build formed withstood every building
    · have leaves : LeavesNatives (answer call) sim :=
        leavesNatives_answer counted (Bool.eq_false_iff.mpr building)
      exact Ends.imp leaves (fun _ _ same => every.of_natives same)
        fun _ _ same => every.of_natives same
  case some.retain =>
    refine (answers_retained counted).keeps every ?_ ?_
    · rintro _ _ ⟨wrapper, -, -, rfl⟩
      exact every.of_natives rfl
    · rintro _ _ ⟨rfl, -⟩
      exact every
  case some.release =>
    refine (answers_released counted).keeps every ?_ ?_
    · rintro _ _ ⟨wrapper, -, -, released⟩
      exact every.of_spares released.spares
    · rintro _ _ (⟨rfl, -⟩ | ⟨wrapper, -, -, ⟨-, rfl, -⟩ | ⟨released, -⟩⟩)
      · exact every
      · exact every
      · exact every.of_spares released.spares

/-- A new native object is right for a program, if what is looked at first makes it so. -/
theorem everyProgram_create {α : Type} {store : Store} {data : NativeData} {look : StoreM α}
    {seen : Prop} (every : store.EveryProgram holds)
    (looks : Ends look store (fun _ after => after = store ∧ seen) fun _ after => after = store)
    (new : seen → ∀ binary, data = .program binary → holds binary) :
    Ends (do let _ ← look; Store.create data) store (fun _ after => after.EveryProgram holds)
      (fun _ after => after.EveryProgram holds) := by
  refine (looks.imp (fun _ _ done => done) fun _ _ same => same ▸ every).bind ?_
  rintro _ _ ⟨rfl, found⟩
  exact every.created (new found)

theorem everyProgram_setProgramStage {program device : NativeHandle} {stage : Stage}
    (withstood : sim.store.Withstood holds) (every : sim.store.EveryProgram holds) :
    Ends (setProgramStage program device stage) sim (fun _ after => after.store.EveryProgram holds)
      (fun _ after => after.store.EveryProgram holds) := by
  refine ends_onStore.mpr ((Store.ends_nativeProgram.imp (fun _ _ found => found) ?_).bind ?_)
  · rintro _ _ ⟨rfl, -⟩
    exact every
  rintro binary _ ⟨rfl, refs, found⟩
  split
  · rename_i known
    refine Store.ends_setProgram.imp ?_ fun _ _ failed => failed.elim
    rintro _ _ rfl
    have keys : (binary.stages.set device stage).keys = binary.stages.keys := by
      rw [Ledger.keys_set, if_pos ((Ledger.contains_iff_mem_keys _ _).mp known)]
    exact every.reprogrammed (withstood.staged (every program binary refs found) keys)
  · exact every

theorem everyProgram_act (withstood : sim.store.Withstood holds)
    (every : sim.store.EveryProgram holds) (action : CallerAction) :
    (sim.after (.caller action)).store.EveryProgram holds := by
  suffices ends : Ends (Session.act action) sim (fun _ after => after.store.EveryProgram holds)
      (fun _ after => after.store.EveryProgram holds) from ends_stateAfter.mp ends
  have looks : ∀ (kind : ObjectKind) handle, Ends (Store.native kind handle) sim.store
      (fun _ after => after = sim.store ∧ sim.store.HasNative kind handle)
      (fun _ after => after = sim.store) :=
    fun _ _ => Store.ends_native.imp (fun _ _ found => found) fun _ _ failed => failed.1
  have other : ∀ {data : NativeData}, data.kind ≠ .program →
      ∀ binary, data = .program binary → holds binary := by
    rintro _ different binary rfl
    exact absurd rfl different
  cases action with
  | createPlatform | createEvent | createMem =>
      exact every.created (other (by simp [NativeData.kind]))
  | createDevice platform =>
      exact (ends_onStore.mpr (everyProgram_create every (looks .platform platform)
        fun _ => other (by simp [NativeData.kind]))).bind fun _ _ kept => kept
  | createQueue device =>
      exact (ends_onStore.mpr (everyProgram_create every (looks .device device)
        fun _ => other (by simp [NativeData.kind]))).bind fun _ _ kept => kept
  | createContext devices =>
      exact (ends_onStore.mpr (everyProgram_create every ends_checkDevices
        fun _ => other (by simp [NativeData.kind]))).bind fun _ _ kept => kept
  | createProgram devices stage kernels =>
      refine (ends_onStore.mpr (everyProgram_create every ends_checkDevices ?_)).bind
        fun _ _ kept => kept
      rintro live _ ⟨⟩
      exact withstood.created devices stage kernels live
  | createKernel program name =>
      refine (ends_onStore.mpr ((Store.ends_nativeProgram.imp (fun _ _ found => found) ?_).bind
        ?_)).bind fun _ _ kept => kept
      · rintro _ _ ⟨rfl, -⟩
        exact every
      · rintro binary _ ⟨rfl, -⟩
        split
        · exact every.created (other (by simp [NativeData.kind]))
        · exact every
  | setStage program device stage =>
      exact (everyProgram_setProgramStage withstood every).bind fun _ _ kept => kept
  | retain handle =>
      refine ends_act_retain.imp ?_ ?_
      · rintro _ _ ⟨object, found, rfl⟩
        refine every.recorded ?_
        rintro binary isProgram
        obtain ⟨data, refs⟩ := object
        obtain rfl : data = .program binary := isProgram
        exact every handle binary refs found
      · rintro _ _ ⟨rfl, -⟩
        exact every
  | release handle =>
      refine ends_act_release.imp ?_ ?_
      · rintro _ _ ⟨-, rfl⟩
        exact every.dropped handle
      · rintro _ _ ⟨rfl, -⟩
        exact every.dropped handle
  | stage _ _ | nativeRefs _ | isAlive _ | wrapperRefs _ | programNative _ | liveWrappers
  | queueFlags _ | callCount _ | clearCalls | inject _ _ | lastOptions | config => exact every

/-- What holds of every program, and withstands what is done with programs, holds after any
operation. -/
theorem everyProgram_after (formed : sim.store.WellFormed) (withstood : sim.store.Withstood holds)
    (every : sim.store.EveryProgram holds) (operation : Operation) :
    (sim.after operation).store.EveryProgram holds := by
  cases operation with
  | caller action => exact everyProgram_act withstood every action
  | call call => exact everyProgram_call formed withstood every call

end EveryProgram

end Simulator

/-! ## One entry for each device -/

namespace Store

variable {store : Store}

/-- No device of a live program has two entries among its stages. -/
def Unambiguous (store : Store) : Prop :=
  ∀ handle binary refs, store.natives.get? handle = some ⟨.program binary, refs⟩ →
    binary.stages.keys.Nodup

theorem unambiguous_empty : ({} : Store).Unambiguous :=
  fun _ _ _ found => nomatch found

theorem ends_linkPrograms_distinct {wanted : NativeHandle → Bool} {programs : List ProgramHandle}
    {linked : ProgramBinary} (distinct : linked.stages.keys.Nodup) :
    Ends (Simulator.linkPrograms wanted programs linked) store
      (fun output after => after = store ∧ output.stages.keys.Nodup)
      (fun _ after => after = store ∧ True) := by
  induction programs generalizing linked with
  | nil => exact ⟨rfl, distinct⟩
  | cons program programs ih =>
      unfold Simulator.linkPrograms
      refine (ends_binaryBehind.imp (fun _ _ found => found)
        fun _ _ failed => ⟨failed.1, trivial⟩).bind ?_
      rintro input _ ⟨rfl, -⟩
      cases done : Simulator.linkDevices wanted input input.devices linked with
      | error e => exact ⟨rfl, trivial⟩
      | ok next =>
          have distinct' : next.stages.keys.Nodup := Simulator.nodup_keys_linkDevices done distinct
          exact ih distinct'

/-- The keys of the stages stay distinct. -/
theorem withstood_distinct : store.Withstood fun binary => binary.stages.keys.Nodup := by
  constructor
  case staged =>
    intro binary stages distinct keys
    exact keys ▸ distinct
  case linked => exact fun _ _ => ends_linkPrograms_distinct List.nodup_nil
  case created =>
    exact fun devices stage _ _ => Ledger.nodup_keys_foldl_set devices stage List.nodup_nil

end Store

namespace Simulator

variable {sim : Simulator}

/-- The stages of programs are unambiguous, whatever has been done with the backend. -/
theorem unambiguous_replay (formed : sim.store.WellFormed) (clear : sim.store.Unambiguous)
    (history : List Operation) : (sim.replay history).store.Unambiguous := by
  induction history generalizing sim with
  | nil => exact clear
  | cons operation history ih =>
      exact ih (wellFormed_after formed operation)
        (everyProgram_after formed Store.withstood_distinct clear operation)

end Simulator

end ComputeImport
