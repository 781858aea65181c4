import ComputeImport.Proofs.Program.Settling
import ComputeImport.Proofs.Store.Counts

/-!
# What the import of a program does to a store

The calls that an import makes for a program look at the store, count the wrappers that the import
has made itself, take the current program further, or link it into a new one.  `ImportStep` lists
what they make of the store, and `Framed` says what stays as it was through any number of them: every
native object but the imported program, and every wrapper that was there before.
-/

namespace ComputeImport

/-- The stage that unbuilt devices are taken to for a state; for the input they stay unbuilt. -/
def BundleState.goal? : BundleState → Option Stage
  | input => none
  | object => some .object
  | executable => some .executable

theorem Stage.goal?_of_plan {stage : Stage} {target : BundleState} {operation : BuildOperation}
    (planned : stage.plan target = .run operation) : target.goal? = some operation.goal := by
  cases stage <;> cases target <;> cases planned <;> rfl

namespace ProgramBinary

variable {target : BundleState} {binary old middle new : ProgramBinary} {stage : Stage}

/-- A program has kept its devices, its kernels and its stages, except that unbuilt devices may have
been taken to the stage that goes with a state. -/
structure Progresses (target : BundleState) (old new : ProgramBinary) : Prop where
  devices : new.devices = old.devices
  kernels : new.kernels = old.kernels
  stages : ∀ device, new.stages.get? device = old.stages.get? device ∨
    (old.stages.get? device = some .unbuilt ∧
      ∃ stage, target.goal? = some stage ∧ new.stages.get? device = some stage)

theorem Progresses.refl (binary : ProgramBinary) : binary.Progresses target binary :=
  ⟨rfl, rfl, fun _ => Or.inl rfl⟩

theorem Progresses.trans (first : old.Progresses target middle)
    (second : middle.Progresses target new) : old.Progresses target new := by
  constructor
  case devices => exact second.devices.trans first.devices
  case kernels => exact second.kernels.trans first.kernels
  case stages =>
    intro device
    rcases second.stages device with same | ⟨unbuilt, stage, goal, reached⟩
    · rcases first.stages device with same' | ⟨unbuilt, stage, goal, reached⟩
      · exact Or.inl (same.trans same')
      · exact Or.inr ⟨unbuilt, stage, goal, same.trans reached⟩
    · rcases first.stages device with same | ⟨unbuilt', -⟩
      · exact Or.inr ⟨same ▸ unbuilt, stage, goal, reached⟩
      · exact Or.inr ⟨unbuilt', stage, goal, reached⟩

theorem progresses_advancedFor {selected : List NativeHandle} (tidy : binary.IsTidy)
    (unbuilt : binary.Unbuilt selected) (goal : target.goal? = some stage) :
    binary.Progresses target (binary.advancedFor selected stage) := by
  refine ⟨rfl, rfl, fun device => ?_⟩
  rw [get?_advancedFor]
  split
  · rename_i member
    obtain ⟨isDevice, isUnbuilt⟩ := unbuilt device member
    exact Or.inr ⟨isUnbuilt ▸ tidy.stage_known isDevice, stage, goal, rfl⟩
  · exact Or.inl rfl

theorem progresses_advanced (goal : target.goal? = some stage) :
    binary.Progresses target (binary.advanced stage) := by
  refine ⟨rfl, rfl, fun device => ?_⟩
  rw [get?_advanced]
  cases binary.stages.get? device with
  | none => exact Or.inl rfl
  | some known =>
      by_cases isUnbuilt : known = .unbuilt
      · subst isUnbuilt
        exact Or.inr ⟨rfl, stage, goal, rfl⟩
      · exact Or.inl (by simp [isUnbuilt])

end ProgramBinary

/-! ## Single changes -/

namespace Store

variable {store after : Store} {handle native : NativeHandle} {id : Nat} {wrapper : Wrapper}

/-- A native object is there as it was before, or is missing as it was. -/
def SameNative (handle : NativeHandle) (store after : Store) : Prop :=
  after.natives.get? handle = store.natives.get? handle

/-- What is known of a native object is the same, and so are its references: it is the same. -/
theorem SameData.sameNative (data : store.SameData handle after)
    (live : ∀ object, store.natives.get? handle = some object →
      ∃ object', after.natives.get? handle = some object' ∧ object'.refs = object.refs) :
    store.SameNative handle after := by
  unfold SameNative
  cases found : store.natives.get? handle with
  | none =>
      rw [Option.eq_none_iff_forall_ne_some]
      intro object found'
      obtain ⟨refs, known⟩ := data object found'
      rw [found] at known
      contradiction
  | some object =>
      obtain ⟨object', found', same⟩ := live object found
      obtain ⟨refs, known⟩ := data object' found'
      obtain rfl := Option.some.inj (found.symm.trans known)
      have same : object'.refs = refs := same
      rw [found', ← same]

theorem get?_reprogrammed {old new : ProgramBinary} {refs : Nat}
    (found : store.natives.get? native = some ⟨.program old, refs⟩) :
    (store.reprogrammed native new).natives.get? handle =
      if native = handle then some ⟨.program new, refs⟩ else store.natives.get? handle := by
  unfold reprogrammed
  rw [found]
  exact Ledger.get?_set ..

@[simp]
theorem wrappers_reprogrammed (store : Store) (native : NativeHandle) (new : ProgramBinary) :
    (store.reprogrammed native new).wrappers = store.wrappers := by
  unfold reprogrammed
  split <;> rfl

@[simp]
theorem nextWrapper_reprogrammed (store : Store) (native : NativeHandle) (new : ProgramBinary) :
    (store.reprogrammed native new).nextWrapper = store.nextWrapper := by
  unfold reprogrammed
  split <;> rfl

@[simp]
theorem nextNative_reprogrammed (store : Store) (native : NativeHandle) (new : ProgramBinary) :
    (store.reprogrammed native new).nextNative = store.nextNative := by
  unfold reprogrammed
  split <;> rfl

theorem get?_joined (below : handle.raw < store.nextNative) (output : ProgramBinary) :
    (store.joined output).natives.get? handle = store.natives.get? handle := by
  rw [joined, wrapped, created, Ledger.get?_set, if_neg]
  rintro rfl
  exact Nat.lt_irrefl _ below

end Store

/-! ## The steps of an import -/

/-- An import of a program under way: the native program and whether the wrapper owns it, the state
that is asked for, and the wrapper. -/
structure Importing where
  native : NativeHandle
  ownsNative : Bool
  target : BundleState
  program : ProgramHandle

namespace Importing

/-- The programs that an import has made: the wrapper, and those that links have brought. -/
def held (importing : Importing) (newer : List ProgramHandle) : List ProgramHandle :=
  importing.program :: newer

/-- The program that is current, where the newest one comes first. -/
def current (importing : Importing) (newer : List ProgramHandle) : ProgramHandle :=
  newer.headD importing.program

end Importing

/-- What a call of an import makes of the store, and of the programs that links have brought. -/
inductive ImportStep (importing : Importing) (newer : List ProgramHandle) (store : Store) :
    List ProgramHandle → Store → Prop
  | quiet {after : Store} (quiet : store.Quiet after) :
      ImportStep importing newer store newer after
  | recounted {own : ProgramHandle} {wrapper : Wrapper} (refs : Nat)
      (held : own ∈ importing.held newer)
      (found : store.wrappers.get? own.id = some wrapper) :
      ImportStep importing newer store newer (store.recounted own.id { wrapper with refs })
  | discarded {own : ProgramHandle} {wrapper : Wrapper} (held : own ∈ importing.held newer)
      (found : store.wrappers.get? own.id = some wrapper) :
      ImportStep importing newer store newer (store.discarded own.id wrapper)
  | progressed {native : NativeHandle} {old new : ProgramBinary}
      (leads : store.Leads (importing.current newer) native old)
      (progresses : old.Progresses importing.target new) :
      ImportStep importing newer store newer (store.reprogrammed native new)
  | joined (output : ProgramBinary) :
      ImportStep importing newer store (⟨store.nextWrapper⟩ :: newer) (store.joined output)

/-- What has stayed as it was since an import started, and what the import has made. -/
structure Framed (importing : Importing) (start : Store) (newer : List ProgramHandle)
    (store : Store) : Prop where
  started : start.WellFormed
  formed : store.WellFormed
  live : start.HasNative .program importing.native
  nextNative_le : start.nextNative ≤ store.nextNative
  natives : ∀ other object, other ≠ importing.native → start.natives.get? other = some object →
    store.natives.get? other = some object
  wrappers : ∀ id wrapper, start.wrappers.get? id = some wrapper →
    store.wrappers.get? id = some wrapper
  program : ∀ new refs, store.natives.get? importing.native = some ⟨.program new, refs⟩ →
    ∃ old refs', start.natives.get? importing.native = some ⟨.program old, refs'⟩ ∧
      old.Progresses importing.target new
  kept : importing.ownsNative = false → ∀ old refs,
    start.natives.get? importing.native = some ⟨.program old, refs⟩ →
    ∃ new, store.natives.get? importing.native = some ⟨.program new, refs⟩
  new : ∀ own ∈ importing.held newer, start.nextWrapper ≤ own.id ∧ own.id < store.nextWrapper
  imported : ∀ wrapper, store.wrappers.get? importing.program.id = some wrapper →
    wrapper.native = importing.native ∧ wrapper.ownsNative = importing.ownsNative
  /-- Links have brought new native programs only. -/
  linked : ∀ own ∈ newer, ∀ wrapper, store.wrappers.get? own.id = some wrapper →
    start.nextNative ≤ wrapper.native.raw

/-- An import starts when it has wrapped the program. -/
theorem Framed.wrapped {start : Store} {native : NativeHandle} {ownsNative : Bool}
    {target : BundleState} {refs : Nat} (formed : start.WellFormed)
    (live : start.HasNative .program native) :
    Framed ⟨native, ownsNative, target, ⟨start.nextWrapper⟩⟩ start []
      (start.wrapped .program native ownsNative refs) := by
  have growth : Store.Growth (fun _ => True) start
      (start.wrapped .program native ownsNative refs) :=
    .wrapped ownsNative refs trivial (by decide) live (by rintro _ ⟨⟩)
  constructor
  case started => exact formed
  case formed => exact growth.wellFormed formed
  case live => exact live
  case nextNative_le => exact Nat.le_refl _
  case natives => exact fun _ _ _ found => found
  case wrappers => exact fun _ _ found => formed.get?_wrapped found
  case program => exact fun new refs found => ⟨new, refs, found, .refl new⟩
  case kept => exact fun _ old _ found => ⟨old, found⟩
  case new =>
    intro own member
    obtain rfl := List.mem_singleton.mp member
    exact ⟨Nat.le_refl _, Nat.lt_succ_self _⟩
  case imported =>
    intro wrapper found
    have known : (start.wrapped .program native ownsNative refs).wrappers.get? start.nextWrapper =
        some ⟨.program, native, refs, ownsNative⟩ := by simp [Store.wrapped]
    obtain rfl := Option.some.inj (known.symm.trans found)
    exact ⟨rfl, rfl⟩
  case linked => exact fun _ member => absurd member List.not_mem_nil

/-- What a step of an import makes of a native object that was there when the import started. -/
inductive Touched (importing : Importing) (newer : List ProgramHandle) (store after : Store)
    (handle : NativeHandle) : Prop
  | same (equal : after.natives.get? handle = store.natives.get? handle)
  | returned (isNative : handle = importing.native) (owns : importing.ownsNative = true)
      (data : store.SameData handle after)
  | progressed {old new : ProgramBinary} {refs : Nat} (isNative : handle = importing.native)
      (unlinked : newer = []) (found : store.natives.get? handle = some ⟨.program old, refs⟩)
      (found' : after.natives.get? handle = some ⟨.program new, refs⟩)
      (progresses : old.Progresses importing.target new)

section Steps

variable {importing : Importing} {start store after : Store} {newer newer' : List ProgramHandle}

theorem Framed.below (framed : Framed importing start newer store) :
    importing.native.raw < start.nextNative := by
  obtain ⟨object, found, -⟩ := framed.live
  exact framed.started.native_lt _ object found

/-- What a wrapper of the import is put around, if it was there when the import started, is the
imported program. -/
theorem Framed.wraps_native (framed : Framed importing start newer store) {own : ProgramHandle}
    {wrapper : Wrapper} (held : own ∈ importing.held newer)
    (found : store.wrappers.get? own.id = some wrapper)
    (old : wrapper.native.raw < start.nextNative) :
    own ∉ newer ∧ wrapper.native = importing.native ∧
      wrapper.ownsNative = importing.ownsNative := by
  have unlinked : own ∉ newer :=
    fun member => absurd old (Nat.not_lt.mpr (framed.linked own member wrapper found))
  rcases List.mem_cons.mp held with rfl | member
  · exact ⟨unlinked, framed.imported wrapper found⟩
  · exact absurd member unlinked

theorem ImportStep.touched (step : ImportStep importing newer store newer' after)
    (framed : Framed importing start newer store) {handle : NativeHandle}
    (old : handle.raw < start.nextNative) : Touched importing newer store after handle := by
  cases step with
  | quiet quiet => exact .same (by rw [quiet.natives])
  | recounted => exact .same rfl
  | @discarded own wrapper held found =>
      by_cases owned : wrapper.ownsNative = true ∧ wrapper.native = handle
      · obtain ⟨owns, rfl⟩ := owned
        obtain ⟨-, isNative, same⟩ := framed.wraps_native held found old
        exact .returned isNative (same ▸ owns) (Store.sameData_discarded _)
      · exact .same (Store.get?_discarded_of_not_owned owned)
  | @progressed native before new leads progresses =>
      obtain ⟨⟨wrapper, found, -, isBehind⟩, refs, known⟩ := leads
      by_cases equal : native = handle
      · subst equal
        subst isBehind
        cases newer with
        | nil =>
            obtain ⟨-, isNative, -⟩ := framed.wraps_native List.mem_cons_self found old
            exact .progressed isNative rfl known
              ((Store.get?_reprogrammed known).trans (if_pos rfl)) progresses
        | cons latest earlier =>
            have above := framed.linked latest List.mem_cons_self wrapper found
            exact absurd old (Nat.not_lt.mpr above)
      · exact .same ((Store.get?_reprogrammed known).trans (if_neg equal))
  | joined output =>
      exact .same (Store.get?_joined (Nat.lt_of_lt_of_le old framed.nextNative_le) output)

theorem ImportStep.nextNative_le (step : ImportStep importing newer store newer' after)
    (formed : store.WellFormed) : store.nextNative ≤ after.nextNative := by
  cases step with
  | quiet quiet => exact (quiet.grows.spawns formed).bound
  | recounted => exact Nat.le_refl _
  | discarded => simp
  | progressed => simp
  | joined => exact Nat.le_succ _

theorem ImportStep.nextWrapper_le (step : ImportStep importing newer store newer' after) :
    store.nextWrapper ≤ after.nextWrapper := by
  cases step with
  | quiet quiet => exact quiet.grows.nextWrapper_le
  | recounted => exact Nat.le_refl _
  | discarded => simp
  | progressed => simp
  | joined => exact Nat.le_succ _

/-- A wrapper whose number was in use is put around what it was put around before. -/
theorem ImportStep.wrapper_eq (step : ImportStep importing newer store newer' after) {id : Nat}
    {wrapper : Wrapper} (below : id < store.nextWrapper)
    (found : after.wrappers.get? id = some wrapper) :
    ∃ refs, store.wrappers.get? id = some { wrapper with refs } := by
  cases step with
  | quiet quiet =>
      rcases quiet.grows.wrappers_cases found with found | ⟨above, -⟩
      · exact ⟨wrapper.refs, found⟩
      · exact absurd below (Nat.not_lt.mpr above)
  | recounted refs held known =>
      rcases Store.recounted_cases found with ⟨rfl, rfl⟩ | found
      · exact ⟨_, known⟩
      · exact ⟨wrapper.refs, found⟩
  | discarded =>
      rw [Store.wrappers_discarded, Ledger.get?_erase] at found
      split at found
      · contradiction
      · exact ⟨wrapper.refs, found⟩
  | progressed =>
      rw [Store.wrappers_reprogrammed] at found
      exact ⟨wrapper.refs, found⟩
  | joined output =>
      rcases Store.wrapped_cases found with ⟨rfl, -⟩ | found
      · exact absurd below (Nat.lt_irrefl _)
      · exact ⟨wrapper.refs, found⟩

/-- A wrapper that was there when the import started stays as it is. -/
theorem ImportStep.get?_wrappers (step : ImportStep importing newer store newer' after)
    (framed : Framed importing start newer store) {id : Nat} {wrapper : Wrapper}
    (found : start.wrappers.get? id = some wrapper) : after.wrappers.get? id = some wrapper := by
  have known := framed.wrappers id wrapper found
  have other : ∀ own ∈ importing.held newer, own.id ≠ id := by
    rintro own held rfl
    have below := framed.started.wrapper_lt _ _ found
    exact absurd below (Nat.not_lt.mpr (framed.new own held).1)
  cases step with
  | quiet quiet => exact quiet.grows.get?_wrappers framed.formed known
  | recounted refs held =>
      rw [Store.recounted, Ledger.get?_set, if_neg (other _ held)]
      exact known
  | discarded held =>
      rw [Store.wrappers_discarded, Ledger.get?_erase, if_neg (other _ held)]
      exact known
  | progressed =>
      rw [Store.wrappers_reprogrammed]
      exact known
  | joined output =>
      have formed : (store.created (.program output)).wrappers.get? id = some wrapper := known
      have below := framed.formed.wrapper_lt id wrapper known
      rw [Store.joined, Store.wrapped, Ledger.get?_set, if_neg]
      · exact formed
      · exact Nat.ne_of_gt below

/-- A step keeps the frame of what had been made before it. -/
theorem Framed.past (framed : Framed importing start newer store)
    (step : ImportStep importing newer store newer' after) (formed : after.WellFormed) :
    Framed importing start newer after := by
  have native := step.touched framed framed.below
  constructor
  case started => exact framed.started
  case formed => exact formed
  case live => exact framed.live
  case nextNative_le => exact Nat.le_trans framed.nextNative_le (step.nextNative_le framed.formed)
  case natives =>
    intro other object different found
    have known := framed.natives other object different found
    cases step.touched framed (framed.started.native_lt other object found) with
    | same equal => exact equal.trans known
    | returned isNative => exact absurd isNative different
    | progressed isNative => exact absurd isNative different
  case wrappers => exact fun id wrapper found => step.get?_wrappers framed found
  case program =>
    intro new refs found
    cases native with
    | same equal => exact framed.program new refs (equal ▸ found)
    | returned _ _ data =>
        obtain ⟨refs', found⟩ := data _ found
        exact framed.program new refs' found
    | progressed _ _ known known' progresses =>
        obtain ⟨old, refs', found', before⟩ := framed.program _ _ known
        obtain ⟨rfl, rfl⟩ : new = _ ∧ refs = _ := by simpa using found.symm.trans known'
        exact ⟨old, refs', found', before.trans progresses⟩
  case kept =>
    intro kept old refs found
    obtain ⟨new, known⟩ := framed.kept kept old refs found
    cases native with
    | same equal => exact ⟨new, equal.trans known⟩
    | returned _ owns =>
        rw [kept] at owns
        contradiction
    | progressed _ _ known' found' =>
        obtain ⟨-, rfl⟩ : new = _ ∧ refs = _ := by simpa using known.symm.trans known'
        exact ⟨_, found'⟩
  case new =>
    intro own held
    obtain ⟨above, below⟩ := framed.new own held
    exact ⟨above, Nat.lt_of_lt_of_le below step.nextWrapper_le⟩
  case imported =>
    intro wrapper found
    obtain ⟨refs, found⟩ := step.wrapper_eq (framed.new _ List.mem_cons_self).2 found
    exact framed.imported { wrapper with refs } found
  case linked =>
    intro own member wrapper found
    have held : own ∈ importing.held newer := List.mem_cons_of_mem _ member
    obtain ⟨refs, found⟩ := step.wrapper_eq (framed.new own held).2 found
    exact framed.linked own member { wrapper with refs } found

/-- The program that a link brings is one of those that the import has made. -/
theorem Framed.join (framed : Framed importing start newer store) {output : ProgramBinary}
    (formed : (store.joined output).WellFormed) :
    Framed importing start (⟨store.nextWrapper⟩ :: newer) (store.joined output) := by
  have joined := framed.past (.joined output) formed
  have wrapper_le : start.nextWrapper ≤ store.nextWrapper := by
    obtain ⟨above, below⟩ := framed.new _ List.mem_cons_self
    omega
  constructor
  case started => exact joined.started
  case formed => exact joined.formed
  case live => exact joined.live
  case nextNative_le => exact joined.nextNative_le
  case natives => exact joined.natives
  case wrappers => exact joined.wrappers
  case program => exact joined.program
  case kept => exact joined.kept
  case new =>
    intro own held
    rcases List.mem_cons.mp held with rfl | member
    · exact joined.new _ List.mem_cons_self
    · rcases List.mem_cons.mp member with rfl | member
      · exact ⟨wrapper_le, Nat.lt_succ_self _⟩
      · exact joined.new own (List.mem_cons_of_mem _ member)
  case imported => exact joined.imported
  case linked =>
    intro own member wrapper found
    rcases List.mem_cons.mp member with rfl | member
    · have known : (store.joined output).wrappers.get? store.nextWrapper =
          some ⟨.program, ⟨store.nextNative⟩, 1, true⟩ := by
        simp [Store.joined, Store.wrapped, Store.created]
      obtain rfl := Option.some.inj (known.symm.trans found)
      exact framed.nextNative_le
    · exact joined.linked own member wrapper found

/-- Every step of an import keeps the frame. -/
theorem Framed.step (framed : Framed importing start newer store)
    (step : ImportStep importing newer store newer' after) (formed : after.WellFormed) :
    Framed importing start newer' after := by
  cases step with
  | quiet quiet => exact framed.past (.quiet quiet) formed
  | recounted refs held found => exact framed.past (.recounted refs held found) formed
  | discarded held found => exact framed.past (.discarded held found) formed
  | progressed leads progresses => exact framed.past (.progressed leads progresses) formed
  | joined => exact framed.join formed

/-- Once a link has brought a new program, a program that the caller keeps stays as it is. -/
theorem ImportStep.sameNative (step : ImportStep importing newer store newer' after)
    (framed : Framed importing start newer store) (linked : newer ≠ [])
    (kept : importing.ownsNative = false) : store.SameNative importing.native after := by
  cases step.touched framed framed.below with
  | same equal => exact equal
  | returned _ owns =>
      rw [kept] at owns
      contradiction
  | progressed _ unlinked => exact absurd unlinked linked

/-- Once a link has brought a new program, what is known of the imported one does not change. -/
theorem ImportStep.sameData (step : ImportStep importing newer store newer' after)
    (framed : Framed importing start newer store) (linked : newer ≠ []) :
    store.SameData importing.native after := by
  cases step.touched framed framed.below with
  | same equal => exact .of_eq equal
  | returned _ _ data => exact data
  | progressed _ unlinked => exact absurd unlinked linked

end Steps

end ComputeImport
