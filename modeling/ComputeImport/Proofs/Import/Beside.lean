import ComputeImport.Proofs.Import.Frame
import ComputeImport.Proofs.Simulator.Placing

/-!
# What others see of the import of a program

Wherever the import of a program stops, it has left all native objects alone that were there, but
for the program itself, and has only added programs and wrappers of programs, platforms and devices.
`Store.Beside` says so, and every `ImportStep` keeps it.
-/

namespace ComputeImport

/-- What has become of a store while a native program has been imported. -/
structure Store.Beside (native : NativeHandle) (start store : Store) : Prop where
  formed : store.WellFormed
  nextNative_le : start.nextNative ≤ store.nextNative
  nextWrapper_le : start.nextWrapper ≤ store.nextWrapper
  others : ∀ handle : NativeHandle, handle.raw < start.nextNative → handle ≠ native →
    start.SameNative handle store
  /-- The imported native object is a program, and all new ones are. -/
  programs : ∀ handle object, store.natives.get? handle = some object →
    handle = native ∨ start.nextNative ≤ handle.raw → object.data.kind = .program
  wrappers : ∀ id wrapper, start.wrappers.get? id = some wrapper →
    store.wrappers.get? id = some wrapper
  /-- New wrappers are not of contexts, and what was wrapped has not changed. -/
  contexts : ∀ context : ContextHandle, store.HasWrapper context → start.HasWrapper context
  behind : ∀ id wrapper, id < start.nextWrapper → store.wrappers.get? id = some wrapper →
    ∃ refs, start.wrappers.get? id = some { wrapper with refs }
  remembers : start.Remembers store

namespace Store.Beside

variable {native : NativeHandle} {start store after : Store}

theorem refl (formed : store.WellFormed) (live : store.HasNative .program native) :
    store.Beside native store := by
  constructor
  case formed => exact formed
  case nextNative_le => exact Nat.le_refl _
  case nextWrapper_le => exact Nat.le_refl _
  case others => exact fun _ _ _ => rfl
  case programs =>
    rintro handle object found (rfl | new)
    · obtain ⟨imported, found', isProgram⟩ := live
      obtain rfl := Option.some.inj (found.symm.trans found')
      exact isProgram
    · exact absurd new (Nat.not_le.mpr (formed.native_lt handle object found))
  case wrappers => exact fun _ _ => id
  case contexts => exact fun _ => id
  case behind => exact fun id wrapper _ found => ⟨wrapper.refs, found⟩
  case remembers => exact .refl _

end Store.Beside

section Steps

variable {importing : Importing} {start store after : Store} {newer newer' : List ProgramHandle}

/-- A step of an import brings no native objects but programs. -/
theorem ImportStep.programs (step : ImportStep importing newer store newer' after)
    {handle : NativeHandle} {object : NativeObject}
    (found : after.natives.get? handle = some object) :
    object.data.kind = .program ∨
      ∃ old, store.natives.get? handle = some old ∧ old.data.kind = object.data.kind := by
  cases step with
  | quiet quiet =>
      rw [quiet.natives] at found
      exact Or.inr ⟨object, found, rfl⟩
  | recounted => exact Or.inr ⟨object, found, rfl⟩
  | discarded =>
      obtain ⟨refs, found⟩ := Store.sameData_discarded _ _ found
      exact Or.inr ⟨_, found, rfl⟩
  | progressed leads =>
      obtain ⟨-, refs, known⟩ := leads
      rw [Store.get?_reprogrammed known] at found
      split at found
      · obtain rfl := Option.some.inj found
        exact Or.inl rfl
      · exact Or.inr ⟨object, found, rfl⟩
  | joined output =>
      rcases Store.created_cases found with ⟨-, rfl⟩ | found
      · exact Or.inl rfl
      · exact Or.inr ⟨object, found, rfl⟩

/-- A step of an import wraps no contexts. -/
theorem ImportStep.contexts (step : ImportStep importing newer store newer' after)
    {context : ContextHandle} (live : after.HasWrapper context) : store.HasWrapper context := by
  obtain ⟨wrapper, found, isContext⟩ := live
  cases step with
  | quiet quiet =>
      rcases quiet.grows.wrappers_cases found with found | ⟨-, never | isPlatform | isDevice⟩
      · exact ⟨wrapper, found, isContext⟩
      · exact never.elim
      · exact nomatch isPlatform.symm.trans isContext
      · exact nomatch isDevice.symm.trans isContext
  | @recounted own counted refs held known =>
      rcases Store.recounted_cases found with ⟨isOwn, rfl⟩ | found
      · exact ⟨counted, isOwn ▸ known, isContext⟩
      · exact ⟨wrapper, found, isContext⟩
  | discarded =>
      rw [Store.wrappers_discarded, Ledger.get?_erase] at found
      split at found
      · contradiction
      · exact ⟨wrapper, found, isContext⟩
  | progressed =>
      rw [Store.wrappers_reprogrammed] at found
      exact ⟨wrapper, found, isContext⟩
  | joined output =>
      rcases Store.wrapped_cases found with ⟨-, rfl⟩ | found
      · contradiction
      · exact ⟨wrapper, found, isContext⟩

theorem ImportStep.remembers (step : ImportStep importing newer store newer' after) :
    store.Remembers after := by
  cases step with
  | quiet quiet => exact quiet.grows.remembers
  | recounted => exact .of_caches rfl rfl
  | discarded => exact Store.remembers_discarded ..
  | progressed =>
      unfold Store.reprogrammed
      split <;> exact .of_caches rfl rfl
  | joined => exact .of_caches rfl rfl

theorem Store.Beside.step (beside : start.Beside importing.native store)
    (framed : Framed importing start newer store)
    (step : ImportStep importing newer store newer' after) (formed : after.WellFormed) :
    start.Beside importing.native after := by
  constructor
  case formed => exact formed
  case nextNative_le => exact Nat.le_trans beside.nextNative_le (step.nextNative_le beside.formed)
  case nextWrapper_le => exact Nat.le_trans beside.nextWrapper_le step.nextWrapper_le
  case others =>
    intro handle old other
    cases step.touched framed old with
    | same equal => exact equal.trans (beside.others handle old other)
    | returned isNative => exact absurd isNative other
    | progressed isNative => exact absurd isNative other
  case programs =>
    intro handle object found concerns
    rcases step.programs found with isProgram | ⟨old, known, sameKind⟩
    · exact isProgram
    · exact sameKind ▸ beside.programs handle old known concerns
  case wrappers => exact fun id wrapper => step.get?_wrappers framed
  case contexts => exact fun context live => beside.contexts context (step.contexts live)
  case behind =>
    intro id wrapper old found
    obtain ⟨refs, known⟩ := step.wrapper_eq (Nat.lt_of_lt_of_le old beside.nextWrapper_le) found
    obtain ⟨refs', known'⟩ := beside.behind id { wrapper with refs } old known
    exact ⟨refs', known'⟩
  case remembers => exact beside.remembers.trans step.remembers

end Steps

section Imports

variable {table : Table} {host after : Host} {native : NativeHandle} {context : ContextHandle}
  {ownsNative : Bool} {exchanges : List Exchange}

/-- The import starts when the program has been wrapped. -/
theorem Store.Beside.wrapped {start : Store} (formed : start.WellFormed)
    (live : start.HasNative .program native) (ownsNative : Bool) (refs : Nat) :
    start.Beside native (start.wrapped .program native ownsNative refs) := by
  have growth : start.Growth (fun kind => kind = .program)
      (start.wrapped .program native ownsNative refs) :=
    .wrapped ownsNative refs rfl ⟨nofun, nofun⟩ live nofun
  constructor
  case formed => exact growth.wellFormed formed
  case nextNative_le => exact Nat.le_refl _
  case nextWrapper_le => exact growth.nextWrapper_le
  case others => exact fun _ _ _ => rfl
  case programs => exact (Store.Beside.refl formed live).programs
  case wrappers => exact fun _ _ => formed.get?_wrapped
  case contexts =>
    rintro context ⟨wrapper, found, isContext⟩
    rcases Store.wrapped_cases found with ⟨-, rfl⟩ | found
    · contradiction
    · exact ⟨wrapper, found, isContext⟩
  case behind =>
    intro id wrapper old found
    rcases Store.wrapped_cases found with ⟨rfl, -⟩ | found
    · exact absurd old (Nat.lt_irrefl _)
    · exact ⟨wrapper.refs, found⟩
  case remembers => exact growth.remembers

theorem Framed.beside {importing : Importing} {start : Store} {newer : List ProgramHandle}
    (framed : Framed importing start newer (host.simulator table.simulator).store)
    (beside : start.Beside importing.native (host.simulator table.simulator).store)
    (careful : Careful importing newer exchanges)
    (converses : Converses table host exchanges after) :
    start.Beside importing.native (after.simulator table.simulator).store := by
  induction converses generalizing newer with
  | done => exact beside
  | aside same _ ih =>
      rw [Host.simulator, ← same] at beside framed
      exact ih framed beside careful
  | said happens _ ih =>
      obtain ⟨permitted, careful⟩ := careful
      obtain ⟨step, formed⟩ := happens.importStep framed.formed permitted
      exact ih (framed.step step formed) (beside.step framed step formed) careful

/-- Whatever an import says, the store goes on as `Store.Beside` tells. -/
theorem ImportsProgram.beside {builder : Builder} {target : BundleState}
    {outcome : Except ImportError KernelBundle}
    (formed : (host.simulator table.simulator).store.WellFormed)
    (live : (host.simulator table.simulator).store.HasNative .program native)
    (imports : ImportsProgram builder target native ownsNative exchanges outcome)
    (converses : Converses table host exchanges after) :
    (host.simulator table.simulator).store.Beside native
      (after.simulator table.simulator).store := by
  rcases imports.careful with ⟨e, rfl, -⟩ | ⟨program, rest, rfl, careful, -⟩
  · rw [converses.unwrapped]
    exact .refl formed live
  · obtain ⟨next, refs, ⟨-, isNext, equal⟩, later⟩ := converses.wrapped
    have begun : (host.simulator table.simulator).store.Beside native
        (next.simulator table.simulator).store := by
      rw [equal]
      exact .wrapped formed live ownsNative refs
    have framed : Framed ⟨native, ownsNative, target, program⟩
        (host.simulator table.simulator).store [] (next.simulator table.simulator).store := by
      rw [equal, isNext]
      exact .wrapped formed live
    exact framed.beside begun careful later

/-- However an import ends, its backend has only been called, and its store has gone on as
`Store.Beside` tells. -/
theorem ends_importProgram_beside {registry : Registry} {backend : Backend} {context : Context}
    {keeps : Bool} {target : BundleState} {number : Nat}
    (through : ∀ provider, registry.provider? backend = some provider →
      provider.table.simulator = number)
    (formed : (host.simulator number).store.WellFormed)
    (live : (host.simulator number).store.HasNative .program native) :
    Ends (importProgram registry native context keeps target backend) host
      (fun _ after => (host.simulator number).store.Beside native (after.simulator number).store ∧
        Simulator.Did (fun _ => True) (host.simulator number) (after.simulator number))
      (fun _ after => (host.simulator number).store.Beside native (after.simulator number).store ∧
        Simulator.Did (fun _ => True) (host.simulator number) (after.simulator number)) := by
  cases resolved : registry.provider? backend with
  | none =>
      apply (ends_importProgram_unresolved resolved).imp
      · exact fun _ _ => False.elim
      · intro _ after same
        rw [Host.simulator_of_simulators same]
        exact ⟨.refl formed live, .refl _⟩
  | some provider =>
      obtain rfl := through provider resolved
      apply (talks_importProgram resolved native context keeps target host).imp
      · rintro bundle after ⟨exchanges, converses, imports⟩
        exact ⟨imports.beside formed live converses, converses.did⟩
      · rintro e after ⟨exchanges, converses, imports⟩
        exact ⟨imports.beside formed live converses, converses.did⟩

end Imports

end ComputeImport
