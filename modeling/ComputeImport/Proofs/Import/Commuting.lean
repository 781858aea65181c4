import ComputeImport.Proofs.Import.Beside
import ComputeImport.Proofs.Import.Echo

/-!
# Imports of different programs commute

Two native programs of one backend are imported one after the other.  Whichever is first, each of
the imports ends as it does in the other order, but for the names of what the two make, and every
native object that was there before is the same at the end.
-/

namespace ComputeImport

open Simulator

/-! ## Importing and holding -/

/-- A request to import a native program. -/
structure ProgramImport where
  registry : Registry
  native : NativeHandle
  context : Context
  keeps : Bool
  target : BundleState
  backend : Backend

namespace ProgramImport

/-- The import that is asked for. -/
def run (request : ProgramImport) : ImportM KernelBundle :=
  importProgram request.registry request.native request.context request.keeps request.target
    request.backend

/-- Do the import, and hold the bundle that it brings under a name, which is taken to be free. -/
def into (request : ProgramImport) (name : String) (host : Host) :
    Except ImportError KernelBundle × Host :=
  match request.run host with
  | .ok bundle host => (.ok bundle, { host with held := host.held.set name (.bundle bundle) })
  | .error e host => (.error e, host)

/-- The import has to do with the backend with a given number, if it finds any. -/
def Through (request : ProgramImport) (number : Nat) : Prop :=
  ∀ provider, request.registry.provider? request.backend = some provider →
    provider.table.simulator = number

/-- Two imports have ended alike: with bundles, or failures, that are the same but for names. -/
inductive Echoes (programs : ProgramHandle → ProgramHandle → Prop)
    (devices : DeviceHandle → DeviceHandle → Prop) (base : Nat) :
    Except ImportError KernelBundle → Except ImportError KernelBundle → Prop
  | ok {bundle bundle' : KernelBundle} (same : bundle.Echoes programs devices bundle') :
      Echoes programs devices base (.ok bundle) (.ok bundle')
  | error {e e' : ImportError} (same : e.Echoes devices base e') :
      Echoes programs devices base (.error e) (.error e')

theorem Echoes.imp {programs programs' : ProgramHandle → ProgramHandle → Prop}
    {devices devices' : DeviceHandle → DeviceHandle → Prop} {base : Nat}
    {outcome outcome' : Except ImportError KernelBundle}
    (echoes : Echoes programs devices base outcome outcome')
    (allows : ∀ program program', programs program program' → programs' program program')
    (allows' : ∀ device device', devices device device' → devices' device device') :
    Echoes programs' devices' base outcome outcome' := by
  cases echoes with
  | ok same => exact .ok (same.imp allows allows')
  | error same => exact .error (same.imp allows')

variable {request : ProgramImport} {number : Nat} {host host' : Host}

theorem into_beside (name : String) (through : request.Through number)
    (formed : (host.simulator number).store.WellFormed)
    (live : (host.simulator number).store.HasNative .program request.native) :
    (host.simulator number).store.Beside request.native
        ((request.into name host).2.simulator number).store ∧
      Did (fun _ => True) (host.simulator number)
        ((request.into name host).2.simulator number) := by
  have ends : Ends request.run host _ _ := ends_importProgram_beside through formed live
  unfold into
  cases outcome : request.run host with
  | ok bundle after =>
      have kept := ends.of_ok outcome
      exact kept
  | error e after =>
      have kept := ends.of_error outcome
      exact kept

/-- The import ends alike at two hosts whose stores are related. -/
theorem into_echoes {relocation : Relocation} {base : Nat} (name : String)
    (isNative : request.native = relocation.native) (through : request.Through number)
    (peers : Peers (host.simulator number) (host'.simulator number))
    (relates : relocation.Relates (host.simulator number).store (host'.simulator number).store)
    (live : (host.simulator number).store.HasNative .program request.native)
    (inContext : (host.simulator number).store.HasWrapper request.context.handle ↔
      (host'.simulator number).store.HasWrapper request.context.handle)
    (new : base ≤ (host.simulator number).store.nextWrapper)
    (new' : base ≤ (host'.simulator number).store.nextWrapper) :
    let store := ((request.into name host).2.simulator number).store
    let store' := ((request.into name host').2.simulator number).store
    relocation.Relates store store' ∧
      Echoes (relocation.SameProgram store store') (store.SameDevice store') base
        (request.into name host).1 (request.into name host').1 := by
  have pairs := Relocation.pairs_importProgram request.keeps request.target through relates
    (isNative ▸ live) inContext new new'
  rw [← isNative] at pairs
  rcases (pairs host host' peers rfl rfl).cases with
    ⟨bundle, after, bundle', after', outcome, outcome', -, relates, echoes⟩ |
    ⟨e, after, e', after', outcome, outcome', -, relates, echoes⟩
  · unfold into run
    rw [outcome, outcome']
    exact ⟨relates, .ok echoes⟩
  · unfold into run
    rw [outcome, outcome']
    exact ⟨relates, .error echoes⟩

end ProgramImport

/-! ## Names in either order -/

/-- Two numbers are the same, or both have been given out from a bound on. -/
def Renumbered (bound number number' : Nat) : Prop :=
  number' = number ∨ bound ≤ number ∧ bound ≤ number'

namespace Store

variable {start store store' : Store} {native imported : NativeHandle}

/-- Two wrappers lead to native programs with the same devices, kernels and stages: to the same one,
or to one each that has been made since. -/
def SamePrograms (start store store' : Store) (program program' : ProgramHandle) : Prop :=
  ∃ native native' binary, store.Leads program native binary ∧
    store'.Leads program' native' binary ∧
    Renumbered start.nextNative native.raw native'.raw

/-- Two wrappers of the same native device: the same one, or one each that has been made since. -/
def SameDevices (start store store' : Store) (device device' : DeviceHandle) : Prop :=
  store.SameDevice store' device device' ∧ Renumbered start.nextWrapper device.id device'.id

/-- Another program is imported at a store where one has been imported as at one where none has. -/
theorem Beside.relates (beside : start.Beside native store) (started : start.WellFormed)
    (live : start.HasNative .program native) (below : imported.raw < start.nextNative)
    (distinct : imported ≠ native) :
    (⟨imported, start.nextNative, store.nextNative - start.nextNative, below⟩ :
      Relocation).Relates start store := by
  constructor
  case formed => exact started
  case formed' => exact beside.formed
  case ground =>
    intro handle data ground
    have other : data.kind ≠ .program := by
      rintro isProgram
      rw [isProgram] at ground
      exact ground.elim nofun nofun
    constructor
    · rintro ⟨refs, found⟩
      have isOther : handle ≠ native := by
        rintro rfl
        obtain ⟨object, found', isProgram⟩ := live
        obtain rfl := Option.some.inj (found.symm.trans found')
        exact other isProgram
      exact ⟨refs, (beside.others handle (started.native_lt _ _ found) isOther).trans found⟩
    · rintro ⟨refs, found⟩
      obtain ⟨isOther, old⟩ := not_or.mp fun concerns =>
        other (beside.programs handle _ found concerns)
      exact ⟨refs, (beside.others handle (Nat.lt_of_not_le old) isOther).symm.trans found⟩
  case natives =>
    rintro handle (rfl | new)
    · rw [Relocation.rename_native]
      exact beside.others _ below distinct
    · rw [Relocation.rename_of_le new, started.dead_of_le new, beside.formed.dead_of_le]
      have grown := beside.nextNative_le
      dsimp only at new ⊢
      omega
  case first_le => exact Nat.le_refl _
  case next => exact (Nat.add_sub_of_le beside.nextNative_le).symm

/-- The wrappers of devices are those that were there, and others with new numbers. -/
structure AddsDevices (start store : Store) : Prop where
  bound : start.nextWrapper ≤ store.nextWrapper
  kept : ∀ native device, start.deviceWrappers.get? native = some device →
    store.deviceWrappers.get? native = some device
  new : ∀ native device, store.deviceWrappers.get? native = some device →
    start.deviceWrappers.get? native = some device ∨ start.nextWrapper ≤ device.id

theorem AddsDevices.trans {middle : Store} (first : start.AddsDevices middle)
    (second : middle.AddsDevices store) : start.AddsDevices store := by
  constructor
  case bound => exact Nat.le_trans first.bound second.bound
  case kept => exact fun native device known => second.kept _ _ (first.kept _ _ known)
  case new =>
    intro native device known
    rcases second.new native device known with known | new
    · exact first.new native device known
    · exact Or.inr (Nat.le_trans first.bound new)

theorem Beside.addsDevices (beside : start.Beside native store) (started : start.WellFormed) :
    start.AddsDevices store := by
  constructor
  case bound => exact beside.nextWrapper_le
  case kept => exact beside.remembers.devices
  case new =>
    intro nativeDevice device known
    refine or_iff_not_imp_right.mpr fun old => ?_
    obtain ⟨refs, found⟩ := beside.behind device.id _ (Nat.lt_of_not_le old)
      (beside.formed.devices.wrapped nativeDevice device known)
    exact started.devices.known device.id _ found rfl

theorem SameDevice.renumbered {device device' : DeviceHandle}
    (same : store.SameDevice store' device device') (adds : start.AddsDevices store)
    (adds' : start.AddsDevices store') : start.SameDevices store store' device device' := by
  refine ⟨same, ?_⟩
  obtain ⟨native, known, known'⟩ := same
  rcases adds.new native device known with old | new
  · obtain rfl := Option.some.inj (known'.symm.trans (adds'.kept native device old))
    exact Or.inl rfl
  · rcases adds'.new native device' known' with old' | new'
    · obtain rfl := Option.some.inj (known.symm.trans (adds.kept native device' old'))
      exact Or.inl rfl
    · exact Or.inr ⟨new, new'⟩

/-- A program that another import does not have to do with stays where it is. -/
theorem Leads.beside {program : ProgramHandle} {binary : ProgramBinary}
    (leads : start.Leads program imported binary) (started : start.WellFormed)
    (beside : start.Beside native store) (distinct : imported ≠ native) :
    store.Leads program imported binary := by
  obtain ⟨⟨wrapper, found, isProgram, isBehind⟩, refs, live⟩ := leads
  refine ⟨⟨wrapper, beside.wrappers _ _ found, isProgram, isBehind⟩, refs, ?_⟩
  exact (beside.others imported (started.native_lt _ _ live) distinct).trans live

end Store

/-! ## Either order -/

namespace ProgramImport

/-- The store of a backend after two imports, one after the other. -/
def inTurn (first second : ProgramImport) (name name' : String) (number : Nat) (host : Host) :
    Store :=
  ((second.into name' (first.into name host).2).2.simulator number).store

/-- Two outcomes of an import, of which each is looked at in a store of its own, are the same but
for what has been made since the start. -/
def EndsAlike (start store store' : Store) :
    Except ImportError KernelBundle → Except ImportError KernelBundle → Prop :=
  Echoes (start.SamePrograms store store') (start.SameDevices store store') start.nextWrapper

/-- Two imports may be done in either order. -/
structure Commute (first second : ProgramImport) (name name' : String) (number : Nat)
    (host : Host) : Prop where
  alike : EndsAlike (host.simulator number).store
    (first.inTurn second name name' number host) (second.inTurn first name' name number host)
    (first.into name host).1 (first.into name (second.into name' host).2).1
  alike' : EndsAlike (host.simulator number).store
    (second.inTurn first name' name number host) (first.inTurn second name name' number host)
    (second.into name' host).1 (second.into name' (first.into name host).2).1
  /-- What was there has the same references and the same data, with the stages of programs. -/
  natives : ∀ handle : NativeHandle, handle.raw < (host.simulator number).store.nextNative →
    (second.inTurn first name' name number host).natives.get? handle =
      (first.inTurn second name name' number host).natives.get? handle

variable {host : Host} {number : Nat} {first second : ProgramImport}

/-- The first of two imports ends as it does after the second one. -/
theorem into_commutes (formed : (host.simulator number).store.WellFormed)
    (unset : ∀ entryPoint, (host.simulator number).failures.get? entryPoint = none)
    (through : first.Through number) (through' : second.Through number)
    (live : (host.simulator number).store.HasNative .program first.native)
    (live' : (host.simulator number).store.HasNative .program second.native)
    (distinct : first.native ≠ second.native) (name name' : String) :
    let start := (host.simulator number).store
    let store := first.inTurn second name name' number host
    let store' := second.inTurn first name' name number host
    EndsAlike start store store' (first.into name host).1
        (first.into name (second.into name' host).2).1 ∧
      ∀ handle : NativeHandle, handle.raw < start.nextNative → handle ≠ second.native →
        store'.natives.get? handle = store.natives.get? handle := by
  intro start store store'
  have below : first.native.raw < start.nextNative :=
    live.elim fun object found => formed.native_lt _ object found.1
  have below' : second.native.raw < start.nextNative :=
    live'.elim fun object found => formed.native_lt _ object found.1
  -- Each import by itself leaves the program of the other one alone.
  obtain ⟨alone, -⟩ := into_beside name through formed live
  obtain ⟨alone', did'⟩ := into_beside name' through' formed live'
  have kept : start.SameNative second.native _ := alone.others _ below' distinct.symm
  have kept' : start.SameNative first.native _ := alone'.others _ below distinct
  obtain ⟨later, -⟩ := into_beside name' through' alone.formed
    (by rwa [Store.HasNative, kept])
  obtain ⟨later', -⟩ := into_beside name through alone'.formed
    (by rwa [Store.HasNative, kept'])
  -- The first import sees the same at the start as after the second one.
  have inContext : start.HasWrapper first.context.handle ↔ _ :=
    ⟨fun live => live.imp fun _ found => ⟨alone'.wrappers _ _ found.1, found.2⟩,
      alone'.contexts first.context.handle⟩
  have peers : Peers (host.simulator number) ((second.into name' host).2.simulator number) :=
    ⟨did'.config, unset, fun entryPoint => did'.unset (unset entryPoint)⟩
  obtain ⟨related, echoes⟩ := into_echoes name rfl through peers
    (alone'.relates formed live' below distinct) live inContext (Nat.le_refl _)
    alone'.nextWrapper_le
  refine ⟨echoes.imp ?_ ?_, ?_⟩
  · rintro program program' ⟨native, binary, concerns, leads, leads'⟩
    have other : native ≠ second.native := by
      rintro rfl
      rcases concerns with same | new
      · exact distinct same.symm
      · exact absurd below' (Nat.not_lt.mpr new)
    refine ⟨native, _, binary, leads.beside alone.formed later other, leads', ?_⟩
    by_cases old : native.raw < start.nextNative
    · exact Or.inl (congrArg NativeHandle.raw (if_pos old))
    · have new := Nat.le_of_not_lt old
      refine Or.inr ⟨new, ?_⟩
      rw [Relocation.rename_of_le new]
      exact Nat.le_trans new (Nat.le_add_right ..)
  · intro device device' same
    exact (same.later later.remembers (.refl _)).renumbered
      ((alone.addsDevices formed).trans (later.addsDevices alone.formed))
      ((alone'.addsDevices formed).trans (later'.addsDevices alone'.formed))
  · intro handle old other
    have before : store.natives.get? handle = _ :=
      later.others handle (Nat.lt_of_lt_of_le old alone.nextNative_le) other
    rw [before]
    by_cases isFirst : handle = first.native
    · rw [isFirst]
      exact related.imported
    · rw [alone.others handle old isFirst, ← alone'.others handle old other]
      exact later'.others handle (Nat.lt_of_lt_of_le old alone'.nextNative_le) isFirst

end ProgramImport

/-- Imports of different programs commute.  Whichever of the two is done first, each ends with the
same bundle or the same failure, but for the names of what has been made on the way, and leaves
every native object that was there before with the same references and stages. -/
theorem imports_commute {session : Session} (reachable : session.Reachable) {number : Nat}
    (unset : ∀ entryPoint, (session.host.simulator number).failures.get? entryPoint = none)
    {first second : ProgramImport} (through : first.Through number)
    (through' : second.Through number)
    (live : (session.host.simulator number).store.HasNative .program first.native)
    (live' : (session.host.simulator number).store.HasNative .program second.native)
    (distinct : first.native ≠ second.native) (name name' : String) :
    first.Commute second name name' number session.host := by
  have formed := reachable.wellFormed number
  obtain ⟨echoes, natives⟩ := ProgramImport.into_commutes formed unset through through' live live'
    distinct name name'
  obtain ⟨echoes', natives'⟩ := ProgramImport.into_commutes formed unset through' through live' live
    distinct.symm name' name
  refine ⟨echoes, echoes', ?_⟩
  intro handle old
  by_cases isSecond : handle = second.native
  · refine (natives' handle old fun isFirst => ?_).symm
    exact distinct (isFirst.symm.trans isSecond)
  · exact natives handle old isSecond

/-- One import links its program for either device, and the other one fails and takes its program
along. -/
theorem imports_commute_linked :
    let session := Session.sample .cuda [⟨4097⟩, ⟨4098⟩] .object
      [⟨.caller 0 (.createProgram [⟨4098⟩] .object ["scale"]), none⟩]
    let first : ProgramImport := ⟨.sample, ⟨4100⟩, .sample, true, .executable, .cuda⟩
    let second : ProgramImport := ⟨.sample, ⟨4101⟩, .sample, false, .input, .cuda⟩
    session.Reachable ∧
      (∀ entryPoint, (session.host.simulator 0).failures.get? entryPoint = none) ∧
      first.Through 0 ∧ second.Through 0 ∧
      (session.host.simulator 0).store.HasNative .program ⟨4100⟩ ∧
      (session.host.simulator 0).store.HasNative .program ⟨4101⟩ ∧
      first.Commute second "first" "second" 0 session.host ∧
      ((first.into "first" session.host).1.toOption.map fun bundle =>
        bundle.images.map fun image => image.superseded.length) = some [2] ∧
      (second.into "second" session.host).1 = .error (.stateMismatch .object .input) ∧
      (first.inTurn second "first" "second" 0 session.host).refsTo ⟨4100⟩ = 1 ∧
      (first.inTurn second "first" "second" 0 session.host).refsTo ⟨4101⟩ = 0 := by
  intro session first second
  have reachable : session.Reachable := Session.sample_reachable
  have unset : (session.host.simulator 0).failures = {} := by decide +kernel
  have unset : ∀ entryPoint, (session.host.simulator 0).failures.get? entryPoint = none := by
    rw [unset]
    exact fun _ => rfl
  have through : first.Through 0 := by
    intro provider resolved
    obtain rfl : Provider.sample = provider := Option.some.inj resolved
    rfl
  have through' : second.Through 0 := through
  have live : ∀ native ∈ [first.native, second.native],
      (session.host.simulator 0).store.HasNative .program native := by
    have found : ∀ native ∈ [first.native, second.native],
        (((session.host.simulator 0).store.natives.get? native).map fun object =>
          object.data.kind) = some .program := by decide +kernel
    exact fun native member => Option.map_eq_some_iff.mp (found native member)
  have facts := And.intro (live first.native List.mem_cons_self)
    (live second.native (List.mem_cons_of_mem _ List.mem_cons_self))
  refine ⟨reachable, unset, through, through', facts.1, facts.2,
    imports_commute reachable unset through through' facts.1 facts.2 (by decide) "first" "second",
    ?_⟩
  exact ⟨by decide +kernel, by decide +kernel, by decide +kernel, by decide +kernel⟩

end ComputeImport
