import ComputeImport.Proofs.Import.Uses
import ComputeImport.Proofs.Program.Settling

/-!
# Taking a program further, device by device

When the planned work for a device has been done, by whichever entry point, the program in its place
has that device settled and has kept the settled ones.  When it fails, the store is as it was.  From
one device this carries over to all of them in order: the invariant is that every device that has
been gone through is settled in the current program.
-/

namespace ComputeImport

/-- The entry points that are called for one device after another. -/
def EntryPoint.IsStep (entryPoint : EntryPoint) : Prop :=
  entryPoint = .programBinaryType ∨ entryPoint.mutatesProgram = true

/-- The backend that a builder works on. -/
def Builder.simulator (builder : Builder) (host : Host) : Simulator :=
  host.simulator builder.provider.table.simulator

/-- A program and one of its devices, both wrapped. -/
structure Standing (store : Store) (program : ProgramHandle) (native : NativeHandle)
    (binary : ProgramBinary) (device : DeviceHandle) (nativeDevice : NativeHandle) : Prop where
  formed : store.WellFormed
  leads : store.Leads program native binary
  known : store.deviceWrappers.get? nativeDevice = some device
  member : nativeDevice ∈ binary.devices

/-- A wrapper leads to a program that follows `binary` and has a device settled. -/
def Brings (target : BundleState) (store : Store) (binary : ProgramBinary)
    (nativeDevice : NativeHandle) (program : ProgramHandle) (after : Store) : Prop :=
  Store.Grows (fun kind => kind = .program) store after ∧
    ∃ native new, after.Leads program native new ∧ binary.Follows target new ∧
      new.Settled target nativeDevice

/-! ## What the operations bring -/

section Brings

variable {target : BundleState} {store after : Store} {program : ProgramHandle}
  {native nativeDevice : NativeHandle} {binary : ProgramBinary} {device : DeviceHandle}
  {operation : BuildOperation}

theorem Store.Leads.isTidy (leads : store.Leads program native binary)
    (formed : store.WellFormed) : binary.IsTidy := by
  rcases leads with ⟨-, refs, found⟩
  exact formed.tidy native _ found binary rfl

theorem Store.Leads.reprogrammed (leads : store.Leads program native binary)
    (new : ProgramBinary) : (store.reprogrammed native new).Leads program native new := by
  rcases leads with ⟨behind, refs, found⟩
  rw [Store.reprogrammed, found]
  exact ⟨behind, refs, by simp [Store.recorded]⟩

theorem Store.leads_joined (output : ProgramBinary) :
    (store.joined output).Leads ⟨store.nextWrapper⟩ ⟨store.nextNative⟩ output := by
  refine ⟨⟨⟨.program, ⟨store.nextNative⟩, 1, true⟩, ?_, rfl, rfl⟩, 1, ?_⟩
  · simp [Store.joined, Store.wrapped, Store.created]
  · simp [Store.joined, Store.wrapped, Store.created]

theorem forall₂_behind_singleton {selected : List NativeHandle}
    (chosen : List.Forall₂ store.Behind [device] selected)
    (behind : store.Behind device nativeDevice) : selected = [nativeDevice] :=
  Simulator.forall₂_behind_unique chosen (.cons behind .nil)

theorem brings_of_advancesFor (standing : Standing store program native binary device nativeDevice)
    (planned : (binary.stageOf nativeDevice).plan target = .run operation)
    (advances : Simulator.AdvancesFor store program [device] operation.goal after) :
    Brings target store binary nativeDevice program after := by
  refine ⟨advances.grows standing.formed, ?_⟩
  rcases advances with ⟨native', binary', selected, leads, chosen, -, rfl⟩
  obtain ⟨rfl, rfl⟩ := standing.leads.unique leads
  obtain rfl := forall₂_behind_singleton chosen (standing.formed.behind_device standing.known)
  rcases ProgramBinary.settles_advancedFor planned with ⟨follows, settled⟩
  exact ⟨native, _, leads.reprogrammed _, follows, settled⟩

theorem brings_of_advances (standing : Standing store program native binary device nativeDevice)
    (planned : (binary.stageOf nativeDevice).plan target = .run operation)
    (other : operation ≠ .link)
    (advances : Simulator.Advances store program operation.goal after) :
    Brings target store binary nativeDevice program after := by
  refine ⟨advances.grows, ?_⟩
  rcases advances with ⟨native', binary', leads, rfl⟩
  obtain ⟨rfl, rfl⟩ := standing.leads.unique leads
  rcases ProgramBinary.settles_advanced (leads.isTidy standing.formed) standing.member planned other
    with ⟨follows, settled⟩
  exact ⟨native, _, leads.reprogrammed _, follows, settled⟩

theorem brings_of_joins (standing : Standing store program native binary device nativeDevice)
    (planned : (binary.stageOf nativeDevice).plan target = .run .link)
    {wanted : NativeHandle → Bool} (isWanted : wanted nativeDevice = true) {handle : ProgramHandle}
    (joins : Simulator.Joins store (fun output => ∃ native input,
      store.Leads program native input ∧ input.Linked wanted output) handle after) :
    Brings target store binary nativeDevice handle after := by
  refine ⟨joins.grows ?_ rfl, ?_⟩
  · rintro output ⟨_, _, -, linked⟩
    exact linked.isTidy
  · rcases joins with ⟨output, ⟨native', input, leads, linked⟩, rfl, rfl⟩
    obtain ⟨rfl, rfl⟩ := standing.leads.unique leads
    rcases ProgramBinary.settles_linked linked standing.member isWanted planned with
      ⟨follows, settled⟩
    exact ⟨_, output, Store.leads_joined output, follows, settled⟩

end Brings

/-! ## One operation for one device -/

section Operation

open Simulator

variable {α : Type} {host : Host}

/-- Where the first way fails, the second one is tried or the failure reported. -/
theorem Ends.withFallback {operation : BuildOperation} {device : DeviceHandle}
    {perDevice whole : TableM α} {ok : α → Host → Prop} {idle : Host → Prop}
    (first : Ends perDevice host ok fun _ after => idle after)
    (second : ∀ after, idle after →
      Ends whole (after.notify (.fellBack operation device)) ok fun _ after => idle after) :
    Ends (ComputeImport.withFallback operation device perDevice whole) host ok
      (fun e after => (∃ cause, e = .buildFailed operation device cause) ∧ idle after) := by
  unfold ComputeImport.withFallback
  rw [ends_bind, ends_attempt]
  refine first.imp (fun _ _ holds => holds) ?_
  intro e after idles
  dsimp only
  split
  · rw [ends_bind, ends_notify, ends_bind, ends_attempt]
    refine (second after idles).imp (fun _ _ holds => holds) ?_
    exact fun e _ idles => ⟨⟨e, rfl⟩, idles⟩
  · exact ⟨⟨e, rfl⟩, idles⟩

/-- An operation that has two entry points does the work of one of them, or leaves the store as it
is. -/
theorem Ends.operation {table : Table} {operation : BuildOperation} {device : DeviceHandle}
    {entryPoint : String} {perDevice whole : Native α} (first second : Call)
    (isFirst : first.entryPoint.IsStep) (isSecond : second.entryPoint.IsStep)
    {ok : α → Store → Prop}
    (forDevice : ∀ sim : Simulator, sim.store = (host.simulator table.simulator).store →
      Answers first perDevice sim ok fun _ after => after = sim.store)
    (forAll : ∀ sim : Simulator, sim.store = (host.simulator table.simulator).store →
      Answers second whole sim ok fun _ after => after = sim.store) :
    Ends (ComputeImport.withFallback operation device (table.callFor entryPoint perDevice)
        (table.call whole)) host
      (fun a after => ok a (after.simulator table.simulator).store ∧
        Did EntryPoint.IsStep (host.simulator table.simulator) (after.simulator table.simulator))
      (fun e after => (∃ cause, e = .buildFailed operation device cause) ∧
        (after.simulator table.simulator).store = (host.simulator table.simulator).store ∧
        Did EntryPoint.IsStep (host.simulator table.simulator)
          (after.simulator table.simulator)) := by
  let before := host.simulator table.simulator
  let done : α → Simulator → Prop := fun a after =>
    ok a after.store ∧ Did EntryPoint.IsStep before after
  let idles : Simulator → Prop := fun after =>
    after.store = before.store ∧ Did EntryPoint.IsStep before after
  have works : ∀ (call : Call) (step : Native α), call.entryPoint.IsStep → ∀ middle, idles middle →
      (Answers call step middle ok fun _ after => after = middle.store) →
      Ends step middle done fun _ => idles := by
    rintro call step isStep middle ⟨unchanged, did⟩ answers
    refine Ends.imp answers ?_ ?_
    · exact fun _ _ ended => ⟨ended.2.2, did.trans (ended.1.did isStep)⟩
    · rintro e after ⟨recorded, ⟨-, unchanged'⟩ | ⟨-, unchanged'⟩⟩
      · exact ⟨unchanged'.trans unchanged, did.trans (recorded.did isStep)⟩
      · exact ⟨unchanged'.trans unchanged, did.trans (recorded.did isStep)⟩
  have start : idles before := ⟨rfl, .refl before⟩
  refine Ends.withFallback
    (Ends.callFor (works first perDevice isFirst before start (forDevice before rfl))
      fun _ => start) ?_
  intro middle still
  have ended : Ends whole ((middle.notify (.fellBack operation device)).simulator table.simulator)
      done fun _ => idles :=
    works second whole isSecond _ still (forAll _ still.1)
  exact ended.call

variable {builder : Builder} {target : BundleState} {current : ProgramHandle}
  {native nativeDevice : NativeHandle} {binary : ProgramBinary} {device : DeviceHandle}

/-- Where the work for a device ends: the device is settled, or building failed and the store is as
it was. -/
def Settles (builder : Builder) (target : BundleState) (binary : ProgramBinary)
    (nativeDevice : NativeHandle) (operation : BuildOperation) (device : DeviceHandle)
    (program : α → ProgramHandle) (body : ImportM α) (host : Host) : Prop :=
  Ends body host
    (fun a after => Brings target (builder.simulator host).store binary nativeDevice (program a)
        (builder.simulator after).store ∧
      Did EntryPoint.IsStep (builder.simulator host) (builder.simulator after))
    (fun e after => (∃ cause, e = .buildFailed operation device cause) ∧
      (builder.simulator after).store = (builder.simulator host).store ∧
      Did EntryPoint.IsStep (builder.simulator host) (builder.simulator after))

theorem settles_compile
    (standing : Standing (builder.simulator host).store current native binary device nativeDevice)
    (planned : (binary.stageOf nativeDevice).plan target = .run .compile) :
    Settles builder target binary nativeDevice .compile device (fun _ => current)
      (builder.compile current device) host := by
  refine Ends.operation
    (.programCompileFor current [device] builder.options.compile)
    (.programCompile builder.context.handle current builder.options.compile)
    (Or.inr rfl) (Or.inr rfl) ?_ ?_
  · intro sim same
    refine answers_programCompileFor.imp ?_ fun _ _ failed => failed.1
    rw [same]
    exact fun _ _ done => brings_of_advancesFor standing planned done
  · intro sim same
    refine answers_programCompile.imp ?_ fun _ _ failed => failed.1
    rw [same]
    exact fun _ _ done => brings_of_advances standing planned (by decide) done

theorem settles_build
    (standing : Standing (builder.simulator host).store current native binary device nativeDevice)
    (planned : (binary.stageOf nativeDevice).plan target = .run .build) :
    Settles builder target binary nativeDevice .build device (fun _ => current)
      (builder.build current device) host := by
  refine Ends.operation
    (.programBuildFor current [device] builder.options.compile)
    (.programBuild builder.context.handle current builder.options.compile)
    (Or.inr rfl) (Or.inr rfl) ?_ ?_
  · intro sim same
    refine answers_programBuildFor.imp ?_ fun _ _ failed => failed.1
    rw [same]
    exact fun _ _ done => brings_of_advancesFor standing planned done
  · intro sim same
    refine answers_programBuild.imp ?_ fun _ _ failed => failed.1
    rw [same]
    exact fun _ _ done => brings_of_advances standing planned (by decide) done

theorem settles_link
    (standing : Standing (builder.simulator host).store current native binary device nativeDevice)
    (planned : (binary.stageOf nativeDevice).plan target = .run .link) :
    Settles builder target binary nativeDevice .link device id
      (builder.link current device) host := by
  refine Ends.operation
    (.programLinkFor builder.context.handle [device] [current] builder.options.link)
    (.programLink builder.context.handle [current] builder.options.link)
    (Or.inr rfl) (Or.inr rfl) ?_ ?_
  · intro sim same
    refine answers_programLinkFor_singleton.imp ?_ fun _ _ failed => failed.1
    rw [same]
    rintro handle after ⟨selected, chosen, joins⟩
    obtain rfl := forall₂_behind_singleton chosen
      (standing.formed.behind_device standing.known)
    exact brings_of_joins standing planned (by simp) joins
  · intro sim same
    refine answers_programLink_singleton.imp ?_ fun _ _ failed => failed.1
    rw [same]
    exact fun _ _ joins => brings_of_joins standing planned rfl joins

/-- The stage that a program is found at is the one that is known of it, and asking for it fails
only where that has been told to fail. -/
theorem ends_discover (standing : Standing (builder.simulator host).store current native binary
    device nativeDevice) :
    Ends (ComputeImport.native (builder.provider.table.call
        (Simulator.programBinaryType current device))) host
      (fun stage after => stage = binary.stageOf nativeDevice ∧
        (builder.simulator after).store = (builder.simulator host).store ∧
        Recorded (.programBinaryType current device) (builder.simulator host)
          (builder.simulator after))
      (fun e after => (∃ cause, e = .native cause) ∧
        (builder.simulator host).failures.get? .programBinaryType ≠ none ∧
        (builder.simulator after).store = (builder.simulator host).store ∧
        Did EntryPoint.IsStep (builder.simulator host) (builder.simulator after)) := by
  have behind := standing.formed.behind_device standing.known
  have staged := (standing.leads.isTidy standing.formed).stage_known standing.member
  let before := builder.simulator host
  have asked : Ends (Simulator.programBinaryType current device) before
      (fun stage after => stage = binary.stageOf nativeDevice ∧ after.store = before.store ∧
        Recorded (.programBinaryType current device) before after)
      (fun _ after => before.failures.get? .programBinaryType ≠ none ∧
        after.store = before.store ∧ Did EntryPoint.IsStep before after) := by
    refine Ends.imp answers_programBinaryType ?_ ?_
    · rintro stage after ⟨recorded, -, unchanged, native', binary', other, leads, behind', found⟩
      obtain ⟨-, rfl⟩ := standing.leads.unique leads
      obtain rfl := behind.unique behind'
      exact ⟨(ProgramBinary.stageOf_eq found).symm, unchanged, recorded⟩
    · rintro e after ⟨recorded, ⟨injected, unchanged⟩ | ⟨-, -, unknown⟩⟩
      · refine ⟨?_, unchanged, recorded.did (Or.inl rfl)⟩
        exact fun unset => Option.some_ne_none e (injected.symm.trans unset)
      · have missing := unknown native binary nativeDevice standing.leads behind
        rw [missing] at staged
        contradiction
  refine ends_native.mpr (asked.call.imp (fun _ _ ended => ended) ?_)
  exact fun e _ ended => ⟨⟨e, rfl⟩, ended⟩

/-- Taking a program further for one device settles that device.  It fails without effect, after a
call that may have changed the program or because asking for the stage has been told to fail. -/
theorem ends_advanceDevice {program : ProgramRef} (standing : Standing
    (builder.simulator host).store program.handle native binary device nativeDevice) :
    Ends (builder.advanceDevice target program device) host
      (fun next after => Brings target (builder.simulator host).store binary nativeDevice
          (next.getD program).handle (builder.simulator after).store ∧
        (∀ linked, next = some linked → linked.provider = builder.provider) ∧
        (builder.simulator after).failures.get? .programBinaryType = none ∧
        Did EntryPoint.IsStep (builder.simulator host) (builder.simulator after))
      (fun e after => (builder.simulator after).store = (builder.simulator host).store ∧
        (e.mayHaveMutated = true ∨
          (builder.simulator host).failures.get? .programBinaryType ≠ none) ∧
        Did EntryPoint.IsStep (builder.simulator host) (builder.simulator after)) := by
  refine ((ends_discover standing).imp (fun _ _ found => found) ?_).bind ?_
  · rintro e after ⟨-, injected, unchanged, did⟩
    exact ⟨unchanged, Or.inr injected, did⟩
  rintro stage middle ⟨rfl, unchanged, recorded⟩
  have asked : Did EntryPoint.IsStep (builder.simulator host) (builder.simulator middle) :=
    recorded.did (Or.inl rfl)
  have unset : (builder.simulator middle).failures.get? .programBinaryType = none := by
    rw [recorded.failures, Ledger.get?_erase]
    exact if_pos rfl
  rw [ends_bind, ends_notify]
  generalize noted : middle.notify _ = after
  have same : builder.simulator after = builder.simulator middle := by
    rw [← noted]
    rfl
  rw [← unchanged] at standing ⊢
  rw [← same] at standing asked unset ⊢
  have fails : ∀ {operation : BuildOperation} (e : ImportError) (last : Host),
      ((∃ cause, e = .buildFailed operation device cause) ∧
        (builder.simulator last).store = (builder.simulator after).store ∧
        Did EntryPoint.IsStep (builder.simulator after) (builder.simulator last)) →
      (builder.simulator last).store = (builder.simulator after).store ∧
        (e.mayHaveMutated = true ∨
          (builder.simulator host).failures.get? .programBinaryType ≠ none) ∧
        Did EntryPoint.IsStep (builder.simulator host) (builder.simulator last) := by
    rintro operation e last ⟨⟨cause, rfl⟩, unchanged, did⟩
    exact ⟨unchanged, Or.inl rfl, asked.trans did⟩
  cases planned : (binary.stageOf nativeDevice).plan target with
  | keep =>
      refine ⟨⟨.refl _, native, binary, standing.leads, .refl binary, planned⟩, ?_, unset, asked⟩
      rintro linked ⟨⟩
  | mismatch => exact ⟨rfl, Or.inl rfl, asked⟩
  | run operation =>
      cases operation with
      | compile =>
          refine (Ends.imp (settles_compile standing planned) (fun _ _ ended => ended)
            fails).bind ?_
          rintro _ last ⟨brings, did⟩
          refine ⟨brings, ?_, did.unset unset, asked.trans did⟩
          rintro linked ⟨⟩
      | build =>
          refine (Ends.imp (settles_build standing planned) (fun _ _ ended => ended)
            fails).bind ?_
          rintro _ last ⟨brings, did⟩
          refine ⟨brings, ?_, did.unset unset, asked.trans did⟩
          rintro linked ⟨⟩
      | link =>
          refine (Ends.imp (settles_link standing planned) (fun _ _ ended => ended)
            fails).bind ?_
          rintro linked last ⟨brings, did⟩
          refine ⟨brings, ?_, did.unset unset, asked.trans did⟩
          rintro _ ⟨⟩
          rfl

end Operation

/-! ## Releasing programs -/

/-- Dropping a reference to a program's wrapper changes no stage of a live program. -/
theorem spares_programRelease (program : ProgramHandle) (sim : Simulator) :
    sim.store.Spares (sim.after (.call (.programRelease program))).store := by
  refine ends_stateAfter.mp ((Simulator.answers_released rfl).keeps (.refl _) ?_ ?_)
  · rintro _ _ ⟨wrapper, -, -, released⟩
    exact released.spares
  · rintro _ _ (⟨rfl, -⟩ | ⟨wrapper, -, -, ⟨-, rfl, -⟩ | ⟨released, -⟩⟩)
    · exact .refl _
    · exact .refl _
    · exact released.spares

/-- Releasing programs makes no other calls, and leaves the live ones as they are. -/
theorem spares_releasePrograms (programs : List ProgramRef) (host : Host) (number : Nat) :
    (host.simulator number).store.Spares
        ((releasePrograms programs host).simulator number).store ∧
      Simulator.Did (fun entryPoint => entryPoint = .programRelease) (host.simulator number)
        ((releasePrograms programs host).simulator number) := by
  let spared (after : Host) : Prop :=
    (host.simulator number).store.Spares (after.simulator number).store ∧
      Simulator.Did (fun entryPoint => entryPoint = .programRelease) (host.simulator number)
        (after.simulator number)
  have respects : Respects (fun _ => True) (fun entryPoint => entryPoint = .programRelease)
      spared := by
    apply Respects.uncached
    case other =>
      intro before after same _ _ kept
      have equal : after.simulator number = before.simulator number := by
        exact Host.simulator_of_simulators same _
      simp only [spared, equal]
      exact kept
    case call =>
      rintro before other call - isRelease ⟨spares, did⟩
      simp only [spared, Host.simulator_advance]
      split
      · rename_i equal
        subst equal
        refine ⟨spares.trans ?_, did.trans ((Simulator.recorded_answer call).did isRelease)⟩
        cases call <;> cases isRelease
        exact spares_programRelease _ _
      · exact ⟨spares, did⟩
  have calls : CallsOnly (fun _ => True) (fun entryPoint => entryPoint = .programRelease)
      (releasePrograms programs) :=
    callsOnly_releasePrograms (fun _ _ => trivial) (by rfl)
  exact calls spared respects host ⟨.refl _, .refl _⟩

/-! ## All devices, in order -/

section Advance

variable {builder : Builder} {target : BundleState}

/-- The entry points that are called when something goes wrong on the way. -/
def EntryPoint.IsStepOrRelease (entryPoint : EntryPoint) : Prop :=
  entryPoint.IsStep ∨ entryPoint = .programRelease

/-- A program that has taken the place of another one has the given devices settled. -/
def Finishes (target : BundleState) (natives : List NativeHandle) (store : Store)
    (binary : ProgramBinary) (program : ProgramHandle) (after : Store) : Prop :=
  Store.Grows (fun kind => kind = .program) store after ∧
    ∃ native new, after.Leads program native new ∧ binary.Follows target new ∧
      ∀ device ∈ natives, new.Settled target device

/-- The first device is settled, and then the other ones, in what has taken the place of the
program. -/
theorem Finishes.cons {device : NativeHandle} {natives : List NativeHandle}
    {store middle after : Store} {binary new : ProgramBinary} {program : ProgramHandle}
    (member : device ∈ binary.devices)
    (grows : Store.Grows (fun kind => kind = .program) store middle)
    (follows : binary.Follows target new) (settled : new.Settled target device)
    (finishes : Finishes target natives middle new program after) :
    Finishes target (device :: natives) store binary program after := by
  rcases finishes with ⟨grows', native', last, leads', follows', settled'⟩
  refine ⟨grows.trans grows', native', last, leads', follows.trans follows', ?_⟩
  intro other found
  rcases List.mem_cons.mp found with rfl | found
  · exact follows'.settled other ((follows.devices other).mpr member) settled
  · exact settled' other found

/-- All devices are settled in the program that has taken the place of the first one.  Where one
cannot be, the caller is warned, or asking for the very first stage has been told to fail. -/
theorem ends_advance {natives : List NativeHandle} {handles : List DeviceHandle}
    {native : NativeHandle} {binary : ProgramBinary} {current : ProgramRef}
    {superseded : List ProgramRef} {host : Host}
    (formed : (builder.simulator host).store.WellFormed)
    (leads : (builder.simulator host).store.Leads current.handle native binary)
    (lists : (builder.simulator host).store.Lists natives handles)
    (members : ∀ device ∈ natives, device ∈ binary.devices)
    (own : current.provider = builder.provider) :
    Ends (builder.advance target current superseded handles) host
      (fun built after =>
        Finishes target natives (builder.simulator host).store binary built.current.handle
            (builder.simulator after).store ∧
          built.current.provider = builder.provider ∧
          Simulator.Did EntryPoint.IsStep (builder.simulator host) (builder.simulator after))
      (fun e after =>
        (e.mayHaveMutated = true ∨
          (builder.simulator host).failures.get? .programBinaryType ≠ none ∧
            (builder.simulator host).store.Spares (builder.simulator after).store) ∧
          Simulator.Did EntryPoint.IsStepOrRelease (builder.simulator host)
            (builder.simulator after)) := by
  induction natives generalizing handles native binary current superseded host with
  | nil =>
      cases lists with
      | nil =>
          refine ⟨⟨.refl _, native, binary, leads, .refl binary, ?_⟩, own, .refl _⟩
          exact fun device member => absurd member List.not_mem_nil
  | cons device natives ih =>
      cases lists with
      | @cons _ handle _ handles known lists =>
          have member := members device List.mem_cons_self
          refine Ends.bind (ends_orRelease.mpr
            ((ends_advanceDevice ⟨formed, leads, known, member⟩).imp (fun _ _ ended => ended) ?_)) ?_
          · rintro e after ⟨unchanged, cause, did⟩
            rcases spares_releasePrograms (superseded ++ [current]) after
              builder.provider.table.simulator with ⟨spares, did'⟩
            refine ⟨?_, (did.mono fun _ => Or.inl).trans (did'.mono fun _ => Or.inr)⟩
            rcases cause with warned | injected
            · exact Or.inl warned
            · refine Or.inr ⟨injected, ?_⟩
              rw [← unchanged]
              exact spares
          · rintro next middle ⟨⟨grows, native', new, leads', follows, settled⟩, owned, unset, did⟩
            have members' : ∀ device ∈ natives, device ∈ new.devices := by
              intro other found
              exact (follows.devices other).mpr (members other (List.mem_cons_of_mem device found))
            have value : ∀ (built : Built) (after : Host),
                (Finishes target natives (builder.simulator middle).store new built.current.handle
                    (builder.simulator after).store ∧
                  built.current.provider = builder.provider ∧
                  Simulator.Did EntryPoint.IsStep (builder.simulator middle)
                    (builder.simulator after)) →
                Finishes target (device :: natives) (builder.simulator host).store binary
                    built.current.handle (builder.simulator after).store ∧
                  built.current.provider = builder.provider ∧
                  Simulator.Did EntryPoint.IsStep (builder.simulator host)
                    (builder.simulator after) := by
              rintro built after ⟨finishes, own, did'⟩
              exact ⟨finishes.cons member grows follows settled, own, did.trans did'⟩
            have failure : ∀ (e : ImportError) (after : Host),
                ((e.mayHaveMutated = true ∨
                    (builder.simulator middle).failures.get? .programBinaryType ≠ none ∧
                      (builder.simulator middle).store.Spares (builder.simulator after).store) ∧
                  Simulator.Did EntryPoint.IsStepOrRelease (builder.simulator middle)
                    (builder.simulator after)) →
                (e.mayHaveMutated = true ∨
                    (builder.simulator host).failures.get? .programBinaryType ≠ none ∧
                      (builder.simulator host).store.Spares (builder.simulator after).store) ∧
                  Simulator.Did EntryPoint.IsStepOrRelease (builder.simulator host)
                    (builder.simulator after) := by
              rintro e after ⟨warned | ⟨injected, -⟩, did'⟩
              · exact ⟨Or.inl warned, (did.mono fun _ => Or.inl).trans did'⟩
              · exact absurd unset injected
            have formed' := grows.wellFormed formed
            have lists' := Store.Lists.grows lists grows
            cases next with
            | none => exact (ih formed' leads' lists' members' own).imp value failure
            | some linked =>
                exact (ih formed' leads' lists' members' (owned linked rfl)).imp value failure

end Advance

end ComputeImport
