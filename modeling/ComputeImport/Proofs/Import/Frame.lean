import ComputeImport.Proofs.Import.Care
import ComputeImport.Proofs.Session.History
import ComputeImport.Proofs.Simulator.Moves

/-!
# What an import of a program leaves alone

Wherever an import of a program stops, the native objects and the wrappers that were there before
are as they were, but for the program itself.  The program keeps its devices and kernels, and goes
at most from unbuilt to the stage that goes with the state, until a link brings another one in its
place.  A caller that keeps the program has as many references to it as before, and dropping the
bundle later takes none of them.
-/

namespace ComputeImport

/-- What a store has kept through an import of a program. -/
structure Store.Frame (handle : NativeHandle) (keeps : Bool) (target : BundleState)
    (before after : Store) : Prop where
  /-- Every native object but the imported program is there as it was. -/
  natives : ∀ other object, before.natives.get? other = some object →
    (other = handle → object.data.kind ≠ .program) → after.natives.get? other = some object
  /-- Every wrapper is there as it was. -/
  wrappers : ∀ id wrapper, before.wrappers.get? id = some wrapper →
    after.wrappers.get? id = some wrapper
  /-- The imported program has been taken further at most, if it is there. -/
  program : ∀ new refs, after.natives.get? handle = some ⟨.program new, refs⟩ →
    ∃ old refs', before.natives.get? handle = some ⟨.program old, refs'⟩ ∧
      old.Progresses target new
  /-- A program that the caller keeps is there, with as many references. -/
  kept : keeps = true → ∀ old refs, before.natives.get? handle = some ⟨.program old, refs⟩ →
    ∃ new, after.natives.get? handle = some ⟨.program new, refs⟩

/-- What the store behind a table is after some exchanges. -/
def Host.storeAfter (host : Host) (table : Table) (exchanges : List Exchange) : Store :=
  ((host.simulator table.simulator).replay (table.history exchanges)).store

/-- What a host has kept through an import of a program. -/
structure Host.Frame (table : Table) (handle : NativeHandle) (keeps : Bool) (target : BundleState)
    (host after : Host) : Prop where
  /-- No other backend has taken a step. -/
  others : ∀ number, number ≠ table.simulator → after.simulator number = host.simulator number
  store : (host.simulator table.simulator).store.Frame handle keeps target
    (after.simulator table.simulator).store
  /-- Once a link has brought a new program, no exchange changes the imported one, except that the
  release of a program that the import owns may take a reference. -/
  linked : ∃ exchanges, Converses table host exchanges after ∧
    ∀ said exchange rest, exchanges = said ++ exchange :: rest → links said ≠ [] →
      (host.storeAfter table said).SameData handle (host.storeAfter table (said ++ [exchange])) ∧
      ((keeps = true ∨ ∀ program, exchange.call ≠ .programRelease program) →
        (host.storeAfter table said).SameNative handle
          (host.storeAfter table (said ++ [exchange])))

/-- Whatever may have happened at a backend since, a step leaves a native object alone. -/
def SparesLater (sim : Simulator) (number : Nat) (handle : NativeHandle) (step : Host → Host) :
    Prop :=
  ∀ later history, later.simulator number = sim.replay history →
    (∃ more, (step later).simulator number = sim.replay (history ++ more)) ∧
      (later.simulator number).store.SameNative handle ((step later).simulator number).store

/-! ## Through the import -/

section Through

variable {table : Table} {host after : Host} {native : NativeHandle} {context : ContextHandle}
  {ownsNative : Bool} {target : BundleState} {program : ProgramHandle} {exchanges : List Exchange}

theorem Store.Frame.refl {handle : NativeHandle} {keeps : Bool} (store : Store) :
    store.Frame handle keeps target store := by
  constructor
  case natives => exact fun _ _ found _ => found
  case wrappers => exact fun _ _ found => found
  case program => exact fun new refs found => ⟨new, refs, found, .refl new⟩
  case kept => exact fun _ old _ found => ⟨old, found⟩

theorem Framed.frame {importing : Importing} {start store : Store} {newer : List ProgramHandle}
    {keeps : Bool} (framed : Framed importing start newer store)
    (owned : keeps = true → importing.ownsNative = false) :
    start.Frame importing.native keeps importing.target store := by
  constructor
  case natives =>
    intro other object found isOther
    apply framed.natives other object _ found
    rintro rfl
    obtain ⟨imported, found', isProgram⟩ := framed.live
    obtain rfl := Option.some.inj (found.symm.trans found')
    exact isOther rfl isProgram
  case wrappers => exact framed.wrappers
  case program => exact framed.program
  case kept => exact fun kept => framed.kept (owned kept)

/-- The first call wraps the program, and leaves the store as it is where it fails. -/
theorem wrapped_answer :
    Ends (table.answer (.programCreate native context ownsNative)) host
      (fun reply after => ∀ program : ProgramHandle, reply = .handle program.id →
        ∃ refs, Simulator.Wraps (host.simulator table.simulator).store .program native ownsNative
          refs program (after.simulator table.simulator).store)
      (fun _ after => (after.simulator table.simulator).store =
        (host.simulator table.simulator).store) := by
  apply ends_call.mpr
  simp only [Host.simulator_advance_self]
  apply Ends.bind
    (Simulator.answers_programCreate.imp (fun _ _ wraps => wraps) fun _ _ failed => failed.1).ends
  rintro ⟨id⟩ after wraps
  apply ends_pure.mpr
  rintro ⟨other⟩ isProgram
  obtain rfl : id = other := Answer.handle.inj isProgram
  exact ⟨_, wraps⟩

/-- An import that has wrapped the program has the rest of its exchanges to come. -/
theorem Converses.wrapped (converses : Converses table host
      (⟨.programCreate native context ownsNative, .ok (.handle program.id)⟩ :: exchanges) after) :
    ∃ next refs, Simulator.Wraps (host.simulator table.simulator).store .program native ownsNative
        refs program (next.simulator table.simulator).store ∧
      Converses table next exchanges after := by
  obtain ⟨before, next, same, happens, rest⟩ := converses.uncons
  have equal : before.simulator table.simulator = host.simulator table.simulator :=
    Host.simulator_of_simulators same _
  rw [← equal]
  obtain ⟨refs, wraps⟩ := happens.of_ends (fun outcome after => ∀ program : ProgramHandle,
    outcome = .ok (.handle program.id) → ∃ refs, Simulator.Wraps
      (before.simulator table.simulator).store .program native ownsNative refs program
      (after.simulator table.simulator).store)
    (wrapped_answer.imp (fun _ _ wraps program isHandle =>
      wraps program (Except.ok.inj isHandle)) (by simp)) program rfl
  exact ⟨next, refs, wraps, rest⟩

/-- Wrapping the program starts the import. -/
theorem Converses.framed (formed : (host.simulator table.simulator).store.WellFormed)
    (converses : Converses table host (⟨.programCreate native context ownsNative,
      .ok (.handle program.id)⟩ :: exchanges) after) :
    ∃ next, Framed ⟨native, ownsNative, target, program⟩ (host.simulator table.simulator).store []
        (next.simulator table.simulator).store ∧
      Converses table next exchanges after := by
  obtain ⟨next, refs, ⟨live, isNext, equal⟩, rest⟩ := converses.wrapped
  refine ⟨next, ?_, rest⟩
  rw [isNext, equal]
  exact .wrapped formed live

/-- Where the program cannot be wrapped, the store stays as it is. -/
theorem Converses.unwrapped {e : NativeError} (converses : Converses table host
      [⟨.programCreate native context ownsNative, .error e⟩] after) :
    (after.simulator table.simulator).store = (host.simulator table.simulator).store := by
  obtain ⟨before, next, quiet, happens, rest⟩ := converses.uncons
  have equal : before.simulator table.simulator = host.simulator table.simulator :=
    Host.simulator_of_simulators quiet _
  have failed := happens.of_ends (fun outcome after => ∀ e, outcome = .error e →
      (after.simulator table.simulator).store = (before.simulator table.simulator).store)
    (wrapped_answer.imp (fun _ _ _ _ isError => by cases isError) fun _ _ same _ _ => same)
  rw [rest.simulator_eq, ← equal]
  exact failed e rfl

end Through

/-! ## After the import -/

section Later

variable {sim : Simulator} {number : Nat} {handle : NativeHandle}

theorem SparesLater.foldl {α : Type} {items : List α} {step : Host → α → Host}
    (steps : ∀ item ∈ items, SparesLater sim number handle fun host => step host item) :
    SparesLater sim number handle fun host => items.foldl step host := by
  induction items with
  | nil => exact fun later history same => ⟨⟨[], by simpa using same⟩, rfl⟩
  | cons item items ih =>
      intro later history same
      obtain ⟨⟨more, same'⟩, kept⟩ := steps item List.mem_cons_self later history same
      obtain ⟨⟨rest, same''⟩, kept'⟩ :=
        ih (fun other member => steps other (List.mem_cons_of_mem item member)) _ _ same'
      exact ⟨⟨more ++ rest, by rw [← List.append_assoc]; exact same''⟩, kept'.trans kept⟩

/-- A release leaves a native object alone, unless the wrapper owns it. -/
theorem Simulator.sameNative_release {call : Call} {kind : ObjectKind} {id : Nat}
    (counted : call.counted? = some (.release, kind, id))
    (unowned : ∀ wrapper, sim.store.wrappers.get? id = some wrapper → wrapper.data.kind = kind →
      wrapper.ownsNative = true → wrapper.native = handle →
      sim.store.natives.get? handle = none) :
    sim.store.SameNative handle (sim.after (.call call)).store := by
  have released : ∀ {wrapper : Wrapper} {store : Store},
      sim.store.wrappers.get? id = some wrapper → wrapper.data.kind = kind →
      sim.store.Released id wrapper store → sim.store.SameNative handle store := by
    intro wrapper store found isKind released
    cases released with
    | last =>
        by_cases owned : wrapper.ownsNative = true ∧ wrapper.native = handle
        · have dead := unowned wrapper found isKind owned.1 owned.2
          exact (Store.get?_discarded_of_dead dead).trans dead.symm
        · exact Store.get?_discarded_of_not_owned owned
    | another => rfl
  have unchanged : ∀ {store : Store}, store = sim.store → sim.store.SameNative handle store := by
    rintro _ rfl
    rfl
  apply (answers_released counted).after (fun _ => rfl) (unchanged rfl)
  · rintro _ _ ⟨wrapper, found, isKind, done⟩
    exact released found isKind done
  · rintro _ _ (⟨same, -⟩ | ⟨wrapper, found, isKind, ⟨-, same, -⟩ | ⟨done, -⟩⟩)
    · exact unchanged same
    · exact unchanged same
    · exact released found isKind done

/-- A release that never takes a native object along leaves it alone. -/
theorem sparesLater_release {step : Host → Host} {table : Table} (call : Call) {kind : ObjectKind}
    {id : Nat} (counted : call.counted? = some (.release, kind, id))
    (made : ∀ host, (step host).simulator number =
      if table.simulator = number then (host.simulator number).after (.call call)
      else host.simulator number)
    (unowned : ∀ history wrapper,
      (sim.replay history).store.wrappers.get? id = some wrapper → wrapper.data.kind = kind →
      wrapper.ownsNative = true → wrapper.native = handle →
      (sim.replay history).store.natives.get? handle = none) :
    SparesLater sim number handle step := by
  intro later history same
  rw [made]
  split
  · refine ⟨⟨[.call call], by rw [Simulator.replay_append, same]; rfl⟩, ?_⟩
    rw [same]
    exact Simulator.sameNative_release counted (unowned history)
  · exact ⟨⟨[], by rw [List.append_nil]; exact same⟩, rfl⟩

variable {importing : Importing} {start : Store} {newer : List ProgramHandle}

/-- Releasing a program that the import has made takes nothing of a program that is kept. -/
theorem Framed.sparesLater_program (framed : Framed importing start newer sim.store)
    (kept : importing.ownsNative = false) {program : ProgramRef}
    (held : program.handle ∈ importing.held newer) :
    SparesLater sim number importing.native program.release := by
  apply sparesLater_release (.programRelease program.handle) rfl
  · exact fun host => program.simulator_release host number
  · intro history wrapper found _ owns isNative
    obtain ⟨refs, known⟩ :=
      Simulator.wrapper_replay framed.formed (framed.new _ held).2 found
    have old : wrapper.native.raw < start.nextNative := isNative ▸ framed.below
    obtain ⟨-, -, same⟩ := framed.wraps_native held known old
    have unowned : wrapper.ownsNative = false := same.trans kept
    rw [unowned] at owns
    contradiction

/-- Releasing a context takes nothing of a program. -/
theorem Framed.sparesLater_context (framed : Framed importing start newer sim.store)
    (kept : importing.ownsNative = false) (context : Context) :
    SparesLater sim number importing.native (Owner.context context).release := by
  apply sparesLater_release (.contextRelease context.handle) rfl
  · exact fun host => Host.simulator_releaseWith (.of_done (.contextRelease context.handle) rfl) host
      number
  · intro history wrapper found isContext _ isNative
    rw [Option.eq_none_iff_forall_ne_some]
    intro object live
    have below := Nat.lt_of_lt_of_le framed.below framed.nextNative_le
    obtain ⟨old, known, becomes⟩ := Simulator.becomes_replay framed.formed below live
    -- What the context is put around has become of the program.
    have isContext' : object.data.kind = .context :=
      ((Simulator.wellFormed_replay framed.formed history).kind_eq _ wrapper object found
        (isNative ▸ live)).trans isContext
    have isProgram : old.data.kind = .program := by
      obtain ⟨⟨data, refs⟩, found', isProgram⟩ := framed.live
      cases data with
      | program binary =>
          obtain ⟨new, found⟩ := framed.kept kept binary refs found'
          obtain rfl := Option.some.inj (known.symm.trans found)
          rfl
      | _ => contradiction
    have isProgram' : object.data.kind = .program := becomes.kind_eq.trans isProgram
    rw [isContext'] at isProgram'
    contradiction

/-- Dropping a bundle whose programs the import has made takes nothing of a program that is kept. -/
theorem Framed.sparesLater_bundle (framed : Framed importing start newer sim.store)
    (kept : importing.ownsNative = false) {bundle : KernelBundle}
    (made : ∀ image ∈ bundle.images, ∀ other ∈ image.program :: image.superseded,
      other.handle ∈ importing.held newer) :
    SparesLater sim number importing.native (Host.letGo (.bundle bundle)) := by
  have owners : ∀ owner ∈ bundle.owners, SparesLater sim number importing.native owner.release := by
    intro owner member
    rcases List.mem_cons.mp member with rfl | isImage
    · exact framed.sparesLater_context kept bundle.context
    · obtain ⟨image, listed, rfl⟩ := List.mem_map.mp isImage
      exact SparesLater.foldl fun other held =>
        framed.sparesLater_program kept (made image listed other held)
  intro later
  have ending : ∀ owner ∈ Managed.ending (.bundle bundle) later.held.values,
      SparesLater sim number importing.native owner.release := by
    intro owner member
    rw [Managed.ending, mem_lastOccurrences, List.mem_filter] at member
    exact owners owner member.1
  exact SparesLater.foldl ending later

end Later

/-! ## Whole imports -/

section Whole

variable {table : Table} {host after : Host} {builder : Builder} {target : BundleState}
  {handle : NativeHandle} {keeps : Bool} {exchanges : List Exchange}
  {outcome : Except ImportError KernelBundle}

/-- What a conversation has made of the store behind the table. -/
theorem Converses.storeAfter_eq (converses : Converses table host exchanges after) :
    (after.simulator table.simulator).store = host.storeAfter table exchanges := by
  rw [converses.simulator_eq]
  rfl

/-- After a link, the next exchange leaves the imported program as it is. -/
theorem Converses.spares {importing : Importing} {start : Store} {newer : List ProgramHandle}
    {said rest : List Exchange} {exchange : Exchange} {before : Host}
    (converses : Converses table host said before)
    (framed : Framed importing start newer (before.simulator table.simulator).store)
    (next : Converses table before (exchange :: rest) after)
    (permitted : Permitted importing newer exchange.call) (linked : newer ≠ []) :
    (host.storeAfter table said).SameData importing.native
        (host.storeAfter table (said ++ [exchange])) ∧
      ((importing.ownsNative = false ∨ ∀ program, exchange.call ≠ .programRelease program) →
        (host.storeAfter table said).SameNative importing.native
          (host.storeAfter table (said ++ [exchange]))) := by
  obtain ⟨asked, told, same, happens, -⟩ := next.uncons
  have equal : asked.simulator table.simulator = before.simulator table.simulator :=
    Host.simulator_of_simulators same _
  rw [← equal] at framed
  rw [← converses.storeAfter_eq, ← equal,
    ← (converses.trans (.aside same (.said happens (.done told)))).storeAfter_eq]
  exact happens.spares framed permitted linked

/-- An import that has wrapped the program keeps the frame wherever it stops. -/
theorem Converses.frame (formed : (host.simulator table.simulator).store.WellFormed)
    {program : ProgramHandle} {rest : List Exchange}
    (converses : Converses table host (⟨.programCreate handle builder.context.handle
      (Ownership.ofKeep keeps).ownsNative, .ok (.handle program.id)⟩ :: rest) after)
    (careful : Careful ⟨handle, (Ownership.ofKeep keeps).ownsNative, target, program⟩ [] rest) :
    Host.Frame table handle keeps target host after := by
  have owned : keeps = true → (Ownership.ofKeep keeps).ownsNative = false := by
    rintro rfl
    rfl
  constructor
  case others => exact fun number other => converses.simulator_ne other
  case store =>
    obtain ⟨next, framed, later⟩ := converses.framed formed
    exact (framed.converses careful later).frame owned
  case linked =>
    refine ⟨_, converses, ?_⟩
    intro said exchange others whole linked
    -- The first exchange is no link, so that the link has come after it.
    rcases List.cons_eq_append_iff.mp whole with ⟨rfl, -⟩ | ⟨more, rfl, rfl⟩
    · exact absurd rfl linked
    · rw [← List.cons_append] at converses
      obtain ⟨before, first, rest⟩ := converses.split
      obtain ⟨next, framed, later⟩ := first.framed formed
      obtain ⟨careful, permitted, -⟩ := careful_append.mp careful
      have linked : links more ≠ [] := linked
      have newer : newest [] more ≠ [] := by simpa [newest] using linked
      have spares := first.spares (framed.converses careful later) rest permitted newer
      exact ⟨spares.1, fun either => spares.2 (either.imp_left owned)⟩

/-- An import that cannot wrap the program leaves everything as it is. -/
theorem Converses.frame_of_unwrapped {context : ContextHandle} {ownsNative : Bool}
    {e : NativeError}
    (converses : Converses table host [⟨.programCreate handle context ownsNative, .error e⟩] after) :
    Host.Frame table handle keeps target host after := by
  constructor
  case others => exact fun number other => converses.simulator_ne other
  case store =>
    rw [converses.unwrapped]
    exact .refl _
  case linked =>
    refine ⟨_, converses, ?_⟩
    intro said exchange others whole linked
    rcases List.cons_eq_append_iff.mp whole with ⟨rfl, -⟩ | ⟨more, -, rest⟩
    · exact absurd rfl linked
    · simp at rest

/-- The host is framed by what an import says, however it ends. -/
theorem ImportsProgram.frame (formed : (host.simulator table.simulator).store.WellFormed)
    (imports : ImportsProgram builder target handle (Ownership.ofKeep keeps).ownsNative exchanges
      outcome) (converses : Converses table host exchanges after) :
    Host.Frame table handle keeps target host after := by
  rcases imports.careful with ⟨e, rfl, -⟩ | ⟨program, rest, rfl, careful, -⟩
  · exact converses.frame_of_unwrapped
  · exact converses.frame formed careful

/-- Dropping the bundle of a program that the caller keeps takes no reference to the program, now
or later. -/
theorem ImportsProgram.sparesLater (formed : (host.simulator table.simulator).store.WellFormed)
    {bundle : KernelBundle} (imports : ImportsProgram builder target handle
      (Ownership.ofKeep true).ownsNative exchanges (.ok bundle))
    (converses : Converses table host exchanges after) {number : Nat} :
    SparesLater (after.simulator table.simulator) number handle (Host.letGo (.bundle bundle)) := by
  rcases imports.careful with ⟨e, rfl, fails⟩ | ⟨program, rest, rfl, careful, made⟩
  · exact absurd rfl (fails bundle)
  · obtain ⟨next, framed, later⟩ := converses.framed formed
    refine (framed.converses careful later).sparesLater_bundle rfl ?_
    intro image listed other held
    exact (mem_held_newest rfl).mpr (made bundle rfl image listed other held).2

theorem ends_importProgram_unresolved {registry : Registry} {backend : Backend}
    (unresolved : registry.provider? backend = none) {context : Context} :
    Ends (importProgram registry handle context keeps target backend) host (fun _ _ => False)
      (fun _ after => after.simulators = host.simulators) := by
  have resolves : ∀ {middle : Host}, middle.simulators = host.simulators →
      Ends (registry.resolve backend) middle (fun _ _ => False)
        (fun _ after => after.simulators = host.simulators) := by
    intro middle same
    apply ends_resolve.imp
    · rintro provider _ ⟨resolved, -⟩
      rw [unresolved] at resolved
      contradiction
    · rintro _ _ ⟨-, rfl⟩
      exact same
  unfold importProgram
  rw [ends_bind, ends_notify]
  refine Ends.timed ?_ (fun _ _ _ ended => ended) fun _ _ _ ended => ended
  refine Ends.bind (resolves ?_) fun _ _ => False.elim
  rfl

/-- However an import of a program ends, the native objects and the wrappers that were there before
are as they were, but for the imported program, of which `Host.Frame` says what may have become. -/
theorem importProgram_frame {session : Session} (reachable : session.Reachable)
    (registry : Registry) (handle : NativeHandle) (context : Context) (keeps : Bool)
    (target : BundleState) (backend : Backend) :
    Ends (importProgram registry handle context keeps target backend) session.host
      (fun bundle after => ∃ provider, registry.provider? backend = some provider ∧
        session.host.Frame provider.table handle keeps target after ∧
        (keeps = true → SparesLater (after.simulator provider.table.simulator)
          provider.table.simulator handle (Host.letGo (.bundle bundle))))
      (fun _ after => match registry.provider? backend with
        | some provider => session.host.Frame provider.table handle keeps target after
        | none => after.simulators = session.host.simulators) := by
  cases resolved : registry.provider? backend with
  | none =>
      apply (ends_importProgram_unresolved resolved).imp
      · exact fun _ _ => False.elim
      · exact fun _ _ same => same
  | some provider =>
      have formed := reachable.wellFormed provider.table.simulator
      apply (talks_importProgram resolved handle context keeps target session.host).imp
      · rintro bundle after ⟨exchanges, converses, imports⟩
        refine ⟨provider, rfl, imports.frame formed converses, ?_⟩
        rintro rfl
        exact imports.sparesLater formed converses
      · rintro e after ⟨exchanges, converses, imports⟩
        exact imports.frame formed converses

end Whole

/-- A program that a link has replaced has its one reference after the import, and after the bundle
has been dropped. -/
theorem importProgram_frame_linked :
    let session := Session.sample SimulatorConfig.cuda.wholeProgramsOnly [⟨4097⟩, ⟨4098⟩] .object []
    session.Reachable ∧ Registry.sample.provider? .cuda = some .sample ∧
      ∃ bundle after,
        importProgram .sample ⟨4100⟩ .sample true .executable .cuda session.host = .ok bundle after ∧
        bundle.images.map (fun image => image.superseded.length) = [1] ∧
        session.host.Frame Provider.sample.table ⟨4100⟩ true .executable after ∧
        SparesLater (after.simulator 0) 0 ⟨4100⟩ (Host.letGo (.bundle bundle)) ∧
        (session.host.simulator 0).nativeRefs? ⟨4100⟩ = some 1 ∧
        (after.simulator 0).nativeRefs? ⟨4100⟩ = some 1 ∧
        ((Host.letGo (.bundle bundle) after).simulator 0).nativeRefs? ⟨4100⟩ = some 1 := by
  intro session
  have resolved : Registry.sample.provider? .cuda = some .sample := by decide
  have reachable : session.Reachable := Session.sample_reachable
  have before : (session.host.simulator 0).nativeRefs? ⟨4100⟩ = some 1 := by decide +kernel
  have runs : bringsBack (fun bundle after =>
      decide (bundle.images.map (fun image => image.superseded.length) = [1] ∧
        (after.simulator 0).nativeRefs? ⟨4100⟩ = some 1 ∧
        ((Host.letGo (.bundle bundle) after).simulator 0).nativeRefs? ⟨4100⟩ = some 1))
      (importProgram .sample ⟨4100⟩ .sample true .executable .cuda session.host) = true := by
    decide +kernel
  clear_value session
  obtain ⟨bundle, after, outcome, counted⟩ := exists_of_bringsBack runs
  have ends := importProgram_frame reachable .sample ⟨4100⟩ .sample true .executable .cuda
  obtain ⟨provider, isProvider, frame, spares⟩ := ends.of_ok outcome
  obtain rfl := Option.some.inj (resolved.symm.trans isProvider)
  rw [decide_eq_true_eq] at counted
  obtain ⟨replaced, counted, counted'⟩ := counted
  exact ⟨reachable, resolved, bundle, after, outcome, replaced, frame, spares rfl, before, counted,
    counted'⟩

end ComputeImport
