import ComputeImport.Proofs.Import.Custody
import ComputeImport.Proofs.Simulator.Placing
import ComputeImport.Session.Command

/-!
# What stands behind an imported object

A managed object is asked for its native one through the wrapper that it keeps.  What a wrapper tells
is settled when it is made, and it tells so until it ends, whatever becomes of the native object.
Whether it succeeds or fails, an import releases no wrapper that was there before it, apart from
those of programs, so that all that has been imported before keeps what stands behind it.
-/

namespace ComputeImport

/-! ## Asking for native objects -/

/-- How a managed object is asked for its native one. -/
structure Accessor where
  /-- The wrapper that is asked. -/
  token : Token
  entryPoint : EntryPoint
  ask : ImportM Reply

/-- How an object is asked for its native one, if it can be asked. -/
def Managed.accessor? : Managed → Option Accessor
  | platform held =>
      some ⟨held.provider.token held.handle, .platformNative,
        do return .handle (← held.nativeHandle)⟩
  | device held =>
      some ⟨held.platform.provider.token held.handle, .deviceNative,
        do return .handle (← held.nativeHandle)⟩
  | context held =>
      some ⟨held.provider.token held.handle, .contextNative,
        do return .handle (← held.nativeHandle)⟩
  | queue held =>
      some ⟨held.provider.token held.handle, .queueNative,
        do
          let (handle, descriptor) ← held.nativeHandle
          return .queue handle descriptor⟩
  | event held =>
      some ⟨held.provider.token held.handle, .eventNative,
        do return .handle (← held.nativeHandle)⟩
  | kernel held =>
      some ⟨held.provider.token held.handle, .kernelNative,
        do return .handle (← held.nativeHandle)⟩
  | image _ | bundle _ | provider _ => none

/-- What a wrapper tells of the native object behind it. -/
def Wrapper.told (wrapper : Wrapper) : Reply :=
  match wrapper.data.queue? with
  | some record => .queue wrapper.native record.descriptor
  | none => .handle wrapper.native

theorem Wrapper.told_of_plain {wrapper : Wrapper} (plain : wrapper.data.kind ≠ .queue) :
    wrapper.told = .handle wrapper.native := by
  unfold told
  cases isData : wrapper.data with
  | queue record => exact absurd (congrArg WrapperData.kind isData) plain
  | _ => rfl

/-- A wrapper is live, and tells something. -/
def Host.Backs (host : Host) (token : Token) (reply : Reply) : Prop :=
  ∃ wrapper, (host.simulator token.simulator).store.wrappers.get? token.id = some wrapper ∧
    wrapper.data.kind = token.kind ∧ wrapper.told = reply

variable {start middle host after : Host} {token : Token} {reply : Reply}

section Asking

variable {kind : ObjectKind} {provider : Provider} {handle : Handle kind}

theorem Host.backs_of_behind {native : NativeHandle} (plain : kind ≠ .queue)
    (behind : (host.simulator provider.table.simulator).store.Behind handle native) :
    host.Backs (provider.token handle) (.handle native) := by
  obtain ⟨wrapper, found, isKind, rfl⟩ := behind
  exact ⟨wrapper, found, isKind, Wrapper.told_of_plain (isKind ▸ plain)⟩

/-- Asking for what is behind a live wrapper brings it back, unless that has been told to fail. -/
theorem ends_askBehind {call : Call} (plain : kind ≠ .queue)
    (backs : host.Backs (provider.token handle) reply)
    (unset : (host.simulator provider.table.simulator).failures.get? call.entryPoint = none) :
    Ends (do return .handle (← native (provider.table.call
        (Simulator.perform call (Simulator.onStore (Store.behind handle)))))) host
      (fun told _ => told = reply) (fun _ _ => False) := by
  obtain ⟨wrapper, found, isKind, isTold⟩ := backs
  have asks : Simulator.Answers call
      (Simulator.perform call (Simulator.onStore (Store.behind handle)))
      (host.simulator provider.table.simulator) _ _ :=
    (Simulator.Works.onStore Store.ends_behind).answers
  apply (ends_native.mpr (Ends.imp (Ends.call asks) (fun _ _ ended => ended) ?_)).bind
  · rintro told after ⟨-, -, -, wrapper', found', -, rfl⟩
    obtain rfl := Option.some.inj (found.symm.trans found')
    exact (Wrapper.told_of_plain (isKind ▸ plain)).symm.trans isTold
  · rintro e after ⟨-, ⟨injected, -⟩ | ⟨-, -, -, dead⟩⟩
    · exact Option.some_ne_none e (injected.symm.trans unset)
    · exact dead ⟨wrapper, found, isKind⟩

theorem answers_queueNative {sim : Simulator} {queue : QueueHandle} :
    Simulator.Answers (.queueNative queue) (Simulator.queueNative queue) sim
      (fun told store => store = sim.store ∧ ∃ wrapper record,
        sim.store.wrappers.get? queue.id = some wrapper ∧ wrapper.data = .queue record ∧
        told = (wrapper.native, record.descriptor))
      (fun _ _ => ¬ sim.store.HasWrapper queue) := by
  refine (Simulator.Works.onStore ?_).answers
  apply (Store.ends_behind.imp (fun _ _ found => found) fun _ _ failed => failed.2.2).bind
  rintro native _ ⟨rfl, wrapper, found, -, rfl⟩
  apply (Store.ends_queueRecord.imp (fun _ _ found => found) fun _ _ failed => failed.2.2).bind
  rintro record _ ⟨rfl, wrapper', found', isQueue⟩
  obtain rfl := Option.some.inj (found.symm.trans found')
  exact ⟨rfl, wrapper, record, found, isQueue, rfl⟩

theorem ends_askQueue {queue : Queue}
    (backs : host.Backs (queue.provider.token queue.handle) reply)
    (unset : (host.simulator queue.provider.table.simulator).failures.get? .queueNative = none) :
    Ends (do
        let (handle, descriptor) ← queue.nativeHandle
        return .queue handle descriptor) host
      (fun told _ => told = reply) (fun _ _ => False) := by
  obtain ⟨wrapper, found, isKind, rfl⟩ := backs
  have asks : Simulator.Answers _ (Simulator.queueNative queue.handle)
      (host.simulator queue.provider.table.simulator) _ _ := answers_queueNative
  apply (ends_native.mpr (Ends.imp (Ends.call asks) (fun _ _ ended => ended) ?_)).bind
  · rintro told after ⟨-, -, -, wrapper', record, found', isQueue, rfl⟩
    obtain rfl := Option.some.inj (found.symm.trans found')
    rw [ends_pure, Wrapper.told, isQueue]
    rfl
  · rintro e after ⟨-, ⟨injected, -⟩ | ⟨-, dead⟩⟩
    · exact Option.some_ne_none e (injected.symm.trans unset)
    · exact dead ⟨wrapper, found, isKind⟩

end Asking

/-- A live wrapper tells what is behind it whenever it is asked, unless that has been told to fail. -/
theorem ends_askBacked {value : Managed} {accessor : Accessor}
    (isAccessor : value.accessor? = some accessor) (backs : host.Backs accessor.token reply)
    (unset : (host.simulator accessor.token.simulator).failures.get? accessor.entryPoint = none) :
    Ends accessor.ask host (fun told _ => told = reply) (fun _ _ => False) := by
  cases value with
  | platform held | device held | context held | event held | kernel held =>
      obtain rfl := Option.some.inj isAccessor
      exact ends_askBehind (by decide) backs unset
  | queue held =>
      obtain rfl := Option.some.inj isAccessor
      exact ends_askQueue backs unset
  | image | bundle | provider => contradiction

/-! ## What lasts -/

/-- What a store has lasts in a later one: the wrappers that are not exempt, each with what it tells,
and what is known of its native objects that are still live, apart from programs. -/
structure Store.Lasts (exempt : ObjectKind → Nat → Prop) (start store : Store) : Prop where
  formed : store.WellFormed
  wrapper : ∀ id wrapper, start.wrappers.get? id = some wrapper → ¬ exempt wrapper.data.kind id →
    ∃ refs, store.wrappers.get? id = some { wrapper with refs }
  nextWrapper_le : start.nextWrapper ≤ store.nextWrapper
  nextNative_le : start.nextNative ≤ store.nextNative
  native : ∀ handle object, handle.raw < start.nextNative →
    store.natives.get? handle = some object →
    ∃ old, start.natives.get? handle = some old ∧ old.data.Becomes object.data

namespace Store.Lasts

variable {exempt : ObjectKind → Nat → Prop} {first second store : Store} {sim : Simulator}

theorem refl (formed : store.WellFormed) : store.Lasts exempt store :=
  ⟨formed, fun _ wrapper found _ => ⟨wrapper.refs, found⟩, Nat.le_refl _, Nat.le_refl _,
    fun _ object _ found => ⟨object, found, .refl _⟩⟩

theorem trans (lasts : first.Lasts exempt second) (lasts' : second.Lasts exempt store) :
    first.Lasts exempt store := by
  constructor
  case formed => exact lasts'.formed
  case wrapper =>
    intro id wrapper found kept
    obtain ⟨refs, found⟩ := lasts.wrapper id wrapper found kept
    exact lasts'.wrapper id { wrapper with refs } found kept
  case nextWrapper_le => exact Nat.le_trans lasts.nextWrapper_le lasts'.nextWrapper_le
  case nextNative_le => exact Nat.le_trans lasts.nextNative_le lasts'.nextNative_le
  case native =>
    intro handle object below found
    obtain ⟨middle, found, becomes'⟩ :=
      lasts'.native handle object (Nat.lt_of_lt_of_le below lasts.nextNative_le) found
    obtain ⟨old, found, becomes⟩ := lasts.native handle middle below found
    exact ⟨old, found, becomes.trans becomes'⟩

theorem behind (lasts : first.Lasts exempt store) {kind : ObjectKind} {handle : Handle kind}
    {native : NativeHandle} (behind : first.Behind handle native) (kept : ¬ exempt kind handle.id) :
    store.Behind handle native := by
  obtain ⟨wrapper, found, rfl, rfl⟩ := behind
  obtain ⟨refs, found⟩ := lasts.wrapper handle.id wrapper found kept
  exact ⟨{ wrapper with refs }, found, rfl, rfl⟩

end Store.Lasts

/-- A call that would drop a reference to a wrapper of another kind changes no object. -/
theorem Simulator.store_released_other {sim : Simulator} {call : Call} {kind : ObjectKind}
    {id : Nat} {wrapper : Wrapper} (counted : call.counted? = some (.release, kind, id))
    (found : sim.store.wrappers.get? id = some wrapper) (differs : wrapper.data.kind ≠ kind) :
    (sim.after (.call call)).store = sim.store := by
  suffices ends : Ends (Simulator.answer call) sim (fun _ after => after.store = sim.store)
      (fun _ after => after.store = sim.store) from ends_stateAfter.mp ends
  have other : ∀ wrapper', sim.store.wrappers.get? id = some wrapper' →
      wrapper'.data.kind ≠ kind := by
    intro wrapper' found'
    rw [← Option.some.inj (found.symm.trans found')]
    exact differs
  apply Ends.imp (Simulator.answers_released counted)
  · rintro _ _ ⟨-, -, wrapper', found', isKind, -⟩
    exact absurd isKind (other wrapper' found')
  · rintro _ _ ⟨-, ⟨-, unchanged⟩ | ⟨-, ⟨unchanged, -⟩ | ⟨wrapper', found', isKind, -⟩⟩⟩
    · exact unchanged
    · exact unchanged
    · exact absurd isKind (other wrapper' found')

/-- What a backend had at the start lasts through an operation that releases only what is exempt or
has been wrapped since. -/
theorem Store.Lasts.step {exempt : ObjectKind → Nat → Prop} {start : Store} {sim : Simulator}
    (started : start.WellFormed) (lasts : start.Lasts exempt sim.store)
    {operation : Simulator.Operation}
    (spared : ∀ call kind id, operation = .call call →
      call.counted? = some (.release, kind, id) → exempt kind id ∨ start.nextWrapper ≤ id) :
    start.Lasts exempt (sim.after operation).store := by
  have moves := Simulator.moves_after lasts.formed operation
  constructor
  case formed => exact Simulator.wellFormed_after lasts.formed operation
  case wrapper =>
    intro id wrapper known kept
    obtain ⟨refs, found⟩ := lasts.wrapper id wrapper known kept
    have below := lasts.formed.wrapper_lt id _ found
    cases released : operation.releases id with
    | false =>
        have live := moves.lives lasts.formed released (by rw [found]; exact Option.some_ne_none _)
        obtain ⟨wrapper', found'⟩ := Option.ne_none_iff_exists'.mp live
        obtain ⟨refs', known'⟩ := moves.wrapper_eq below found'
        have same := Option.some.inj (found.symm.trans known')
        refine ⟨wrapper'.refs, found'.trans (congrArg some ?_)⟩
        cases wrapper
        cases wrapper'
        cases same
        rfl
    | true =>
        cases operation with
        | caller action => contradiction
        | call call =>
            rw [Simulator.Operation.releases] at released
            split at released
            · rename_i kind other counted
              obtain rfl := beq_iff_eq.mp released
              rw [Simulator.store_released_other counted found]
              · exact ⟨refs, found⟩
              · rintro rfl
                rcases spared call _ _ rfl counted with isExempt | above
                · exact kept isExempt
                · exact absurd (started.wrapper_lt _ wrapper known) (Nat.not_lt.mpr above)
            · contradiction
  case nextWrapper_le => exact Nat.le_trans lasts.nextWrapper_le moves.nextWrapper_le
  case nextNative_le =>
    exact Nat.le_trans lasts.nextNative_le (moves.nextNative_le lasts.formed)
  case native =>
    intro handle object below found
    obtain ⟨middle, found, becomes'⟩ := moves.becomes lasts.formed
      (Nat.lt_of_lt_of_le below lasts.nextNative_le) found
    obtain ⟨old, found, becomes⟩ := lasts.native handle middle below found
    exact ⟨old, found, becomes.trans becomes'⟩

/-! ## Imports spare what was there -/

/-- The wrapper of a program. -/
def Token.IsProgram (token : Token) : Prop :=
  token.kind = .program

theorem Token.not_isProgram {number id : Nat} {kind : ObjectKind} (differs : kind ≠ .program) :
    ¬ Token.IsProgram ⟨number, kind, id⟩ :=
  differs

namespace Host

/-- Since a start, no wrapper has ended that is not exempt, no backend has been set up, and what is
held is the same. -/
structure Spares (exempt : Token → Prop) (start host : Host) : Prop where
  started : ∀ number, (start.simulator number).store.WellFormed
  stores : ∀ number, (start.simulator number).store.Lasts (fun kind id => exempt ⟨number, kind, id⟩)
    (host.simulator number).store
  held : host.held = start.held
  keys : host.simulators.keys = start.simulators.keys

namespace Spares

variable {exempt : Token → Prop} {number : Nat}

theorem refl (formed : ∀ number, (host.simulator number).store.WellFormed) :
    host.Spares exempt host :=
  ⟨formed, fun number => .refl (formed number), rfl, rfl⟩

theorem formed (spares : start.Spares exempt host) (number : Nat) :
    (host.simulator number).store.WellFormed :=
  (spares.stores number).formed

theorem trans (spares : start.Spares exempt middle) (spares' : middle.Spares exempt host) :
    start.Spares exempt host :=
  ⟨spares.started, fun number => (spares.stores number).trans (spares'.stores number),
    spares'.held.trans spares.held, spares'.keys.trans spares.keys⟩

theorem of_simulators (spares : start.Spares exempt host) (same : after.simulators = host.simulators)
    (held : after.held = host.held) : start.Spares exempt after := by
  constructor
  case started => exact spares.started
  case stores =>
    intro number
    have equal : after.simulator number = host.simulator number := by
      exact simulator_of_simulators same _
    rw [equal]
    exact spares.stores number
  case held => exact held.trans spares.held
  case keys => rw [same, spares.keys]

theorem notify (spares : start.Spares exempt host) (notice : Notice) :
    start.Spares exempt (host.notify notice) :=
  spares.of_simulators rfl rfl

/-- An operation that releases only what is exempt, or has been wrapped since the start. -/
theorem step (spares : start.Spares exempt host) (known : number ∈ start.simulators.keys)
    {operation : Simulator.Operation}
    (spared : ∀ call kind id, operation = .call call →
      call.counted? = some (.release, kind, id) →
      exempt ⟨number, kind, id⟩ ∨ (start.simulator number).store.nextWrapper ≤ id) :
    start.Spares exempt (host.advance number ((host.simulator number).after operation)) := by
  constructor
  case started => exact spares.started
  case stores =>
    intro other
    rw [simulator_advance]
    split
    · rename_i equal
      subst equal
      exact (spares.stores number).step (spares.started number) spared
    · exact spares.stores other
  case held => exact spares.held
  case keys => rw [advance, Ledger.keys_set, spares.keys, if_pos known]

theorem call {α : Type} {table : Table} {step : Native α} {call : Call}
    (spares : start.Spares exempt host) (isCall : IsCall step call)
    (known : table.simulator ∈ start.simulators.keys)
    (spared : ∀ kind id, call.counted? = some (.release, kind, id) →
      exempt ⟨table.simulator, kind, id⟩ ∨
        (start.simulator table.simulator).store.nextWrapper ≤ id) :
    Ends (table.call step) host (fun _ after => start.Spares exempt after)
      (fun _ after => start.Spares exempt after) := by
  apply ends_call.mpr
  apply (ends_same step _).imp
  all_goals
    rintro _ _ rfl
    rw [isCall]
    apply spares.step known
    rintro _ kind id ⟨⟩
    exact spared kind id

/-- What a wrapper tells it tells as long as it is spared. -/
theorem backs (spares : start.Spares exempt host) (backs : start.Backs token reply)
    (kept : ¬ exempt token) : host.Backs token reply := by
  obtain ⟨number, kind, id⟩ := token
  obtain ⟨wrapper, found, rfl, isTold⟩ := backs
  obtain ⟨refs, found'⟩ := (spares.stores number).wrapper id wrapper found kept
  exact ⟨{ wrapper with refs }, found', rfl, isTold⟩

end Spares

/-- Calls that end no wrappers but those that are exempt, at backends that are there. -/
theorem respects_spared {exempt : Token → Prop} {allowed : EntryPoint → Prop}
    (ended : ∀ number (call : Call) kind id, allowed call.entryPoint →
      call.counted? = some (.release, kind, id) → exempt ⟨number, kind, id⟩) :
    Respects (fun number => number ∈ start.simulators.keys) allowed (start.Spares exempt) := by
  apply Respects.uncached
  case call =>
    intro host number call known isAllowed spares
    apply spares.step known
    rintro _ kind id ⟨⟩ counted
    exact Or.inl (ended number call kind id isAllowed counted)
  case other => exact fun _ _ same held _ spares => spares.of_simulators same held

theorem respects_spares :
    Respects (fun number => number ∈ start.simulators.keys) EntryPoint.IsSparing
      (start.Spares Token.IsProgram) := by
  apply respects_spared
  intro number call kind id isSparing counted
  apply isSparing kind
  rw [Call.counting?_entryPoint, counted]
  rfl

/-- A program that makes no other calls than sparing ones at backends that are there. -/
theorem Spares.uses {ε α : Type} {body : EStateM ε Host α}
    (spares : start.Spares Token.IsProgram host)
    (uses : Uses (fun number => number ∈ start.simulators.keys) EntryPoint.IsSparing body) :
    Ends body host (fun _ after => start.Spares Token.IsProgram after)
      (fun _ after => start.Spares Token.IsProgram after) :=
  (uses _ respects_spares).ends host spares

theorem Backs.of_simulators (backs : host.Backs token reply)
    (same : after.simulators = host.simulators) : after.Backs token reply := by
  rw [Backs, simulator, same]
  exact backs

/-- Since a start, a wrapper has been made that tells something. -/
structure Wraps (start : Host) (token : Token) (reply : Reply) (after : Host) : Prop where
  spares : start.Spares Token.IsProgram after
  known : token.simulator ∈ start.simulators.keys
  new : (start.simulator token.simulator).store.nextWrapper ≤ token.id
  backs : after.Backs token reply

theorem Wraps.of_simulators (wraps : start.Wraps token reply host)
    (same : after.simulators = host.simulators) (held : after.held = host.held) :
    start.Wraps token reply after :=
  ⟨wraps.spares.of_simulators same held, wraps.known, wraps.new, wraps.backs.of_simulators same⟩

theorem Wraps.later (wraps : start.Wraps token reply middle)
    (spares : middle.Spares Token.IsProgram after) (ordinary : ¬ token.IsProgram) :
    start.Wraps token reply after :=
  ⟨wraps.spares.trans spares, wraps.known, wraps.new, spares.backs wraps.backs ordinary⟩

end Host

/-! ### Wrapping on behalf of an import -/

/-- A new wrapper tells something. -/
def Store.Tells {kind : ObjectKind} (store : Store) (handle : Handle kind) (reply : Reply)
    (after : Store) : Prop :=
  store.nextWrapper ≤ handle.id ∧ ∃ wrapper,
    after.wrappers.get? handle.id = some wrapper ∧ wrapper.data.kind = kind ∧ wrapper.told = reply

section Wraps

variable {store quiet after : Store} {data : WrapperData} {native : NativeHandle} {ownsNative : Bool}
  {refs : Nat} {handle : Handle data.kind}

theorem Simulator.Wraps.get?_wrappers
    (wraps : Simulator.Wraps quiet data native ownsNative refs handle after) :
    after.wrappers.get? handle.id = some ⟨data, native, refs, ownsNative⟩ := by
  obtain ⟨-, rfl, rfl⟩ := wraps
  simp [Store.wrapped]

theorem Simulator.Wraps.tells
    (wraps : Simulator.Wraps quiet data native ownsNative refs handle after)
    (le : store.nextWrapper ≤ quiet.nextWrapper) :
    store.Tells handle (Wrapper.told ⟨data, native, refs, ownsNative⟩) after :=
  ⟨wraps.handle_eq ▸ le, _, wraps.get?_wrappers, rfl, rfl⟩

theorem Simulator.Wraps.behind
    (wraps : Simulator.Wraps quiet data native ownsNative refs handle after)
    (formed : quiet.WellFormed) {kind : ObjectKind} {other : Handle kind} {behind : NativeHandle}
    (isBehind : quiet.Behind other behind) : after.Behind other behind := by
  obtain ⟨wrapper, found, isKind, isNative⟩ := isBehind
  rw [wraps.after_eq]
  exact ⟨wrapper, formed.get?_wrapped found, isKind, isNative⟩

end Wraps

section Adopting

variable {α : Type} {kind : ObjectKind} {provider : Provider} {create : Native (Handle kind)}
  {retain release : Handle kind → Native Unit} {creates : Call} {retains releases : Handle kind → Call}

/-- The importer's reference to a new wrapper is taken; where that fails, no wrapper has ended that
was there before. -/
theorem ends_takeReferenceSpares {wrapper : Handle kind}
    (spares : start.Spares Token.IsProgram middle)
    (known : provider.table.simulator ∈ start.simulators.keys)
    (above : (start.simulator provider.table.simulator).store.nextWrapper ≤ wrapper.id)
    (isRetain : IsCall (retain wrapper) (retains wrapper))
    (retained : (retains wrapper).counted? = some (.retain, kind, wrapper.id))
    (isRelease : IsCall (release wrapper) (releases wrapper))
    (released : (releases wrapper).counted? = some (.release, kind, wrapper.id)) :
    Ends (takeReferenceIfNeeded provider wrapper retain release) middle
      (fun _ after => middle.Spares Token.IsProgram after)
      (fun _ after => start.Spares Token.IsProgram after) := by
  have still : middle.Spares Token.IsProgram middle := .refl spares.formed
  unfold takeReferenceIfNeeded takeReference
  split
  case isFalse => exact still
  case isTrue =>
    have retaining := still.call isRetain (spares.keys ▸ known) (by rw [retained]; nofun)
    rw [ends_bind, ends_attempt]
    apply retaining.imp (fun _ _ ended => ended)
    intro e after spares'
    have releasing := (spares.trans spares').call isRelease known (by
      rw [released]
      rintro _ _ ⟨⟩
      exact Or.inr above)
    dsimp only
    rw [ends_bind, ends_attempt]
    apply releasing.imp (fun _ _ ended => ended)
    intro e' after spares
    dsimp only
    rw [ends_bind, ends_notify]
    exact spares.of_simulators rfl rfl

/-- An import makes a wrapper and takes a reference to it; what comes then finds both.  Where any of it
fails, no wrapper has ended that was there before. -/
theorem Host.Spares.adopt {made : Handle kind → Store → Prop}
    {failed : NativeError → Store → Prop} {next : Handle kind → ImportM α} {ok : α → Host → Prop}
    (reply : Reply) (ordinary : kind ≠ .program) (spares : start.Spares Token.IsProgram host)
    (known : provider.table.simulator ∈ start.simulators.keys)
    (isCreate : IsCall create creates) (uncounted : creates.counted? = none)
    (retains releases : Handle kind → Call)
    (answers : Simulator.Answers creates create (host.simulator provider.table.simulator) made failed)
    (tells : ∀ handle store, made handle store →
      (host.simulator provider.table.simulator).store.Tells handle reply store)
    (isRetain : ∀ handle, IsCall (retain handle) (retains handle))
    (retained : ∀ handle, (retains handle).counted? = some (.retain, kind, handle.id))
    (isRelease : ∀ handle, IsCall (release handle) (releases handle))
    (released : ∀ handle, (releases handle).counted? = some (.release, kind, handle.id))
    (rest : ∀ handle middle after, start.Spares Token.IsProgram middle →
      made handle (middle.simulator provider.table.simulator).store →
      middle.Spares Token.IsProgram after → start.Wraps (provider.token handle) reply after →
      Ends (next handle) after ok (fun _ after => start.Spares Token.IsProgram after)) :
    Ends (do
        let handle ← native (provider.table.call create)
        takeReferenceIfNeeded provider handle retain release
        next handle) host ok (fun _ after => start.Spares Token.IsProgram after) := by
  have creating := spares.call isCreate known (by
    rintro kind id counted
    rw [uncounted] at counted
    contradiction)
  have created := Ends.and creating (Ends.call answers)
  apply (ends_native.mpr (created.imp (fun _ _ ended => ended) fun _ _ ended => ended.1)).bind
  rintro handle middle ⟨spares', -, -, isMade⟩
  obtain ⟨above, wrapper, found, isKind, isTold⟩ := tells handle _ isMade
  have new := Nat.le_trans (spares.stores _).nextWrapper_le above
  apply (ends_takeReferenceSpares spares' known new (isRetain handle) (retained handle)
    (isRelease handle) (released handle)).bind
  intro _ after spares''
  refine rest handle middle after spares' isMade spares'' ⟨spares'.trans spares'', known, new, ?_⟩
  exact spares''.backs ⟨wrapper, found, isKind, isTold⟩ ordinary

end Adopting

/-! ### Contexts, events and kernels -/

section Imports

variable {registry : Registry} {backend : Backend} {handle : NativeHandle}

/-- What is resolved is a table of a backend that is there. -/
theorem ends_resolveSpares (within : registry.Within fun number => number ∈ start.simulators.keys)
    (spares : start.Spares Token.IsProgram host) :
    Ends (registry.resolve backend) host
      (fun provider after => provider.table.simulator ∈ start.simulators.keys ∧
        start.Spares Token.IsProgram after ∧ after.simulators = host.simulators)
      (fun _ after => start.Spares Token.IsProgram after) := by
  apply ends_resolve.imp
  · rintro provider _ ⟨resolved, notice, rfl⟩
    exact ⟨within backend provider resolved, spares.of_simulators rfl rfl, rfl⟩
  · rintro _ _ ⟨-, rfl⟩
    exact spares

theorem ends_makeContextSpares
    (within : registry.Within fun number => number ∈ start.simulators.keys)
    (formed : ∀ number, (start.simulator number).store.WellFormed) :
    Ends (makeContext registry handle backend) start
      (fun made after => start.Wraps (made.provider.token made.handle) (.handle handle) after)
      (fun _ after => start.Spares Token.IsProgram after) := by
  unfold makeContext
  rw [ends_bind, ends_notify]
  apply (ends_resolveSpares within ((Host.Spares.refl formed).notify _)).bind
  rintro provider after ⟨known, spares, -⟩
  apply spares.adopt (.handle handle) (by decide) known
    (.of_answer (.contextCreate handle [] false) rfl) rfl Call.contextRetain Call.contextRelease Simulator.answers_contextCreate
  case tells => exact fun _ _ wraps => wraps.tells (Nat.le_refl _)
  case isRetain => exact fun wrapper => .of_done (.contextRetain wrapper) rfl
  case isRelease => exact fun wrapper => .of_done (.contextRelease wrapper) rfl
  case retained => exact fun _ => rfl
  case released => exact fun _ => rfl
  case rest =>
    intro wrapper middle after _ _ _ wraps
    rw [ends_bind, ends_freshIdentity]
    exact wraps.of_simulators rfl rfl

theorem ends_makeEventSpares
    (within : registry.Within fun number => number ∈ start.simulators.keys)
    (formed : ∀ number, (start.simulator number).store.WellFormed) {context : Context} {keeps : Bool} :
    Ends (makeEvent registry handle context keeps backend) start
      (fun made after => made.context = context ∧
        start.Wraps (made.provider.token made.handle) (.handle handle) after)
      (fun _ after => start.Spares Token.IsProgram after) := by
  unfold makeEvent
  rw [ends_bind, ends_notify]
  apply (ends_resolveSpares within ((Host.Spares.refl formed).notify _)).bind
  rintro provider after ⟨known, spares, -⟩
  apply spares.adopt (.handle handle) (by decide) known (.of_answer (.eventCreate handle context.handle
    (Ownership.ofKeep keeps).ownsNative) rfl) rfl Call.eventRetain Call.eventRelease
    Simulator.answers_eventCreate
  case tells => exact fun _ _ wraps => wraps.tells (Nat.le_refl _)
  case isRetain => exact fun wrapper => .of_done (.eventRetain wrapper) rfl
  case isRelease => exact fun wrapper => .of_done (.eventRelease wrapper) rfl
  case retained => exact fun _ => rfl
  case released => exact fun _ => rfl
  case rest =>
    intro wrapper middle after _ _ _ wraps
    rw [ends_bind, ends_freshIdentity]
    exact ⟨rfl, wraps.of_simulators rfl rfl⟩

theorem ends_importKernelSpares
    (within : registry.Within fun number => number ∈ start.simulators.keys)
    (formed : ∀ number, (start.simulator number).store.WellFormed) {context : Context}
    {bundle : KernelBundle} {keeps : Bool} :
    Ends (importKernel registry context bundle handle keeps backend) start
      (fun made after => (made.context = context ∧ made.bundle = bundle) ∧
        start.Wraps (made.provider.token made.handle) (.handle handle) after)
      (fun _ after => start.Spares Token.IsProgram after) := by
  unfold importKernel
  rw [ends_bind, ends_notify]
  apply Ends.timed
  case value =>
    exact fun _ _ _ made => ⟨made.1, made.2.of_simulators rfl rfl⟩
  case failure => exact fun _ _ notice spares => spares.notify notice
  apply (ends_resolveSpares within ((Host.Spares.refl formed).notify _)).bind
  rintro provider after ⟨known, spares, -⟩
  split
  · exact spares
  have looks : Ends (kernelProgram? provider bundle) after
      (fun _ after => start.Spares Token.IsProgram after)
      (fun _ after => start.Spares Token.IsProgram after) :=
    spares.uses (Uses.kernelProgram? provider bundle)
  apply looks.bind
  intro program after spares
  apply spares.adopt (.handle handle) (by decide) known
    (.of_answer (.kernelCreate handle context.handle program (Ownership.ofKeep keeps).ownsNative) rfl)
    rfl Call.kernelRetain Call.kernelRelease Simulator.answers_kernelCreate
  case tells => exact fun _ _ made => made.2.tells (Nat.le_refl _)
  case isRetain => exact fun wrapper => .of_done (.kernelRetain wrapper) rfl
  case isRelease => exact fun wrapper => .of_done (.kernelRelease wrapper) rfl
  case retained => exact fun _ => rfl
  case released => exact fun _ => rfl
  case rest =>
    intro wrapper middle after _ _ _ wraps
    rw [ends_bind, ends_notify, ends_bind, ends_freshIdentity]
    exact ⟨⟨rfl, rfl⟩, wraps.of_simulators rfl rfl⟩

/-! ### Platforms and devices -/

/-- A managed device stands for a native one, and its platform for the platform of that. -/
structure Host.Stands (start : Host) (device : Device) (native : NativeHandle) (after : Host) :
    Prop where
  known : device.platform.provider.table.simulator ∈ start.simulators.keys
  backs : after.Backs (device.platform.provider.token device.handle) (.handle native)
  owner : ∃ platform refs,
    (start.simulator device.platform.provider.table.simulator).store.natives.get? native =
      some ⟨.device platform, refs⟩ ∧
    after.Backs (device.platform.provider.token device.platform.handle) (.handle platform)

theorem Host.Stands.later {device : Device} {native : NativeHandle}
    (stands : start.Stands device native middle) (spares : middle.Spares Token.IsProgram after) :
    start.Stands device native after := by
  obtain ⟨platform, refs, found, backs⟩ := stands.owner
  exact ⟨stands.known, spares.backs stands.backs (Token.not_isProgram (by decide)), platform,
    refs, found, spares.backs backs (Token.not_isProgram (by decide))⟩

/-- The managed device for the wrapper of a native one stands for that. -/
theorem ends_manageDeviceStands {provider : Provider} {pending : List Device}
    {handle : DeviceHandle} {native : NativeHandle} (spares : start.Spares Token.IsProgram host)
    (known : provider.table.simulator ∈ start.simulators.keys)
    (behind : (host.simulator provider.table.simulator).store.Behind handle native)
    (below : native.raw < (start.simulator provider.table.simulator).store.nextNative) :
    Ends (manageDevice provider pending handle) host
      (fun device after => host.Spares Token.IsProgram after ∧
        device.platform.provider = provider ∧ start.Stands device native after)
      (fun _ after => start.Spares Token.IsProgram after) := by
  have still : host.Spares Token.IsProgram host := .refl spares.formed
  have asks : Simulator.Answers (.devicePlatform handle) (Simulator.devicePlatform handle)
      (host.simulator provider.table.simulator) _ _ := Simulator.answers_devicePlatform
  have calling := still.call (.of_answer (.devicePlatform handle) rfl) (spares.keys ▸ known) nofun
  apply (ends_native.mpr ((Ends.and calling (Ends.call asks)).imp (fun _ _ ended => ended)
    fun _ _ ended => spares.trans ended.1)).bind
  rintro platformHandle middle ⟨spares', -, -, -, native', platform, refs, behind', found, -, cached⟩
  obtain rfl := behind.unique behind'
  obtain ⟨⟨data, oldRefs⟩, found, becomes⟩ := (spares.stores _).native native _ below found
  obtain rfl : .device platform = data := becomes.eq (by rw [← becomes.kind_eq]; nofun)
  have placed : (middle.simulator provider.table.simulator).store.Behind platformHandle platform :=
    ⟨_, (spares'.formed _).platforms.wrapped platform platformHandle cached, rfl, rfl⟩
  have finding : Ends (findOrMakePlatform provider platformHandle pending : ImportM Platform) middle
      _ _ := Ends.and (spares'.uses (Uses.findOrMakePlatform _ _ _)) ends_findOrMakePlatform
  apply (finding.imp (fun _ _ ended => ended) fun _ _ ended => ended.2.elim).bind
  rintro made later ⟨spares'', ⟨rfl, rfl⟩, same⟩
  have finding : Ends (findOrMakeDevice made handle pending : ImportM Device) later _ _ :=
    Ends.and (spares''.uses (Uses.findOrMakeDevice _ _ _)) ends_findOrMakeDevice
  apply finding.imp ?_ fun _ _ ended => ended.2.elim
  rintro device after ⟨spares, ⟨rfl, rfl⟩, same'⟩
  refine ⟨spares, rfl, known, ?_, platform, oldRefs, found, ?_⟩
  · exact spares.backs (Host.backs_of_behind (by decide) behind) (Token.not_isProgram (by decide))
  · exact (Host.backs_of_behind (by decide) placed).of_simulators (same'.trans same)

/-- The managed devices for the wrappers of native ones stand for those, one for one. -/
theorem ends_manageDevicesStand {provider : Provider} {pending : List Device}
    {handles : List DeviceHandle} {natives : List NativeHandle}
    (spares : start.Spares Token.IsProgram host)
    (known : provider.table.simulator ∈ start.simulators.keys)
    (behind : List.Forall₂ (host.simulator provider.table.simulator).store.Behind handles natives)
    (below : ∀ native ∈ natives,
      native.raw < (start.simulator provider.table.simulator).store.nextNative) :
    Ends (manageDevices provider pending handles) host
      (fun devices after => host.Spares Token.IsProgram after ∧
        List.Forall₂ (fun device native => device.platform.provider = provider ∧
          start.Stands device native after) devices natives)
      (fun _ after => start.Spares Token.IsProgram after) := by
  induction handles generalizing pending host natives with
  | nil =>
      cases behind
      exact ⟨.refl spares.formed, .nil⟩
  | cons handle handles ih =>
      obtain _ | ⟨first, behind⟩ := behind
      obtain ⟨isBelow, below⟩ := List.forall_mem_cons.mp below
      apply (ends_manageDeviceStands spares known first isBelow).bind
      rintro device middle ⟨spares', own, stands⟩
      have kept : List.Forall₂ (middle.simulator provider.table.simulator).store.Behind handles _ :=
        behind.imp fun _ _ behind =>
          (spares'.stores _).behind behind (Token.not_isProgram (by decide))
      apply (ih (spares.trans spares') kept below).bind
      rintro devices after ⟨spares'', stand⟩
      exact ⟨spares'.trans spares'', .cons ⟨own, stands.later spares''⟩ stand⟩

theorem ends_makePlatformSpares
    (within : registry.Within fun number => number ∈ start.simulators.keys)
    (formed : ∀ number, (start.simulator number).store.WellFormed) :
    Ends (makePlatform registry handle backend) start
      (fun made after => start.Spares Token.IsProgram after ∧
        made.provider.table.simulator ∈ start.simulators.keys ∧
        after.Backs (made.provider.token made.handle) (.handle handle))
      (fun _ after => start.Spares Token.IsProgram after) := by
  unfold makePlatform
  rw [ends_bind, ends_notify]
  apply (ends_resolveSpares within ((Host.Spares.refl formed).notify _)).bind
  rintro provider middle ⟨known, spares, -⟩
  have creating := spares.call (.of_answer (.platformCreate handle) rfl) known nofun
  have creates : Simulator.Answers _ (Simulator.platformCreate handle)
      (middle.simulator provider.table.simulator) _ _ := Simulator.answers_platformCreate
  apply (ends_native.mpr ((Ends.and creating (Ends.call creates)).imp (fun _ _ ended => ended)
    fun _ _ ended => ended.1)).bind
  rintro wrapper later ⟨spares, -, -, -, cached, -⟩
  have finding : Ends (findOrMakePlatform provider wrapper [] : ImportM Platform) later _ _ :=
    Ends.and (spares.uses (Uses.findOrMakePlatform _ _ _)) ends_findOrMakePlatform
  apply finding.imp ?_ fun _ _ ended => ended.2.elim
  rintro platform after ⟨spares', ⟨rfl, rfl⟩, same⟩
  have placed : (later.simulator platform.provider.table.simulator).store.Behind platform.handle
      handle := ⟨_, (spares.formed _).platforms.wrapped handle platform.handle cached, rfl, rfl⟩
  exact ⟨spares', known, (Host.backs_of_behind (by decide) placed).of_simulators same⟩

theorem ends_makeDeviceSpares
    (within : registry.Within fun number => number ∈ start.simulators.keys)
    (formed : ∀ number, (start.simulator number).store.WellFormed) :
    Ends (makeDevice registry handle backend) start
      (fun made after => start.Spares Token.IsProgram after ∧ start.Stands made handle after)
      (fun _ after => start.Spares Token.IsProgram after) := by
  unfold makeDevice
  rw [ends_bind, ends_notify]
  apply (ends_resolveSpares within ((Host.Spares.refl formed).notify _)).bind
  rintro provider middle ⟨known, spares, same⟩
  have creating := spares.call (.of_answer (.deviceCreate handle none) rfl) known nofun
  have creates : Simulator.Answers _ (Simulator.deviceCreate handle none)
      (middle.simulator provider.table.simulator) _ _ := Simulator.answers_deviceCreate
  apply (ends_native.mpr ((Ends.and creating (Ends.call creates)).imp (fun _ _ ended => ended)
    fun _ _ ended => ended.1)).bind
  rintro wrapper later ⟨spares', -, -, -, cached, object, live, -⟩
  have behind := (spares'.formed _).behind_device cached
  rw [Host.simulator_of_simulators same] at live
  apply (ends_manageDeviceStands spares' known behind ((formed _).native_lt handle object live)).imp
  · exact fun _ _ ended => ⟨spares'.trans ended.1, ended.2.2⟩
  · exact fun _ _ spares => spares

/-- The device that a queue was wrapped for. -/
theorem answers_queueDevice {sim : Simulator} {queue : QueueHandle} :
    Simulator.Answers (.queueDevice queue) (Simulator.queueDevice queue) sim
      (fun device store => store = sim.store ∧ ∃ wrapper record,
        sim.store.wrappers.get? queue.id = some wrapper ∧ wrapper.data = .queue record ∧
        device = record.device)
      (fun _ store => store = sim.store) := by
  refine (Simulator.Works.onStore ?_).answers
  apply (Store.ends_queueRecord.imp (fun _ _ found => found) fun _ _ failed => failed.1).bind
  rintro record _ ⟨rfl, wrapper, found, isQueue⟩
  exact ⟨rfl, wrapper, record, found, isQueue, rfl⟩

/-- The device that is found for a new queue stands for the one behind the wrapper that the queue was
wrapped for. -/
theorem ends_deviceOfQueueStands {provider : Provider} {queue : QueueHandle} {wrapper : Wrapper}
    {record : QueueRecord} {native : NativeHandle} (spares : start.Spares Token.IsProgram host)
    (known : provider.table.simulator ∈ start.simulators.keys)
    (above : (start.simulator provider.table.simulator).store.nextWrapper ≤ queue.id)
    (found : (host.simulator provider.table.simulator).store.wrappers.get? queue.id = some wrapper)
    (isQueue : wrapper.data = .queue record)
    (behind : (host.simulator provider.table.simulator).store.Behind record.device native)
    (below : native.raw < (start.simulator provider.table.simulator).store.nextNative) :
    Ends (deviceOfQueue provider queue) host
      (fun device after => host.Spares Token.IsProgram after ∧
        device.platform.provider = provider ∧ start.Stands device native after)
      (fun _ after => start.Spares Token.IsProgram after) := by
  have still : host.Spares Token.IsProgram host := .refl spares.formed
  have asks : Simulator.Answers _ (Simulator.queueDevice queue)
      (host.simulator provider.table.simulator) _ _ := answers_queueDevice
  have asking := still.call (.of_answer (.queueDevice queue) rfl) (spares.keys ▸ known) nofun
  have finds : Ends (do
      let handle ← ComputeImport.native (provider.table.call (Simulator.queueDevice queue))
      manageDevice provider [] handle) host
      (fun device after => host.Spares Token.IsProgram after ∧
        device.platform.provider = provider ∧ start.Stands device native after)
      (fun _ after => start.Spares Token.IsProgram after) := by
    apply (ends_native.mpr ((Ends.and asking (Ends.call asks)).imp (fun _ _ ended => ended)
      fun _ _ ended => spares.trans ended.1)).bind
    rintro device middle ⟨spares', -, -, -, wrapper', record', found', isQueue', rfl⟩
    obtain rfl := Option.some.inj (found.symm.trans found')
    obtain rfl : record = record' := by
      rw [isQueue] at isQueue'
      cases isQueue'
      rfl
    have behind := (spares'.stores _).behind behind (Token.not_isProgram (by decide))
    apply (ends_manageDeviceStands (spares.trans spares') known behind below).imp
    · exact fun _ _ ended => ⟨spares'.trans ended.1, ended.2⟩
    · exact fun _ _ spares => spares
  rw [ends_deviceOfQueue_iff]
  apply finds.imp
  · exact fun _ _ ended => ended
  · intro e after spares
    have releasing := spares.call (.of_done (.queueRelease queue) rfl) known (by
      rintro _ _ ⟨⟩
      exact Or.inr above)
    apply releasing.imp
    · exact fun _ _ spares => spares
    · exact fun _ _ spares => spares.notify _

/-- The device that a queue was made for is the one that was given, or else stands for that of the
native queue. -/
theorem ends_makeQueueSpares
    (within : registry.Within fun number => number ∈ start.simulators.keys)
    (formed : ∀ number, (start.simulator number).store.WellFormed) {descriptor : Int32}
    {context : Context} {device : Option Device} {keeps : Bool} {properties : QueueProperties} :
    Ends (makeQueue registry handle descriptor context device keeps properties backend) start
      (fun made after => made.context = context ∧
        start.Wraps (made.provider.token made.handle) (.queue handle descriptor) after ∧
        match device with
        | some given => made.device = given
        | none => ∃ target refs,
            (start.simulator made.device.platform.provider.table.simulator).store.natives.get? handle =
              some ⟨.queue target, refs⟩ ∧
            start.Stands made.device target after)
      (fun _ after => start.Spares Token.IsProgram after) := by
  unfold makeQueue
  rw [ends_bind, ends_notify]
  have spares : start.Spares Token.IsProgram start := .refl formed
  dsimp only
  by_cases indexed : properties.computeIndex.isSome = true
  · rw [if_pos indexed]
    exact spares.notify _
  rw [if_neg indexed]
  apply (ends_resolveSpares within (spares.notify _)).bind
  rintro provider middle ⟨known, spares, same⟩
  apply spares.adopt (.queue handle descriptor) (by decide) known
    (.of_answer (.queueCreate handle context.handle (device.map Device.handle) _) rfl) rfl
    Call.queueRetain Call.queueRelease Simulator.answers_queueCreate
  case tells =>
    rintro wrapper store ⟨quiet, target, grown, -, -, wraps⟩
    exact wraps.tells grown.grows.nextWrapper_le
  case isRetain => exact fun wrapper => .of_done (.queueRetain wrapper) rfl
  case isRelease => exact fun wrapper => .of_done (.queueRelease wrapper) rfl
  case retained => exact fun _ => rfl
  case released => exact fun _ => rfl
  case rest =>
    rintro wrapper created after spares' ⟨quiet, target, grown, -, isTarget, isMade⟩ spares'' wraps
    cases device with
    | some given =>
        rw [ends_bind, ends_pure, ends_bind, ends_freshIdentity]
        exact ⟨rfl, wraps.of_simulators rfl rfl, rfl⟩
    | none =>
        obtain ⟨owner, refs, found, ⟨object, live, -⟩, cached⟩ := isTarget rfl
        have quietFormed := grown.grows.wellFormed (spares.formed provider.table.simulator)
        have behind := isMade.behind quietFormed (quietFormed.behind_device cached)
        obtain ⟨refs', made⟩ := (spares''.stores _).wrapper _ _ isMade.get?_wrappers
          (Token.not_isProgram nofun)
        rw [Host.simulator_of_simulators same] at found live
        apply (ends_deviceOfQueueStands (spares'.trans spares'') known wraps.new made rfl
          ((spares''.stores _).behind behind (Token.not_isProgram (by decide)))
          ((formed _).native_lt owner object live)).bind
        rintro device later ⟨spares, own, stands⟩
        rw [ends_bind, ends_freshIdentity]
        have counts : later.Spares Token.IsProgram
            { later with nextIdentity := later.nextIdentity + 1 } :=
          (Host.Spares.refl spares.formed).of_simulators rfl rfl
        refine ⟨rfl, ?_, owner, refs, own ▸ found, stands.later counts⟩
        exact wraps.later (spares.trans counts) (Token.not_isProgram (by decide))

/-! ### Programs -/

/-- An import wraps a program and takes a reference to the wrapper; what comes then finds the wrapper
leading to the native program. -/
theorem Host.Spares.adoptProgram {α : Type} {provider : Provider} {context : ContextHandle}
    {ownsNative : Bool} {next : ProgramHandle → ImportM α} {ok : α → Host → Prop}
    (spares : start.Spares Token.IsProgram host)
    (known : provider.table.simulator ∈ start.simulators.keys)
    (rest : ∀ wrapper binary after, start.Spares Token.IsProgram after →
      (after.simulator provider.table.simulator).store.natives =
        (host.simulator provider.table.simulator).store.natives →
      (after.simulator provider.table.simulator).store.Leads wrapper handle binary →
      Ends (next wrapper) after ok (fun _ after => start.Spares Token.IsProgram after)) :
    Ends (do
        let wrapper ← native (provider.table.call
          (Simulator.programCreate handle context ownsNative))
        takeReferenceIfNeeded provider wrapper Simulator.programRetain Simulator.programRelease
        next wrapper) host ok (fun _ after => start.Spares Token.IsProgram after) := by
  have creates : Simulator.Answers _ (Simulator.programCreate handle context ownsNative)
      (host.simulator provider.table.simulator) _ _ := Simulator.answers_programCreate
  have creating := spares.call
    (.of_answer (.programCreate handle context ownsNative) rfl) known nofun
  apply (ends_native.mpr ((Ends.and creating (Ends.call creates)).imp (fun _ _ ended => ended)
    fun _ _ ended => ended.1)).bind
  rintro wrapper middle ⟨spares, -, -, wraps⟩
  obtain ⟨⟨data, refs⟩, found, isProgram⟩ := wraps.live
  obtain ⟨binary, rfl⟩ : ∃ binary, data = .program binary := by
    cases data <;> cases isProgram
    exact ⟨_, rfl⟩
  have natives : (middle.simulator provider.table.simulator).store.natives =
      (host.simulator provider.table.simulator).store.natives := by
    rw [wraps.after_eq]
    rfl
  have leads : (middle.simulator provider.table.simulator).store.Leads wrapper handle binary :=
    ⟨⟨_, wraps.get?_wrappers, rfl, rfl⟩, refs, natives ▸ found⟩
  have uses : Uses (fun number => number ∈ start.simulators.keys) EntryPoint.IsSparing
      (takeReferenceIfNeeded provider wrapper Simulator.programRetain Simulator.programRelease) :=
    Uses.takeReferenceIfNeeded known (.of_done (.programRetain wrapper) rfl) nofun
      (.of_done (.programRelease wrapper) rfl) EntryPoint.isSparing_programRelease
  apply ((Ends.and (spares.uses uses) (ends_takeReference rfl)).imp (fun _ _ ended => ended)
    fun _ _ ended => ended.1).bind
  rintro _ after ⟨spares, recounts, -⟩
  exact rest wrapper binary after spares (recounts.natives.trans natives) (recounts.leads leads)

/-- An import has brought an image for devices that stand for those of the native program. -/
structure Host.Loads (start : Host) (handle : NativeHandle) (image : DeviceImage) (after : Host) :
    Prop where
  spares : start.Spares Token.IsProgram after
  known : image.program.provider.table.simulator ∈ start.simulators.keys
  own : ∀ program ∈ image.program :: image.superseded,
    program.provider = image.program.provider
  stand : ∃ binary refs,
    (start.simulator image.program.provider.table.simulator).store.natives.get? handle =
      some ⟨.program binary, refs⟩ ∧
    List.Forall₂ (fun device native => device.platform.provider = image.program.provider ∧
      start.Stands device native after) image.devices binary.devices

theorem Host.Loads.later {image : DeviceImage} (loads : start.Loads handle image middle)
    (spares : middle.Spares Token.IsProgram after) : start.Loads handle image after := by
  obtain ⟨binary, refs, found, stand⟩ := loads.stand
  exact ⟨loads.spares.trans spares, loads.known, loads.own, binary, refs, found,
    stand.imp fun _ _ stands => ⟨stands.1, stands.2.later spares⟩⟩

theorem Host.Spares.orRelease {α : Type} {programs : List ProgramRef} {body : ImportM α}
    {ok : α → Host → Prop}
    (own : ∀ program ∈ programs, program.provider.table.simulator ∈ start.simulators.keys)
    (ended : Ends body host ok fun _ after => start.Spares Token.IsProgram after) :
    Ends (ComputeImport.orRelease programs body) host ok
      (fun _ after => start.Spares Token.IsProgram after) := by
  apply ends_orRelease.mpr
  apply ended.imp (fun _ _ ended => ended)
  exact fun _ after spares => callsOnly_releasePrograms own EntryPoint.isSparing_programRelease _
    Host.respects_spares after spares

/-- A program is handed on with those that it has replaced. -/
theorem ends_importProgramSpares
    (within : registry.Within fun number => number ∈ start.simulators.keys)
    (formed : ∀ number, (start.simulator number).store.WellFormed) {context : Context}
    {keeps : Bool} {target : BundleState} :
    Ends (importProgram registry handle context keeps target backend) start
      (fun bundle after => ∃ image, bundle = ⟨context, image.devices, target, [image]⟩ ∧
        start.Loads handle image after)
      (fun _ after => start.Spares Token.IsProgram after) := by
  have spares : start.Spares Token.IsProgram start := .refl formed
  unfold importProgram
  rw [ends_bind, ends_notify]
  apply Ends.timed
  case value =>
    rintro bundle after notice ⟨image, isBundle, loads⟩
    exact ⟨image, isBundle, loads.later ((Host.Spares.refl loads.spares.formed).notify notice)⟩
  case failure => exact fun _ _ notice spares => spares.notify notice
  apply (ends_resolveSpares within (spares.notify _)).bind
  rintro provider middle ⟨known, spares, same⟩
  have reaches : ∀ programs : List ProgramRef, (∀ program ∈ programs, program.provider = provider) →
      ∀ program ∈ programs, program.provider.table.simulator ∈ start.simulators.keys := by
    intro programs owns program member
    rw [owns program member]
    exact known
  apply spares.adoptProgram known
  rintro wrapper binary after spares natives leads
  have own : ∀ program ∈ [ProgramRef.mk wrapper provider], program.provider = provider := by
    intro program member
    rw [List.mem_singleton.mp member]
  have lists : Ends (orRelease [⟨wrapper, provider⟩] (listDevices provider.table wrapper)) after _ _ :=
    Host.Spares.orRelease (reaches _ own) ((Ends.and
      (spares.uses (.of_quiet (Uses.listDevices known wrapper))) (ends_listDevices rfl leads)).imp
        (fun _ _ ended => ended) fun _ _ ended => ended.1)
  apply lists.bind
  rintro handles listed ⟨spares, quiet, areListed, live, -⟩
  rw [ends_bind, ends_notify]
  have natives : (after.simulator provider.table.simulator).store.natives =
      (start.simulator provider.table.simulator).store.natives := by
    rw [natives, Host.simulator, same]
    rfl
  have below : ∀ device ∈ binary.devices,
      device.raw < (start.simulator provider.table.simulator).store.nextNative := by
    intro device member
    obtain ⟨object, found, -⟩ := live device member
    exact (formed _).native_lt device object (natives ▸ found)
  obtain ⟨refs, found⟩ := leads.2
  have behind : List.Forall₂ (listed.simulator provider.table.simulator).store.Behind handles
      binary.devices :=
    (areListed.imp fun _ _ cached => (spares.formed _).behind_device cached).flip
  let notice := Notice.programImported wrapper handles.length (Ownership.ofKeep keeps)
  change List.Forall₂ ((listed.notify notice).simulator provider.table.simulator).store.Behind handles
    binary.devices at behind
  change Ends _ (listed.notify notice) _ _
  have listed' := spares.notify notice
  generalize listed.notify notice = listed at listed' behind
  have still : listed.Spares Token.IsProgram listed := .refl listed'.formed
  let builder : Builder := ⟨provider, context, registry.options⟩
  have advances : Ends (builder.advance target ⟨wrapper, provider⟩ [] handles) listed _ _ :=
    Ends.and (still.uses (Uses.advance (listed'.keys ▸ known) target
      (listed'.keys ▸ reaches _ own) handles)) (ends_advance_own own)
  apply (advances.imp (fun _ _ ended => ended) fun _ _ ended => listed'.trans ended.1).bind
  rintro built built' ⟨spares', owns⟩
  have manages : Ends (orRelease (built.current :: built.superseded)
      (manageDevices provider [] handles)) built' _ _ :=
    Host.Spares.orRelease (reaches _ owns) (ends_manageDevicesStand (listed'.trans spares') known
      (behind.imp fun _ _ behind =>
        (spares'.stores _).behind behind (Token.not_isProgram (by decide))) below)
  apply manages.bind
  rintro devices after ⟨spares'', stand⟩
  rw [ends_bind, ends_freshIdentity, ends_pure]
  have isCurrent := owns _ (List.mem_cons_self ..)
  let image : DeviceImage :=
    ⟨after.nextIdentity, built.current, built.superseded, devices, target⟩
  have counts : after.Spares Token.IsProgram { after with nextIdentity := after.nextIdentity + 1 } :=
    (Host.Spares.refl spares''.formed).of_simulators rfl rfl
  refine ⟨image, rfl, listed'.trans (spares'.trans (spares''.trans counts)), isCurrent ▸ known,
    fun program member => (owns program member).trans isCurrent.symm, binary, refs,
    isCurrent ▸ natives ▸ found, ?_⟩
  exact stand.imp fun _ _ stands => ⟨stands.1.trans isCurrent.symm, stands.2.later counts⟩

end Imports

end ComputeImport
