import ComputeImport.Proofs.Import.Custody

/-!
# Where the handles in calls come from

What happens at the backends is told by deeds: calls with what they have brought back, actions of the
caller's, and the setting up of backends.  A successful call may issue handles.  `Faithful` says of a
program that the calls it makes only pass handles that are known, because they were known before or
have been issued since by the backend that is called.  A handle that comes with an object which the
caller lends to an import is passed to the backend of that import, which may be another one than the
backend that has issued it; such calls are faithful only up to what is lent.
-/

namespace ComputeImport

variable {kind : ObjectKind} {α β ε : Type}

/-- The wrapper that a handle names at a backend. -/
def Handle.at (number : Nat) (handle : Handle kind) : Token :=
  ⟨number, kind, handle.id⟩

namespace Call

/-- The handles that a call passes to a backend, apart from those that are lent. -/
def own (number : Nat) : Call → List Token
  | platformCreate _ | queueCreate .. | eventCreate .. | programCreate .. | kernelCreate .. => []
  | platformBackend platform | platformNative platform => [platform.at number]
  | deviceCreate _ platform => platform.toList.map (Handle.at number)
  | devicePlatform device | deviceNative device => [device.at number]
  | contextCreate _ devices _ => devices.map (Handle.at number)
  | contextNative context | contextRetain context | contextRelease context => [context.at number]
  | queueDevice queue | queueNative queue | queueRetain queue | queueRelease queue =>
      [queue.at number]
  | eventNative event | eventRetain event | eventRelease event => [event.at number]
  | programRetain program | programRelease program | programNumDevices program
  | programDevices program | programKernelNames program => [program.at number]
  | programBinaryType program device => [program.at number, device.at number]
  | programCompileFor program devices _ | programBuildFor program devices _ =>
      program.at number :: devices.map (Handle.at number)
  | programCompile _ program _ | programBuild _ program _ => [program.at number]
  | programLinkFor _ devices programs _ =>
      devices.map (Handle.at number) ++ programs.map (Handle.at number)
  | programLink _ programs _ => programs.map (Handle.at number)
  | kernelNative kernel | kernelRetain kernel | kernelRelease kernel => [kernel.at number]
  | memNative mem _ => [mem.at number]

/-- The handles in a call that come with objects which are lent to an import or to a queue: the
context, the device and the program that something is wrapped with. -/
def lent (number : Nat) : Call → List Token
  | queueCreate _ context device _ => context.at number :: device.toList.map (Handle.at number)
  | eventCreate _ context _ | programCreate _ context _ | programCompile context _ _
  | programBuild context _ _ | programLinkFor context _ _ _ | programLink context _ _ =>
      [context.at number]
  | kernelCreate _ context program _ => context.at number :: program.toList.map (Handle.at number)
  | memNative _ device => [device.at number]
  | _ => []

/-- The handles that a backend issues with its answer to a call. -/
def brings (number : Nat) : Call → Answer → List Token
  | platformCreate _, .handle id | devicePlatform _, .handle id => [⟨number, .platform, id⟩]
  | deviceCreate .., .handle id | queueDevice _, .handle id => [⟨number, .device, id⟩]
  | contextCreate .., .handle id => [⟨number, .context, id⟩]
  | queueCreate .., .handle id => [⟨number, .queue, id⟩]
  | eventCreate .., .handle id => [⟨number, .event, id⟩]
  | programCreate .., .handle id | programLinkFor .., .handle id | programLink .., .handle id =>
      [⟨number, .program, id⟩]
  | kernelCreate .., .handle id => [⟨number, .kernel, id⟩]
  | programDevices _, .handles ids => ids.map fun id => ⟨number, .device, id⟩
  | _, _ => []

end Call

/-- What happens at a backend. -/
inductive Deed where
  /-- A call has been made, with an outcome. -/
  | called (number : Nat) (call : Call) (outcome : Except NativeError Answer)
  /-- The caller has done something directly. -/
  | acted (number : Nat) (action : CallerAction)
  /-- The backend has been set up. -/
  | begun (number : Nat) (config : SimulatorConfig)

namespace Deed

/-- The handles that are issued by a deed. -/
def issues : Deed → List Token
  | called number call (.ok reply) => call.brings number reply
  | called _ _ (.error _) | acted .. | begun .. => []

/-- Whether a deed takes the host from one state to another. -/
def Happens (host next : Host) : Deed → Prop
  | called number call (.ok reply) =>
      onSimulator number (Simulator.answer call) host = .ok reply next
  | called number call (.error e) =>
      onSimulator number (Simulator.answer call) host = .error e next
  | acted number action =>
      next = host.advance number ((host.simulator number).after (.caller action))
  | begun number config =>
      next = { host with simulators := host.simulators.set number { config } }

end Deed

/-- The deeds that lead from one state of the host to another.  In between, everything but the
backends may change. -/
inductive Does : Host → List Deed → Host → Prop
  | done (host : Host) : Does host [] host
  | aside {host next after : Host} {deeds : List Deed}
      (same : next.simulators = host.simulators) (rest : Does next deeds after) :
      Does host deeds after
  | did {host next after : Host} {deed : Deed} {deeds : List Deed}
      (happens : deed.Happens host next) (rest : Does next deeds after) :
      Does host (deed :: deeds) after

namespace Does

variable {host middle after : Host} {deeds more : List Deed}

theorem trans (first : Does host deeds middle) (second : Does middle more after) :
    Does host (deeds ++ more) after := by
  induction first with
  | done => exact second
  | aside same _ ih => exact .aside same (ih second)
  | did happens _ ih => exact .did happens (ih second)

theorem quiet (same : after.simulators = host.simulators) : Does host [] after :=
  .aside same (.done after)

end Does

/-! ## Knowing handles -/

/-- The handles that are known, at each backend. -/
abbrev Knowledge := Token → Prop

namespace Knowledge

variable {known wider : Knowledge} {deeds more : List Deed}

/-- What is known after deeds: what was known before, and what they have issued. -/
def after (known : Knowledge) (deeds : List Deed) : Knowledge :=
  fun token => known token ∨ token ∈ deeds.flatMap Deed.issues

@[simp]
theorem after_nil : known.after [] = known := by
  funext token
  simp [after]

theorem after_append : known.after (deeds ++ more) = (known.after deeds).after more := by
  funext token
  simp [after, or_assoc]

/-- Whatever is known is known with more knowledge. -/
def Within (known wider : Knowledge) : Prop :=
  ∀ token, known token → wider token

theorem within_after : known.Within (known.after deeds) :=
  fun _ => .inl

theorem Within.after (within : known.Within wider) :
    Knowledge.Within (known.after deeds) (wider.after deeds) :=
  fun token isKnown => isKnown.imp_left (within token)

end Knowledge

/-- A deed passes no handle but known ones, and foreign ones only where something is lent. -/
def Deed.Trusted (foreign known : Knowledge) : Deed → Prop
  | called number call _ => (∀ token ∈ call.own number, known token) ∧
      ∀ token ∈ call.lent number, known token ∨ foreign token
  | acted .. => False
  | begun .. => True

/-- Each of several deeds is to be trusted with what is known by then. -/
def Trusted (foreign : Knowledge) : Knowledge → List Deed → Prop
  | _, [] => True
  | known, deed :: deeds =>
      deed.Trusted foreign known ∧ Trusted foreign (Knowledge.after known [deed]) deeds

section Trusted

variable {foreign known wider : Knowledge} {deed : Deed} {deeds more : List Deed}

theorem Trusted.append (first : Trusted foreign known deeds)
    (second : Trusted foreign (known.after deeds) more) : Trusted foreign known (deeds ++ more) := by
  induction deeds generalizing known with
  | nil => simpa using second
  | cons deed deeds ih =>
      refine ⟨first.1, ih first.2 ?_⟩
      rw [← Knowledge.after_append]
      exact second

theorem Deed.Trusted.mono (trusted : deed.Trusted foreign known) (within : known.Within wider) :
    deed.Trusted foreign wider := by
  cases deed with
  | called number call outcome =>
      exact ⟨fun token member => within token (trusted.1 token member),
        fun token member => (trusted.2 token member).imp_left (within token)⟩
  | acted => exact trusted
  | begun => exact trusted

theorem Trusted.mono (trusted : Trusted foreign known deeds) (within : known.Within wider) :
    Trusted foreign wider deeds := by
  induction deeds generalizing known wider with
  | nil => exact trivial
  | cons deed deeds ih => exact ⟨trusted.1.mono within, ih trusted.2 within.after⟩

end Trusted

/-- From every state, a program ends after deeds that can be trusted.  Of what it brings back,
something holds with what is known by then. -/
def Faithful (foreign known : Knowledge) (program : EStateM ε Host α)
    (ok : α → Knowledge → Prop) : Prop :=
  ∀ host, Ends program host
    (fun a after => ∃ deeds, Does host deeds after ∧ Trusted foreign known deeds ∧
      ok a (known.after deeds))
    (fun _ after => ∃ deeds, Does host deeds after ∧ Trusted foreign known deeds)

/-- So does a step that cannot fail and brings nothing back. -/
def Innocent (foreign known : Knowledge) (step : Host → Host) : Prop :=
  ∀ host, ∃ deeds, Does host deeds (step host) ∧ Trusted foreign known deeds

namespace Faithful

variable {foreign known : Knowledge} {program : EStateM ε Host α}
  {ok ok' : α → Knowledge → Prop}

theorem imp (faithful : Faithful foreign known program ok)
    (value : ∀ a wider, known.Within wider → ok a wider → ok' a wider) :
    Faithful foreign known program ok' := by
  intro host
  apply (faithful host).imp
  · rintro a after ⟨deeds, does, trusted, holds⟩
    exact ⟨deeds, does, trusted, value a _ Knowledge.within_after holds⟩
  · exact fun _ _ ended => ended

theorem pure {a : α} (holds : ok a known) :
    Faithful foreign known (Pure.pure a : EStateM ε Host α) ok :=
  fun host => ⟨[], .done host, trivial, by rwa [Knowledge.after_nil]⟩

theorem throw {e : ε} :
    Faithful foreign known (MonadExcept.throw e : EStateM ε Host α) ok :=
  fun host => ⟨[], .done host, trivial⟩

/-- The deeds of a bind are those of its first part, and then those of the second, with what is known
after the first. -/
theorem bind {next : α → EStateM ε Host β} {done : β → Knowledge → Prop}
    (first : Faithful foreign known program ok)
    (rest : ∀ a wider, known.Within wider → ok a wider →
      Faithful foreign wider (next a) done) :
    Faithful foreign known (program >>= next) done := by
  intro host
  apply (first host).bind
  rintro a middle ⟨deeds, does, trusted, holds⟩
  apply (rest a _ Knowledge.within_after holds middle).imp
  · rintro b after ⟨more, does', trusted', holds'⟩
    rw [← Knowledge.after_append] at holds'
    exact ⟨deeds ++ more, does.trans does', trusted.append trusted', holds'⟩
  · rintro e after ⟨more, does', trusted'⟩
    exact ⟨deeds ++ more, does.trans does', trusted.append trusted'⟩

/-- Steps that leave the backends alone do nothing at them. -/
theorem silent {holds : α → Prop}
    (silent : ∀ host, Ends program host
      (fun a after => holds a ∧ after.simulators = host.simulators)
      (fun _ after => after.simulators = host.simulators)) :
    Faithful foreign known program (fun a _ => holds a) := by
  intro host
  apply (silent host).imp
  · rintro a after ⟨held, same⟩
    exact ⟨[], .quiet same, trivial, held⟩
  · exact fun e after same => ⟨[], .quiet same, trivial⟩

theorem silent_bind (holds : α → Prop) {next : α → EStateM ε Host β}
    {done : β → Knowledge → Prop}
    (isSilent : ∀ host, Ends program host
      (fun a after => holds a ∧ after.simulators = host.simulators)
      (fun _ after => after.simulators = host.simulators))
    (rest : ∀ a, holds a → Faithful foreign known (next a) done) :
    Faithful foreign known (program >>= next) done := by
  intro host
  apply ((isSilent host).imp (fun _ _ same => same)
    fun _ _ same => ⟨[], .quiet same, trivial⟩).bind
  rintro a middle ⟨held, same⟩
  apply (rest a held middle).imp
  · rintro b after ⟨deeds, does, ended⟩
    exact ⟨deeds, .aside same does, ended⟩
  · rintro e after ⟨deeds, does, ended⟩
    exact ⟨deeds, .aside same does, ended⟩

theorem get_bind {next : Host → EStateM ε Host β} {done : β → Knowledge → Prop}
    (rest : ∀ host, Faithful foreign known (next host) done) :
    Faithful foreign known (MonadState.get >>= next) done :=
  fun host => rest host host

theorem notify_bind {notice : Notice} {next : Unit → EStateM ε Host β}
    {done : β → Knowledge → Prop} (rest : Faithful foreign known (next ()) done) :
    Faithful foreign known (ComputeImport.notify notice >>= next) done :=
  silent_bind (fun _ => True) (fun _ => ⟨trivial, rfl⟩) fun _ _ => rest

theorem freshIdentity_bind {next : Nat → EStateM ε Host β} {done : β → Knowledge → Prop}
    (rest : ∀ identity, Faithful foreign known (next identity) done) :
    Faithful foreign known (ComputeImport.freshIdentity >>= next) done :=
  silent_bind (fun _ => True) (fun _ => ⟨trivial, rfl⟩) fun a _ => rest a

/-- A call through a table is one deed at the backend behind it. -/
theorem call {table : Table} (call : Call) {shape : α → Answer} {step : Native α}
    (answers : Simulator.answer call = do return shape (← step))
    (own : ∀ token ∈ call.own table.simulator, known token)
    (lent : ∀ token ∈ call.lent table.simulator, known token ∨ foreign token) :
    Faithful foreign known (table.call step) (fun a wider =>
      ∀ token ∈ call.brings table.simulator (shape a), wider token) := by
  intro host
  apply ends_call.mpr
  unfold Ends
  cases outcome : step (host.simulator table.simulator) with
  | ok a after =>
      have happens : (Deed.called table.simulator call (.ok (shape a))).Happens host
          (host.advance table.simulator after) := by
        rw [Deed.Happens, onSimulator, answers, bind_apply, outcome]
        rfl
      refine ⟨[.called table.simulator call (.ok (shape a))], .did happens (.done _),
        ⟨⟨own, lent⟩, trivial⟩, fun token member => .inr ?_⟩
      simpa [Deed.issues] using member
  | error e after =>
      have happens : (Deed.called table.simulator call (.error e)).Happens host
          (host.advance table.simulator after) := by
        rw [Deed.Happens, onSimulator, answers, bind_apply, outcome]
      exact ⟨[.called table.simulator call (.error e)], .did happens (.done _),
        ⟨⟨own, lent⟩, trivial⟩⟩

theorem callFor {table : Table} {entryPoint : String} {step : Native α}
    (faithful : Faithful foreign known (table.call step) ok) :
    Faithful foreign known (table.callFor entryPoint step) ok := by
  unfold Table.callFor
  cases table.delegation with
  | some _ => exact throw
  | none => exact faithful

theorem native {program : TableM α} (faithful : Faithful foreign known program ok) :
    Faithful foreign known (ComputeImport.native program) ok :=
  fun host => ends_native.mpr (faithful host)

theorem attempt {program : TableM α} (faithful : Faithful foreign known program ok) :
    Faithful foreign known (ComputeImport.attempt program) (fun outcome wider =>
      ∀ a, outcome = .ok a → ok a wider) := by
  intro host
  apply ends_attempt.mpr
  apply (faithful host).imp
  · rintro a after ⟨deeds, does, trusted, holds⟩
    refine ⟨deeds, does, trusted, ?_⟩
    rintro _ ⟨⟩
    exact holds
  · rintro e after ⟨deeds, does, trusted⟩
    exact ⟨deeds, does, trusted, fun _ => nofun⟩

theorem timed {operation : String} {body : ImportM α} (faithful : Faithful foreign known body ok) :
    Faithful foreign known (ComputeImport.timed operation body) ok := by
  intro host
  have aside : ∀ {after : Host} {deeds : List Deed} (notice : Notice),
      Does host deeds after → Does host deeds (after.notify notice) := by
    intro after deeds notice does
    have quiet : Does after [] (after.notify notice) := .quiet rfl
    simpa using does.trans quiet
  apply (faithful host).timed
  · rintro a after notice ⟨deeds, does, ended⟩
    exact ⟨deeds, aside notice does, ended⟩
  · rintro e after notice ⟨deeds, does, ended⟩
    exact ⟨deeds, aside notice does, ended⟩

/-- What is done after a failure is done with what is known by then, and at least with what was known
before. -/
theorem orRelease {programs : List ProgramRef} {body : ImportM α}
    (faithful : Faithful foreign known body ok)
    (innocent : Innocent foreign known (releasePrograms programs)) :
    Faithful foreign known (ComputeImport.orRelease programs body) ok := by
  intro host
  apply ends_orRelease.mpr
  apply (faithful host).imp
  · exact fun _ _ ended => ended
  · rintro e after ⟨deeds, does, trusted⟩
    obtain ⟨more, does', trusted'⟩ := innocent after
    exact ⟨deeds ++ more, does.trans does',
      trusted.append (trusted'.mono Knowledge.within_after)⟩

/-- Resolving a backend is silent. -/
theorem ends_resolveSilent {registry : Registry} {backend : Backend} (host : Host) :
    Ends (registry.resolve backend) host
      (fun provider after => registry.provider? backend = some provider ∧
        after.simulators = host.simulators)
      (fun _ after => after.simulators = host.simulators) := by
  apply ends_resolve.imp
  · rintro provider _ ⟨resolved, notice, rfl⟩
    exact ⟨resolved, rfl⟩
  · rintro e _ ⟨-, rfl⟩
    rfl

theorem resolve {registry : Registry} {backend : Backend} :
    Faithful foreign known (registry.resolve backend)
      (fun provider _ => registry.provider? backend = some provider) :=
  silent ends_resolveSilent

theorem resolve_bind {registry : Registry} {backend : Backend}
    {next : Provider → ImportM β} {done : β → Knowledge → Prop}
    (rest : ∀ provider, registry.provider? backend = some provider →
      Faithful foreign known (next provider) done) :
    Faithful foreign known (registry.resolve backend >>= next) done :=
  silent_bind _ ends_resolveSilent rest

end Faithful

namespace Innocent

variable {foreign known : Knowledge}

/-- The deeds of one step after the other. -/
theorem foldl {items : List α} {step : Host → α → Host}
    (steps : ∀ item ∈ items, Innocent foreign known fun host => step host item) :
    Innocent foreign known fun host => items.foldl step host := by
  intro host
  induction items generalizing host with
  | nil => exact ⟨[], .done host, trivial⟩
  | cons item items ih =>
      obtain ⟨first, rest⟩ := List.forall_mem_cons.mp steps
      obtain ⟨deeds, does, trusted⟩ := first host
      obtain ⟨more, does', trusted'⟩ := ih rest (step host item)
      exact ⟨deeds ++ more, does.trans does',
        trusted.append (trusted'.mono Knowledge.within_after)⟩

/-- A release makes one call, and may note in the journal that it has failed. -/
theorem releaseWith {provider : Provider} {handle : Handle kind}
    {release : Handle kind → Native Unit} (call : Call)
    (answers : Simulator.answer call = do let _ ← release handle; return .done)
    (own : call.own provider.table.simulator = [provider.token handle])
    (lent : call.lent provider.table.simulator = [])
    (isKnown : known (provider.token handle)) :
    Innocent foreign known (Host.releaseWith provider handle release) := by
  intro host
  have faithful : Faithful foreign known (provider.table.call (release handle)) _ :=
    .call call answers (by simpa [own] using isKnown) (by simp [lent])
  unfold Host.releaseWith
  cases outcome : provider.table.call (release handle) host with
  | ok _ after =>
      obtain ⟨deeds, does, trusted, -⟩ := (faithful host).of_ok outcome
      exact ⟨deeds, does, trusted⟩
  | error e after =>
      obtain ⟨deeds, does, trusted⟩ := (faithful host).of_error outcome
      have quiet : Does after [] (after.notify (.releaseFailed kind handle e)) := .quiet rfl
      exact ⟨deeds, by simpa using does.trans quiet, trusted⟩

theorem release {program : ProgramRef} (isKnown : known program.token) :
    Innocent foreign known program.release := by
  intro host
  have faithful : Faithful foreign known
      (program.provider.table.call (Simulator.programRelease program.handle)) _ :=
    .call (.programRelease program.handle) rfl (List.forall_mem_singleton.mpr isKnown)
      fun _ => nofun
  unfold ProgramRef.release
  cases outcome : program.provider.table.call (Simulator.programRelease program.handle) host with
  | ok _ after =>
      obtain ⟨deeds, does, trusted, -⟩ := (faithful host).of_ok outcome
      have quiet : Does after [] (after.notify (.programReleased program.handle)) := .quiet rfl
      exact ⟨deeds, by simpa using does.trans quiet, trusted⟩
  | error e after =>
      obtain ⟨deeds, does, trusted⟩ := (faithful host).of_error outcome
      have quiet : Does after [] (after.notify (.releaseFailed .program program.handle e)) :=
        .quiet rfl
      exact ⟨deeds, by simpa using does.trans quiet, trusted⟩

theorem releasePrograms {programs : List ProgramRef}
    (isKnown : ∀ program ∈ programs, known program.token) :
    Innocent foreign known (ComputeImport.releasePrograms programs) :=
  foldl fun program member => release (isKnown program member)

/-- What an owner releases at its end are its own wrappers. -/
theorem ownerRelease {owner : Owner} (isKnown : ∀ token ∈ owner.tokens, known token) :
    Innocent foreign known owner.release := by
  cases owner with
  | context ended =>
      exact releaseWith (.contextRelease ended.handle) rfl rfl rfl (isKnown _ List.mem_cons_self)
  | queue ended =>
      exact releaseWith (.queueRelease ended.handle) rfl rfl rfl (isKnown _ List.mem_cons_self)
  | event ended =>
      exact releaseWith (.eventRelease ended.handle) rfl rfl rfl (isKnown _ List.mem_cons_self)
  | kernel ended =>
      exact releaseWith (.kernelRelease ended.handle) rfl rfl rfl (isKnown _ List.mem_cons_self)
  | image ended =>
      exact releasePrograms fun program member => isKnown _ (List.mem_map_of_mem member)

theorem letGo {value : Managed}
    (isKnown : ∀ owner ∈ value.owners, ∀ token ∈ owner.tokens, known token) :
    Innocent foreign known (Host.letGo value) := by
  intro host
  refine foldl (fun owner member => ownerRelease (isKnown owner ?_)) host
  exact List.mem_of_mem_filter ((mem_lastOccurrences owner _).mp member)

end Innocent

end ComputeImport
