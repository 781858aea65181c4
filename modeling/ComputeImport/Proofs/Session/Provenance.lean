import ComputeImport.Proofs.Import.Lending
import ComputeImport.Proofs.Session.Identity

/-!
# Handles stay with the backends that have issued them

All that a session holds leads to handles that are known: a backend has issued them in answer to an
earlier call, or the caller has supplied them for that backend.  So the calls that a command makes
pass known handles.  No command compares the backends of its arguments, and where an object of
another backend is lent to a command, the handle of the object strays to the backend of the command.
-/

namespace ComputeImport

variable {foreign known wider : Knowledge}

namespace Session

/-- The provider that a registry resolves for a backend. -/
def provider? (session : Session) (registry : Option Nat) (backend : Backend) : Option Provider :=
  (session.finds (lookupRegistry registry)).bind fun registry => registry.provider? backend

/-- The wrapper of the context that is held under a name. -/
def contextTokens (session : Session) (name : String) : List Token :=
  (session.finds (lookupContext name)).toList.map Context.token

end Session

namespace Command

/-- The number of the backend to which a command passes the handles of its arguments. -/
def target? (session : Session) : Command → Option Nat
  | makeQueue registry _ _ _ _ _ _ backend | makeEvent registry _ _ _ backend
  | importProgram registry _ _ _ _ backend | importKernel registry _ _ _ _ backend
  | makeKernel registry _ _ backend =>
      (session.provider? registry backend).map fun provider => provider.table.simulator
  | access queue _ _ =>
      (session.finds (Session.lookupQueue queue)).map fun queue => queue.provider.table.simulator
  | _ => none

/-- The wrappers of the contexts, devices and programs that are lent to a command, each at the
backend that it came from. -/
def lends (session : Session) : Command → List Token
  | makeQueue _ _ _ context device _ _ _ =>
      session.contextTokens context ++
        (device.bind fun name => session.finds (Session.lookupDevice name)).toList.map Device.token
  | makeEvent _ _ context _ _ | importProgram _ _ context _ _ _ | makeKernel _ _ context _ =>
      session.contextTokens context
  | importKernel _ _ context bundle _ _ =>
      session.contextTokens context ++
        (session.finds (Session.lookupBundle bundle)).toList.flatMap fun bundle =>
          bundle.images.map fun image => image.program.token
  | access queue _ _ =>
      (session.finds (Session.lookupQueue queue)).toList.map fun queue => queue.device.token
  | _ => []

/-- A handle that strays: it belongs to an object of another backend that is lent to a command, and
stands for something else, or for nothing, at the backend of the command. -/
def Strays (session : Session) (command : Command) (token : Token) : Prop :=
  command.target? session = some token.simulator ∧
    ∃ lent ∈ command.lends session, lent.simulator ≠ token.simulator ∧
      { lent with simulator := token.simulator } = token

/-- The handles that a caller makes up and supplies with a command: of a device that is asked of a
platform, and of the memory objects of a command on a queue. -/
def supplies (session : Session) : Command → List Token
  | deviceOfPlatform platform device =>
      (session.finds (Session.lookupPlatform platform)).toList.map fun platform =>
        platform.provider.token device
  | access queue memory _ =>
      (session.finds (Session.lookupQueue queue)).toList.flatMap fun queue =>
        memory.map fun entry => queue.provider.token entry.2
  | _ => []

/-- A known handle that is lent to a command is known where it is passed, or else it strays. -/
theorem known_or_strays {session : Session} {command : Command} {lent : Token} {number : Nat}
    (target : command.target? session = some number) (isLent : lent ∈ command.lends session)
    (isKnown : known lent) :
    known { lent with simulator := number } ∨
      command.Strays session { lent with simulator := number } := by
  by_cases same : lent.simulator = number
  · subst same
    exact Or.inl isKnown
  · exact Or.inr ⟨target, lent, isLent, same, rfl⟩

end Command

/-- What is known once handles have been supplied. -/
def Knowledge.with (known : Knowledge) (tokens : List Token) : Knowledge :=
  fun token => known token ∨ token ∈ tokens

namespace Session

variable {session after : Session} {name : Option String} {value : Managed}

/-- All that is held leads to known handles. -/
def Holds (known : Knowledge) (session : Session) : Prop :=
  ∀ value ∈ session.host.held.values, value.Known known

/-- Deeds that can be trusted have led from one session to another, which holds what leads to handles
that are known by then. -/
def Passed (foreign known : Knowledge) (session after : Session) : Prop :=
  ∃ deeds, Does session.host deeds after.host ∧ Trusted foreign known deeds ∧
    after.Holds (known.after deeds)

/-- A program of a session only passes handles that can be trusted. -/
def Passes (foreign known : Knowledge) (body : SessionM Reply) (session : Session) : Prop :=
  Ends body session (fun _ after => Passed foreign known session after)
    (fun _ after => Passed foreign known session after)

theorem Holds.mono (holds : session.Holds known) (within : known.Within wider) :
    session.Holds wider :=
  fun value member => (holds value member).mono within

/-- What is derived from what is held leads to known handles, too. -/
theorem Holds.derived (holds : session.Holds known)
    (derived : value.DerivedFrom session.host.held.values) : value.Known known := by
  have led := derived.ledBy
  constructor
  case owners =>
    intro owner member
    obtain ⟨whole, isHeld, isOwner⟩ := List.mem_flatMap.mp (led.owners member)
    exact (holds whole isHeld).owners owner isOwner
  case devices =>
    intro device member
    obtain ⟨whole, isHeld, isDevice⟩ := List.mem_flatMap.mp (led.devices member)
    exact (holds whole isHeld).devices device isDevice
  case platforms =>
    intro platform member
    obtain ⟨whole, isHeld, isPlatform⟩ := List.mem_flatMap.mp (led.platforms member)
    exact (holds whole isHeld).platforms platform isPlatform

/-- Nothing has happened at the backends. -/
theorem Holds.passed (holds : after.Holds known)
    (same : after.host.simulators = session.host.simulators) :
    Passed foreign known session after :=
  ⟨[], .quiet same, trivial, by rwa [Knowledge.after_nil]⟩

theorem Holds.still (holds : session.Holds known) : Passed foreign known session session :=
  holds.passed rfl

/-- What is done after deeds that can be trusted. -/
theorem Passed.trans {deeds : List Deed} {middle : Session}
    (does : Does session.host deeds middle.host) (trusted : Trusted foreign known deeds)
    (passed : Passed foreign (known.after deeds) middle after) :
    Passed foreign known session after := by
  obtain ⟨more, does', trusted', holds⟩ := passed
  rw [← Knowledge.after_append] at holds
  exact ⟨deeds ++ more, does.trans does', trusted.append trusted', holds⟩

/-- One part of a command after the other. -/
theorem passes_bind {α : Type} {body : SessionM α} {next : α → SessionM Reply}
    (ok : α → Knowledge → Session → Prop)
    (first : Ends body session
      (fun a after => ∃ deeds, Does session.host deeds after.host ∧ Trusted foreign known deeds ∧
        ok a (known.after deeds) after)
      (fun _ after => Passed foreign known session after))
    (rest : ∀ a wider after, known.Within wider → ok a wider after →
      Passes foreign wider (next a) after) :
    Passes foreign known (body >>= next) session := by
  apply Ends.bind first
  rintro a middle ⟨deeds, does, trusted, holds⟩
  apply (rest a _ middle Knowledge.within_after holds).imp
  · exact fun _ _ passed => .trans does trusted passed
  · exact fun _ _ passed => .trans does trusted passed

/-! ## The parts of a command -/

/-- Backends have been set up since a start, and nothing else has been done. -/
def Begun (start host : Host) : Prop :=
  (∃ deeds, Does start deeds host ∧ ∀ foreign known, Trusted foreign known deeds) ∧
    host.held = start.held

theorem begins_begun (start : Host) : Host.Begins (Begun start) := by
  constructor
  case setUp =>
    rintro host config ⟨⟨deeds, does, trusted⟩, held⟩
    refine ⟨⟨deeds ++ [.begun host.simulators.size config], ?_, ?_⟩, held⟩
    · exact does.trans (.did rfl (.done _))
    · exact fun foreign known => (trusted foreign known).append ⟨trivial, trivial⟩
  case other =>
    rintro host after same sameHeld - - ⟨⟨deeds, does, trusted⟩, held⟩
    exact ⟨⟨deeds, by simpa using does.trans (.quiet same), trusted⟩, sameHeld.trans held⟩

theorem Begun.refl (host : Host) : Begun host host :=
  ⟨⟨[], .done host, fun _ _ => trivial⟩, rfl⟩

theorem Holds.begun (holds : session.Holds known) (begun : Begun session.host after.host) :
    Passed foreign known session after := by
  obtain ⟨⟨deeds, does, trusted⟩, held⟩ := begun
  refine ⟨deeds, does, trusted foreign known, fun value member => ?_⟩
  rw [held] at member
  exact (holds value member).mono Knowledge.within_after

theorem begun_lookupRegistry (number : Option Nat) :
    Ends (lookupRegistry number) session (fun _ after => Begun session.host after.host)
      (fun _ after => Begun session.host after.host) :=
  (keeps_lookupRegistry (begins_begun session.host) number).ends session (.refl _)

theorem begun_targetTable (target : TableTarget) :
    Ends (targetTable target) session (fun _ after => Begun session.host after.host)
      (fun _ after => Begun session.host after.host) :=
  (keeps_targetTable (begins_begun session.host) target).ends session (.refl _)

/-- The registry that a command uses may have to be set up first. -/
theorem Holds.lookRegistry {number : Option Nat} {next : Registry → SessionM Reply}
    (holds : session.Holds known)
    (rest : ∀ registry wider after, session.finds (lookupRegistry number) = some registry →
      known.Within wider → after.Holds wider → Passes foreign wider (next registry) after) :
    Passes foreign known (lookupRegistry number >>= next) session := by
  have found : Ends (lookupRegistry number) session
      (fun registry after => ∃ deeds, Does session.host deeds after.host ∧
        Trusted foreign known deeds ∧ session.finds (lookupRegistry number) = some registry ∧
        after.Holds (known.after deeds))
      (fun _ after => Passed foreign known session after) := by
    apply (Ends.and (begun_lookupRegistry number) (ends_finds (lookupRegistry number) session)).imp
    · rintro registry after ⟨begun, found⟩
      obtain ⟨deeds, does, trusted, holds⟩ := holds.begun begun
      exact ⟨deeds, does, trusted, found, holds⟩
    · exact fun _ _ ended => holds.begun ended.1
  apply passes_bind (fun registry wider after =>
    session.finds (lookupRegistry number) = some registry ∧ after.Holds wider) found
  rintro registry wider after within ⟨found, holds⟩
  exact rest registry wider after found within holds

/-- An import leaves what is held as it is. -/
theorem ends_managedFaithful {α : Type} {body : ImportM α} {ok : α → Knowledge → Prop}
    (holds : session.Holds known) (uses : OnlyCalls body)
    (faithful : Faithful foreign known body ok) :
    Ends (managed body) session
      (fun a after => ∃ deeds, Does session.host deeds after.host ∧ Trusted foreign known deeds ∧
        ok a (known.after deeds) ∧ after.Holds (known.after deeds))
      (fun _ after => Passed foreign known session after) := by
  have held := (uses _ (respects_held session.host.held)).ends session.host rfl
  have still : ∀ {host : Host} {deeds : List Deed}, host.held = session.host.held →
      ({ session with host } : Session).Holds (known.after deeds) := by
    intro host deeds held value member
    rw [held] at member
    exact (holds value member).mono Knowledge.within_after
  apply ends_managed.mpr
  apply (Ends.and (faithful session.host) held).imp
  · rintro a host ⟨⟨deeds, does, trusted, isOk⟩, held⟩
    exact ⟨deeds, does, trusted, isOk, still held⟩
  · rintro e host ⟨⟨deeds, does, trusted⟩, held⟩
    exact ⟨deeds, does, trusted, still held⟩

/-- Asking the backends brings nothing new to what is held. -/
theorem passes_asked {body : ImportM Reply} (holds : session.Holds known) (uses : OnlyCalls body)
    (faithful : Faithful foreign known body fun _ _ => True) :
    Passes foreign known (managed body) session := by
  apply (ends_managedFaithful holds uses faithful).imp
  · rintro reply after ⟨deeds, does, trusted, -, holds⟩
    exact ⟨deeds, does, trusted, holds⟩
  · exact fun _ _ passed => passed

theorem passed_letGo (holds : session.Holds known) (isKnown : value.Known known) :
    Passed foreign known session { session with host := session.host.letGo value } := by
  have innocent : Innocent foreign known (Host.letGo value) := .letGo isKnown.owners
  obtain ⟨deeds, does, trusted⟩ := innocent session.host
  refine ⟨deeds, does, trusted, fun other member => ?_⟩
  rw [held_letGo] at member
  exact (holds other member).mono Knowledge.within_after

/-- What is not held any more is let go. -/
theorem passed_forget (holds : session.Holds known) (label : String) :
    Passed foreign known session (session.forget label) := by
  unfold forget
  split
  · rename_i value found
    have fewer : Session.Holds known { session with
        host := { session.host with held := session.host.held.erase label } } :=
      fun other member => holds other (Ledger.mem_of_mem_erase member)
    have isKnown := holds value (Ledger.mem_values_of_get? found)
    obtain ⟨deeds, does, trusted, holds⟩ := passed_letGo fewer isKnown
    have quiet : Does session.host []
        { session.host with held := session.host.held.erase label } := .quiet rfl
    exact ⟨deeds, quiet.trans does, trusted, holds⟩
  · exact holds.still

/-- A value of known handles is held, or let go. -/
theorem passes_keep (holds : session.Holds known) (isKnown : value.Known known) :
    Passes foreign known (keep name value) session := by
  cases name with
  | none => exact passed_letGo holds isKnown
  | some name =>
      have kept : Session.Holds known { session with
          host := { session.host with held := session.host.held.set name value } } := by
        intro other member
        rcases Ledger.eq_or_mem_of_mem_set member with rfl | member
        · exact isKnown
        · exact holds other member
      unfold Passes keep
      dsimp only
      rw [ends_bind, ends_get, ends_bind, ends_modify]
      cases found : session.host.held.get? name with
      | none => exact kept.passed rfl
      | some old =>
          have oldKnown := holds old (Ledger.mem_values_of_get? found)
          obtain ⟨deeds, does, trusted, holds⟩ := passed_letGo kept oldKnown
          have quiet : Does session.host []
              { session.host with held := session.host.held.set name value } := .quiet rfl
          exact ⟨deeds, quiet.trans does, trusted, holds⟩

/-- What an import brings back is held, or let go. -/
theorem passes_make {α : Type} {body : ImportM α} {make : α → Managed}
    (holds : session.Holds known) (uses : OnlyCalls body)
    (faithful : Faithful foreign known body fun a wider => (make a).Known wider) :
    Passes foreign known (do keep name (make (← managed body))) session := by
  apply passes_bind (fun a wider after => (make a).Known wider ∧ after.Holds wider)
  · exact ends_managedFaithful holds uses faithful
  · rintro a wider after - ⟨isKnown, holds⟩
    exact passes_keep holds isKnown

/-! ## Commands -/

section Lending

variable {context : Context} {registry : Registry} {backend : Backend}
  {provider : Provider} {number : Option Nat}

/-- A name is looked up for what is made of the value that is held under it. -/
theorem finds_lookup {α : Type} {label : String} {find : Managed → SessionM α}
    (found : session.host.held.get? label = some value) :
    session.finds (lookup label >>= find) = session.finds (find value) := by
  have looks : Ends (lookup label) session (fun a after => a = value ∧ after = session)
      (fun _ _ => False) := by
    unfold lookup
    rw [ends_bind, ends_get, found]
    exact ⟨rfl, rfl⟩
  obtain ⟨_, _, looked, rfl, rfl⟩ := looks.exists_ok
  rw [finds, finds, bind_apply, looked]

theorem provider?_eq (found : session.finds (lookupRegistry number) = some registry)
    (resolved : registry.provider? backend = some provider) :
    session.provider? number backend = some provider := by
  rw [provider?, found]
  exact resolved

theorem mem_contextTokens {label : String}
    (found : session.finds (lookupContext label) = some context) :
    context.token ∈ session.contextTokens label := by
  rw [contextTokens, found]
  exact List.mem_cons_self

/-- A context that is held is lent to a command. -/
theorem Holds.lent (holds : session.Holds known) (command : Command)
    (held : .context context ∈ session.host.held.values)
    (target : command.target? session = some provider.table.simulator)
    (isLent : context.token ∈ command.lends session) :
    context.Lent (command.Strays session) known provider :=
  ⟨holds _ held, Command.known_or_strays target isLent
    ((holds _ held).owners _ List.mem_cons_self _ List.mem_cons_self)⟩

end Lending

/-- The answers to questions are asked for with the handles of the queue, of its device and of its
context, and with those of the memory objects. -/
theorem faithful_answerQuestions {queue : Queue} {memory : List (Nat × MemHandle)}
    {questions : List Question} (isKnown : (Managed.queue queue).Known known)
    (memKnown : ∀ entry ∈ memory, known (queue.provider.token entry.2))
    (deviceLent : known (queue.provider.token queue.device.handle) ∨
      foreign (queue.provider.token queue.device.handle)) :
    Faithful foreign known (answerQuestions queue memory questions) fun _ _ => True := by
  induction questions generalizing known with
  | nil => exact .pure trivial
  | cons question questions ih =>
      have answers : Faithful foreign known (answerQuestion queue memory question)
          fun _ _ => True := by
        have owned : ∀ owner ∈ (Managed.queue queue).owners, ∀ token ∈ owner.tokens, known token :=
          isKnown.owners
        cases question with
        | backend => exact .pure trivial
        | device =>
            exact (Faithful.deviceHandle (isKnown.devices _ List.mem_cons_self)).bind
              fun _ _ _ _ => .pure trivial
        | context =>
            exact (Faithful.contextHandle (owned (.context queue.context)
              (List.mem_cons_of_mem _ List.mem_cons_self) _ List.mem_cons_self)).bind
                fun _ _ _ _ => .pure trivial
        | queue =>
            exact (Faithful.queueHandle (owned _ List.mem_cons_self _ List.mem_cons_self)).bind
              fun _ _ _ _ => .pure trivial
        | memory requirement =>
            exact (Faithful.nativeMem memKnown deviceLent).bind fun _ _ _ _ => .pure trivial
      have others : ∀ wider, known.Within wider →
          Faithful foreign wider (answerQuestions queue memory questions) fun _ _ => True :=
        fun wider within => ih (isKnown.mono within)
          (fun entry member => within _ (memKnown entry member)) (deviceLent.imp_left (within _))
      have continues : ∀ {host middle : Host} {deeds : List Deed},
          Does host deeds middle → Trusted foreign known deeds →
          Ends (answerQuestions queue memory questions) middle
            (fun _ after => ∃ deeds, Does host deeds after ∧ Trusted foreign known deeds ∧ True)
            (fun _ after => ∃ deeds, Does host deeds after ∧ Trusted foreign known deeds) := by
        intro host middle deeds does trusted
        apply (others _ Knowledge.within_after middle).imp
        · rintro _ after ⟨more, does', trusted', -⟩
          exact ⟨deeds ++ more, does.trans does', trusted.append trusted', trivial⟩
        · rintro _ after ⟨more, does', trusted'⟩
          exact ⟨deeds ++ more, does.trans does', trusted.append trusted'⟩
      intro host
      rw [ends_answerQuestions_cons]
      apply (answers host).imp
      · rintro _ middle ⟨deeds, does, trusted, -⟩
        exact continues does trusted
      · rintro _ middle ⟨deeds, does, trusted⟩
        exact continues does trusted

/-- Asking a value for its native object passes the handle of the value itself. -/
theorem faithful_ask {accessor : Accessor} (isKnown : value.Known known)
    (isAccessor : value.accessor? = some accessor) :
    Faithful foreign known accessor.ask fun _ _ => True := by
  have answered : ∀ {α : Type} {body : ImportM α} {reply : α → Reply},
      Faithful foreign known body (fun _ _ => True) →
      Faithful foreign known (do return reply (← body)) fun _ _ => True :=
    fun faithful => faithful.bind fun _ _ _ _ => .pure trivial
  have owned : ∀ owner ∈ value.owners, ∀ token ∈ owner.tokens, known token := isKnown.owners
  cases value with
  | platform platform =>
      obtain rfl := Option.some.inj isAccessor
      exact answered (Faithful.platformHandle (isKnown.platforms _ List.mem_cons_self))
  | device device =>
      obtain rfl := Option.some.inj isAccessor
      exact answered (Faithful.deviceHandle (isKnown.devices _ List.mem_cons_self))
  | context context =>
      obtain rfl := Option.some.inj isAccessor
      exact answered (Faithful.contextHandle (owned _ List.mem_cons_self _ List.mem_cons_self))
  | queue queue =>
      obtain rfl := Option.some.inj isAccessor
      exact answered (Faithful.queueHandle (owned _ List.mem_cons_self _ List.mem_cons_self))
  | event event =>
      obtain rfl := Option.some.inj isAccessor
      exact answered (Faithful.eventHandle (owned _ List.mem_cons_self _ List.mem_cons_self))
  | kernel kernel =>
      obtain rfl := Option.some.inj isAccessor
      exact answered (Faithful.kernelHandle (owned _ List.mem_cons_self _ List.mem_cons_self))
  | image | bundle | provider => contradiction

/-- What a command asks the backends of a held object, it asks with handles that are known, or that
stray. -/
theorem faithful_inquires {command : Command} {body : ImportM Reply} (holds : session.Holds known)
    (inquires : Inquires session.host.held command value body)
    (supplied : ∀ token ∈ command.supplies session, known token) :
    Faithful (command.Strays session) known body fun _ _ => True := by
  have isKnown := holds value inquires.isHeld
  have answered : ∀ {α : Type} {body : ImportM α} {reply : α → Reply},
      Faithful (command.Strays session) known body (fun _ _ => True) →
      Faithful (command.Strays session) known (do return reply (← body)) fun _ _ => True :=
    fun faithful => faithful.bind fun _ _ _ _ => .pure trivial
  cases inquires with
  | names => exact answered (Faithful.kernelNames isKnown)
  | imageNames => exact answered (Faithful.imageKernelNames isKnown)
  | has => exact answered (Faithful.hasKernel isKnown)
  | imageHas => exact answered (Faithful.imageHasKernel isKnown)
  | backend =>
      exact answered (Faithful.reportedBackend (isKnown.platforms _ List.mem_cons_self))
  | native _ isAccessor => exact faithful_ask isKnown isAccessor
  | @questions label memory questions queue found =>
      have isFound : session.finds (lookupQueue label) = some queue := finds_lookup found
      have target : (Command.access label memory questions).target? session =
          some queue.provider.table.simulator := by simp [Command.target?, isFound]
      have isLent : queue.device.token ∈
          (Command.access label memory questions).lends session := by
        simp [Command.lends, isFound]
      apply answered
      apply faithful_answerQuestions isKnown
      · intro entry member
        apply supplied
        simp only [Command.supplies, isFound, Option.toList_some, List.flatMap_singleton]
        exact List.mem_map_of_mem member
      · exact Command.known_or_strays target isLent (isKnown.devices _ List.mem_cons_self)

theorem passes_install (holds : session.Holds known) (number : Nat) :
    Passes foreign known (install number) session := by
  unfold Passes install
  rw [ends_bind, ends_get]
  cases session.registries.get? number with
  | none => exact holds.still
  | some registry =>
      dsimp only
      rw [ends_bind, ends_modify, ends_bind, ends_get]
      cases session.processWide with
      | some wide => exact holds.still
      | none => exact holds.still

/-- Setting up what is printed is done at no backend. -/
theorem passes_setup {α : Type} {body : SetupM Filter α} {next : α → SessionM Reply}
    (holds : session.Holds known)
    (rest : ∀ a wider after, after.Holds wider → Passes foreign wider (next a) after) :
    Passes foreign known (setup body >>= next) session := by
  have prints : ∀ output, Passed foreign known session
      { session with host := { session.host with output } } :=
    fun output => Holds.passed holds rfl
  apply passes_bind (fun _ wider after => after.Holds wider) (ends_setup prints)
  exact fun a wider after _ holds => rest a wider after holds

/-- What is obtained through a registry leads to known handles, and is obtained with handles that are
known, or that stray. -/
theorem faithful_obtained {α : Type} {command : Command} {number : Option Nat} {make : α → Managed}
    {body : Registry → ImportM α} {registry : Registry} (holds : session.Holds known)
    (isRegistry : session.finds (lookupRegistry number) = some registry)
    (obtains : Obtains session.host.held command number make body) :
    Faithful (command.Strays session) known (body registry)
      fun a wider => (make a).Known wider := by
  have targets : ∀ {backend : Backend} {provider : Provider},
      registry.provider? backend = some provider →
      (session.provider? number backend).map (fun provider => provider.table.simulator) =
        some provider.table.simulator :=
    fun resolved => by rw [provider?_eq isRegistry resolved, Option.map_some]
  cases obtains with
  | provider => exact Faithful.resolve.imp fun provider _ _ _ => Managed.known_provider provider
  | platform => exact Faithful.makePlatform
  | device => exact Faithful.makeDevice
  | context => exact Faithful.makeContext
  | @queue _ _ _ label named _ _ _ context given found isGiven =>
      have isFound : session.finds (lookupContext label) = some context := finds_lookup found
      refine Faithful.makeQueue (fun provider resolved => ?_) ?_ fun provider resolved => ?_
      · exact holds.lent _ (Ledger.mem_values_of_get? found) (targets resolved)
          (List.mem_append_left _ (mem_contextTokens isFound))
      · exact fun device same => holds _ (held_of_isGiven isGiven device same)
      · rintro device rfl
        cases isGiven with
        | @some label _ deviceFound =>
            have isDevice : session.finds (lookupDevice label) = some device :=
              finds_lookup deviceFound
            have deviceKnown := holds _ (Ledger.mem_values_of_get? deviceFound)
            refine Command.known_or_strays ?_ ?_ (deviceKnown.devices _ List.mem_cons_self)
            · exact targets resolved
            · exact List.mem_append_right _ (by simp [isDevice])
  | @event _ _ label _ _ context found =>
      have isFound : session.finds (lookupContext label) = some context := finds_lookup found
      exact Faithful.makeEvent fun provider resolved =>
        holds.lent _ (Ledger.mem_values_of_get? found) (targets resolved) (mem_contextTokens isFound)
  | @program _ _ label _ _ _ context found =>
      have isFound : session.finds (lookupContext label) = some context := finds_lookup found
      exact Faithful.importProgram fun provider resolved =>
        holds.lent _ (Ledger.mem_values_of_get? found) (targets resolved) (mem_contextTokens isFound)
  | @kernel _ _ label whole _ _ context bundle found isWhole =>
      have isFound : session.finds (lookupContext label) = some context := finds_lookup found
      have isBundle : session.finds (lookupBundle whole) = some bundle := finds_lookup isWhole
      have bundleKnown := holds _ (Ledger.mem_values_of_get? isWhole)
      refine Faithful.importKernel (fun provider resolved => ?_) bundleKnown
        fun provider resolved image member => ?_
      · exact holds.lent _ (Ledger.mem_values_of_get? found) (targets resolved)
          (List.mem_append_left _ (mem_contextTokens isFound))
      · refine Command.known_or_strays ?_ ?_
          ((bundleKnown.image member).owners _ List.mem_cons_self _ List.mem_cons_self)
        · exact targets resolved
        · refine List.mem_append_right _ ?_
          rw [isBundle]
          simpa using ⟨image, member, rfl⟩
  | @loneKernel _ _ label _ context found =>
      have isFound : session.finds (lookupContext label) = some context := finds_lookup found
      have isHeld := Ledger.mem_values_of_get? found
      refine Faithful.importKernel (fun provider resolved => ?_) (holds.derived (.empty isHeld))
        fun _ _ _ => nofun
      exact holds.lent _ isHeld (targets resolved) (mem_contextTokens isFound)

/-- A command that calls no backend directly only passes handles that are known, or that stray. -/
theorem passes_execute {command : Command} (holds : session.Holds known)
    (isManaged : command.isDirect = false)
    (supplied : ∀ token ∈ command.supplies session, known token) :
    Passes (command.Strays session) known (execute name command) session := by
  apply ends_execute
  intro task comes
  cases comes with
  | refused | told | shown => exact holds.still
  | kept _ derived => exact passes_keep holds (holds.derived derived)
  | asked inquires =>
      exact passes_asked holds inquires.onlyCalls (faithful_inquires holds inquires supplied)
  | obtained obtains =>
      apply holds.lookRegistry
      intro registry wider after isRegistry within holds'
      exact passes_make holds' (obtains.onlyCalls registry)
        (faithful_obtained (holds.mono within) isRegistry obtains)
  | @found label platform handle isHeld =>
      have found : session.finds (lookupPlatform label) = some platform := finds_lookup isHeld
      have isKnown := holds _ (Ledger.mem_values_of_get? isHeld)
      have isSupplied : known (platform.provider.token handle) :=
        supplied _ (by simp [Command.supplies, found])
      refine passes_make holds (OnlyCalls.of_quiet (Uses.findOrMakeDevice platform handle [])) ?_
      refine (Faithful.silent fun host => ends_findOrMakeDevice.imp (fun _ _ made => made)
        fun _ _ => False.elim).imp fun made wider within isMade => ?_
      obtain ⟨rfl, rfl⟩ := isMade
      exact Managed.known_device (within _ isSupplied)
        (within _ (isKnown.platforms _ List.mem_cons_self))
  | dropped => exact passed_forget holds _
  | inspected =>
      apply holds.lookRegistry
      exact fun _ _ _ _ _ holds => holds.still
  | installed => exact passes_install holds _
  | printed => exact passes_setup holds fun _ _ _ holds => holds.still
  | acted => contradiction
  | @asksTable target request =>
      cases request with
      | call call => contradiction
      | name =>
          apply Ends.bind ((begun_targetTable target).imp (fun _ _ begun => begun)
            fun _ _ begun => holds.begun begun)
          exact fun _ _ begun => holds.begun begun

/-! ## Direct commands -/

/-- Some deeds have been done since a start, and what is held has stayed. -/
def Done (start host : Host) : Prop :=
  (∃ deeds, Does start deeds host) ∧ host.held = start.held

/-- Every call that is made is a deed. -/
theorem respects_done (start : Host) : Respects (fun _ => True) (fun _ => True) (Done start) := by
  apply Respects.uncached
  case call =>
    rintro host number call - - ⟨⟨deeds, does⟩, held⟩
    rw [Simulator.after, stateAfter]
    cases outcome : Simulator.answer call (host.simulator number) with
    | ok reply after =>
        have happens : (Deed.called number call (.ok reply)).Happens host
            (host.advance number after) := by
          rw [Deed.Happens, onSimulator, outcome]
        exact ⟨⟨_, does.trans (.did happens (.done _))⟩, held⟩
    | error e after =>
        have happens : (Deed.called number call (.error e)).Happens host
            (host.advance number after) := by
          rw [Deed.Happens, onSimulator, outcome]
        exact ⟨⟨_, does.trans (.did happens (.done _))⟩, held⟩
  case other =>
    rintro host after same sameHeld - ⟨⟨deeds, does⟩, held⟩
    exact ⟨⟨deeds, by simpa using does.trans (.quiet same)⟩, sameHeld.trans held⟩

theorem Begun.done {start host : Host} (begun : Begun start host) : Done start host :=
  ⟨⟨_, begun.1.choose_spec.1⟩, begun.2⟩

/-- What a direct command does are deeds, too, and it holds nothing new. -/
theorem done_execute {command : Command} (isDirect : command.isDirect = true) :
    Ends (execute name command) session (fun _ after => Done session.host after.host)
      (fun _ after => Done session.host after.host) := by
  have still : Done session.host session.host := ⟨⟨[], .done _⟩, rfl⟩
  cases command with
  | caller number action =>
      have checked : Ends (checkSimulator number) session (fun _ after => after = session)
          (fun _ after => after = session) := (keeps_checkSimulator number).ends session rfl
      apply Ends.bind (checked.imp (fun _ _ same => same) fun _ _ same => same ▸ still)
      intro _ middle same
      have acted : Done session.host
          (session.host.advance number ((session.host.simulator number).after (.caller action))) :=
        ⟨⟨[.acted number action], .did rfl (.done _)⟩, rfl⟩
      rw [same]
      apply ends_table.mpr
      apply ends_onSimulator.mpr
      apply (ends_same (act action) _).imp
      · rintro reply _ rfl
        exact acted
      · rintro e _ rfl
        exact acted
  | ask target request =>
      cases request with
      | name => contradiction
      | call call =>
          apply Ends.bind ((begun_targetTable target).imp (fun _ _ begun => begun.done)
            fun _ _ begun => begun.done)
          intro asked middle done
          have answered := (onlyCalls_answer asked call _ (respects_done session.host)).ends
            middle.host done
          apply Ends.bind (ends_table.mpr (answered.imp ?_ ?_))
          · exact fun _ _ done => done
          · exact fun _ _ done => done
          · exact fun _ _ done => done
  | _ => contradiction

/-! ## Runs -/

/-- Letting go of everything only passes handles that are known. -/
theorem passed_close (holds : session.Holds known) : Passed foreign known session session.close := by
  unfold close
  generalize session.names = names
  induction names generalizing session known with
  | nil => exact holds.still
  | cons label names ih =>
      obtain ⟨deeds, does, trusted, holds⟩ := passed_forget holds label
      exact .trans does trusted (ih holds)

/-- At every step of a run, and at its end when everything is let go, deeds lead on from one state of
the backends to the next.  Unless the caller calls a backend directly, they pass no handle to a
backend but the ones that this backend has issued in answer to an earlier call, those that the caller
has supplied for it, and those that stray.  To begin with some handles are known. -/
def KeepsToBackends (known : Knowledge) (session : Session) : List Step → Prop
  | [] => ∃ deeds, Does session.host deeds session.close.host ∧
      Trusted (fun _ => False) known deeds
  | next :: steps =>
      let supplied := known.with (next.command.supplies session)
      ∃ deeds, Does session.host deeds (session.step next).2.host ∧
        (next.command.isDirect = false →
          Trusted (next.command.Strays session) supplied deeds) ∧
        KeepsToBackends (supplied.after deeds) (session.step next).2 steps

theorem keepsToBackends_run (holds : session.Holds known) (steps : List Step) :
    KeepsToBackends known session steps := by
  induction steps generalizing session known with
  | nil =>
      obtain ⟨deeds, does, trusted, -⟩ := passed_close holds
      exact ⟨deeds, does, trusted⟩
  | cons next steps ih =>
      have holds' : session.Holds (known.with (next.command.supplies session)) :=
        holds.mono fun _ => .inl
      cases isDirect : next.command.isDirect with
      | false =>
          have passes : Passes _ _ (execute next.name next.command) session :=
            passes_execute holds' isDirect fun _ => .inr
          obtain ⟨deeds, does, trusted, stillHolds⟩ := @step_of_ends session next
            (fun _ after => Passed (next.command.Strays session) _ session after) passes
          exact ⟨deeds, does, fun _ => trusted, ih stillHolds⟩
      | true =>
          obtain ⟨⟨deeds, does⟩, held⟩ := @step_of_ends session next
            (fun _ after => Done session.host after.host) (done_execute isDirect)
          refine ⟨deeds, does, fun isManaged => ?_, ih fun value member => ?_⟩
          · rw [isDirect] at isManaged
            contradiction
          · rw [held] at member
            exact (holds' value member).mono Knowledge.within_after

/-- Every session keeps the handles of each backend to that backend, but for those that stray. -/
theorem opening_keepsToBackends (configs : List SimulatorConfig) (plans : List RegistryPlan)
    (environment : Text.Environment) (steps : List Step) :
    KeepsToBackends (fun _ => False) (opening configs plans environment) steps := by
  refine keepsToBackends_run (fun value member => ?_) steps
  rw [held_opening] at member
  contradiction

/-- A session over two backends. -/
def apart : Session :=
  opening [.cuda, .hip]
    [.listed [⟨.cuda, { simulator := 0 }, none⟩, ⟨.hip, { simulator := 1 }, none⟩] {}] {}

/-- Create a platform, a device, a context and an event at a backend. -/
def furnishing (number : Nat) : List Step :=
  [⟨.caller number .createPlatform, none⟩,
    ⟨.caller number (.createDevice ⟨4096⟩), none⟩,
    ⟨.caller number (.createContext [⟨4097⟩]), none⟩,
    ⟨.caller number .createEvent, none⟩]

/-- Import the context of the first backend, and the event of the second with it. -/
def crossing : List Step :=
  [⟨.makeContext (some 0) ⟨4098⟩ .cuda, some "context"⟩,
    ⟨.makeEvent (some 0) ⟨4099⟩ "context" true .hip, some "event"⟩]

/-- The only call that the second backend has ever received passes the handle of a context, and it has
issued no handle at all.  Where it has issued a handle of its own with the same number, the import
even succeeds, and the event belongs to the second backend and its context to the first. -/
theorem exists_stray :
    let alone := (apart.run (furnishing 0 ++ furnishing 1 ++ crossing)).2
    let taken := (apart.run (furnishing 0 ++ furnishing 1 ++
      ⟨.makeContext (some 0) ⟨4098⟩ .hip, some "other"⟩ :: crossing)).2
    (alone.host.simulator 1).calls = [.eventCreate ⟨4099⟩ ⟨1⟩ false] ∧
      (alone.host.simulator 1).store.nextWrapper = 1 ∧
      (taken.host.held.get? "event").map
        (fun event => event.providers.map fun provider => provider.table.simulator) =
          some [1, 0] := by
  decide +kernel

end Session

end ComputeImport
