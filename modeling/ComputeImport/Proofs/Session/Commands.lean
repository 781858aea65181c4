import ComputeImport.Proofs.Session.Custody

/-!
# Commands keep custody

A command that is not a direct call of a backend leaves the session in order, whether it succeeds or
fails: what it has made is held or let go, and what it takes the place of is let go.
-/

namespace ComputeImport

/-- Commands other than calls that the caller makes of a backend past the imports, and than telling
what counts references to fail. -/
def Command.isManaged : Command → Bool
  | .ask _ (.call _) => false
  | .caller _ (.inject entryPoint _) => entryPoint.counting?.isNone
  | _ => true

open Host

namespace Session

/-- What a program of a session brings back from here, unless it fails. -/
def finds {α : Type} (session : Session) (body : SessionM α) : Option α :=
  match body session with
  | .ok a _ => some a
  | .error _ _ => none

theorem ends_finds {α : Type} (body : SessionM α) (session : Session) :
    Ends body session (fun a _ => session.finds body = some a) (fun _ _ => True) := by
  unfold Ends finds
  cases body session <;> trivial

variable {start : Host} {session : Session} {name : Option String} {value : Managed}

/-! ## Registries -/

theorem Cares.registered (cares : Cares start [] session) {registries : Ledger Nat Registry}
    {processWide : Option Registry}
    (numbered : ∀ number registry, registries.get? number = some registry →
      registry.Suits session.host)
    (wide : ∀ registry, processWide = some registry → registry.Suits session.host) :
    Cares start [] { session with registries, processWide } := by
  constructor
  case toInOrder =>
    exact ⟨cares.holds, cares.numbered, numbered, wide, cares.distinct, cares.knows⟩
  case went => exact cares.went
  case still => exact cares.still

/-- The registry that is made when it is first needed suits the backends that are set up for it. -/
theorem ends_processWideRegistry (cares : Cares start [] session) :
    Ends processWideRegistry session
      (fun registry after => Cares start [] after ∧ after.host.held = session.host.held ∧
        registry.Suits after.host)
      (fun _ _ => False) := by
  -- The registry of reference backends is not to be evaluated.
  have makes : ∀ environment host, Cares start [] { session with host } →
      Ends (referenceRegistry environment : ImportM Registry) host
        (fun registry after => Cares start [] { session with host := after } ∧
          after.held = host.held ∧ Extends host after ∧ registry.Suits after)
        (fun _ _ => False) :=
    fun environment host => @ends_referenceRegistry _ start host session environment
  unfold processWideRegistry
  rw [ends_bind, ends_get]
  cases known : session.processWide with
  | some registry => exact ⟨cares, rfl, cares.processWide registry known⟩
  | none =>
      have noticed : Cares start []
          { session with host := session.host.notify .registryInitialised } :=
        cares.since ((Since.refl cares.holds).notify _) rfl rfl
      dsimp only
      rw [ends_bind, ends_get, ends_bind, ends_managed, ends_bind, ends_notify]
      generalize (referenceRegistry : Text.Environment → ImportM Registry) = making at makes ⊢
      apply (makes _ _ noticed).imp
      · rintro registry after ⟨cares, held, -, suits⟩
        rw [ends_bind, ends_modify, ends_pure]
        refine ⟨cares.registered cares.registries ?_, held, suits⟩
        intro other same
        exact Option.some.inj same ▸ suits
      · exact fun _ _ => False.elim

theorem ends_lookupRegistry {number : Option Nat} (cares : Cares start [] session) :
    Ends (lookupRegistry number) session
      (fun registry after => Cares start [] after ∧ after.host.held = session.host.held ∧
        registry.Suits after.host)
      (fun _ after => Cares start [] after) := by
  cases number with
  | none =>
      exact (ends_processWideRegistry cares).imp (fun _ _ ended => ended) fun _ _ => False.elim
  | some number =>
      unfold lookupRegistry
      rw [ends_bind, ends_get]
      cases found : session.registries.get? number with
      | none => exact cares
      | some registry => exact ⟨cares, rfl, cares.registries number registry found⟩

theorem leaves_install (cares : Cares start [] session) (number : Nat) :
    Ends (install number) session (fun reply after => Leaves start reply.owners after)
      (fun _ after => Leaves start [] after) := by
  unfold install
  rw [ends_bind, ends_get]
  cases found : session.registries.get? number with
  | none => exact cares.leaves
  | some registry =>
      have others : ∀ other registry, (session.registries.erase number).get? other = some registry →
          registry.Suits session.host := by
        intro other registry found
        rw [Ledger.get?_erase] at found
        split at found
        · contradiction
        · exact cares.registries other registry found
      dsimp only
      rw [ends_bind, ends_modify, ends_bind, ends_get]
      cases known : session.processWide with
      | some wide =>
          apply Cares.leaves
          apply cares.registered others
          rw [← known]
          exact cares.processWide
      | none =>
          apply Cares.leaves
          apply cares.registered others
          intro other same
          exact Option.some.inj same ▸ cares.registries number registry found

/-! ## What held objects lead to -/

theorem Cares.leads (cares : Cares start [] session) (held : value ∈ session.host.held.values) :
    session.host.LeadsTo value := by
  constructor
  case owners => exact fun owner member => List.mem_flatMap.mpr ⟨value, held, member⟩
  case knows => exact cares.knows value held

theorem Cares.derived (cares : Cares start [] session)
    (derived : value.DerivedFrom session.host.held.values) : session.host.LeadsTo value := by
  have led := derived.ledBy
  constructor
  case owners => exact fun owner member => led.owners member
  case knows =>
    intro provider member
    obtain ⟨whole, held, member⟩ := List.mem_flatMap.mp (led.providers member)
    exact cares.knows whole held provider member

/-! ## Holding what is made -/

/-- A new owner holds what has been handed on to it. -/
theorem Since.handed {owner : Owner} {owners rest : List Owner} {after : Host}
    (since : start.Since none (owner.tokens ++ tokensOf owners) after)
    (held : ∀ other ∈ rest, other ∈ owners) :
    start.Since none (tokensOf ((owner :: rest) ++ owners)) after := by
  rw [← tokensOf_cons since.nodup] at since
  apply since.perm
  apply tokensOf_perm
  intro other
  simp only [List.cons_append, List.mem_cons, List.mem_append]
  constructor
  · rintro (rfl | member)
    · exact Or.inl rfl
    · exact Or.inr (Or.inr member)
  · rintro (rfl | member | member)
    · exact Or.inl rfl
    · exact Or.inr (held other member)
    · exact Or.inr member

/-- What an import has made is held, or let go. -/
theorem leaves_make {α : Type} {body : ImportM α} {make : α → Managed}
    (cares : Cares start [] session) (uses : OnlyCalls body)
    (ended : Ends body session.host
      (fun a after =>
        session.host.Since none (tokensOf ((make a).owners ++ session.host.owners)) after ∧
          session.host.Knows (make a))
      (fun _ after => session.host.Since none (tokensOf session.host.owners) after)) :
    Ends (do keep name (make (← managed body))) session
      (fun reply after => Leaves start reply.owners after) (fun _ after => Leaves start [] after) := by
  have made := Ends.and ended ((uses _ (respects_held _)).ends session.host rfl)
  rw [ends_bind, ends_managed]
  apply made.imp
  · rintro a after ⟨⟨since, knows⟩, held⟩
    have pending : Cares start (make a).owners { session with host := after } :=
      cares.since since held rfl
    apply (ends_keep pending ?_).imp
    · exact fun _ _ ended => ended
    · exact fun _ _ => False.elim
    · intro provider member
      replace knows := knows provider member
      rw [← since.keys] at knows
      exact knows
  · rintro e after ⟨since, held⟩
    have kept : Cares start [] { session with host := after } := cares.since since held rfl
    exact kept.leaves

theorem leaves_keep (cares : Cares start [] session) (leads : session.host.LeadsTo value) :
    Ends (keep name value) session (fun reply after => Leaves start reply.owners after)
      (fun _ after => Leaves start [] after) :=
  (ends_keep (cares.pend leads.owners) leads.knows).imp (fun _ _ ended => ended) fun _ _ =>
    False.elim

/-- What asks backends that have been set up for nothing but what there is leaves a session in
order. -/
theorem cares_quiet {α : Type} {body : ImportM α} (cares : Cares start [] session)
    (uses : Uses (fun number => number ∈ session.host.simulators.keys) EntryPoint.IsQuiet body) :
    Ends (managed body) session (fun _ after => Cares start [] after)
      (fun _ after => Cares start [] after) := by
  have only : OnlyCalls body := uses.mono (fun _ _ => trivial) fun _ _ => trivial
  have ended := Ends.and ((Since.refl cares.holds).quiet uses)
    ((only _ (respects_held _)).ends session.host rfl)
  rw [ends_managed]
  apply ended.imp
  · exact fun _ _ ended => cares.since ended.1 ended.2 rfl
  · exact fun _ _ ended => cares.since ended.1 ended.2 rfl

/-! ## Imports -/

section Imports

variable {registry : Registry} {backend : Backend} {handle : NativeHandle} {context : Context}
  {keeps : Bool}

theorem leaves_makePlatform (cares : Cares start [] session) (suits : registry.Suits session.host) :
    Ends (do keep name (.platform (← managed (makePlatform registry handle backend)))) session
      (fun reply after => Leaves start reply.owners after) (fun _ after => Leaves start [] after) := by
  apply leaves_make cares (OnlyCalls.of_quiet
    (Uses.makePlatform (OnlyCalls.within registry) handle backend))
  apply (ends_makePlatformSince suits (Since.refl cares.holds)).imp
  · rintro platform after ⟨since, isSuited⟩
    constructor
    · exact since
    · intro provider member
      obtain rfl := List.mem_singleton.mp member
      exact isSuited.1
  · exact fun _ _ since => since

theorem leaves_makeDevice (cares : Cares start [] session) (suits : registry.Suits session.host) :
    Ends (do keep name (.device (← managed (makeDevice registry handle backend)))) session
      (fun reply after => Leaves start reply.owners after) (fun _ after => Leaves start [] after) := by
  apply leaves_make cares (OnlyCalls.of_quiet
    (Uses.makeDevice (OnlyCalls.within registry) handle backend))
  apply (ends_makeDeviceSince suits (Since.refl cares.holds)).imp
  · rintro device after ⟨since, isSuited⟩
    constructor
    · exact since
    · intro provider member
      obtain rfl := List.mem_singleton.mp member
      exact isSuited.1
  · exact fun _ _ since => since

theorem leaves_resolve (cares : Cares start [] session) (suits : registry.Suits session.host) :
    Ends (do keep name (.provider (← managed (registry.resolve backend)))) session
      (fun reply after => Leaves start reply.owners after) (fun _ after => Leaves start [] after) := by
  apply leaves_make cares (Uses.resolve registry backend)
  apply (ends_resolveSince suits (Since.refl cares.holds)).imp
  · rintro provider after ⟨isSuited, since⟩
    constructor
    · exact since
    · intro provider member
      obtain rfl := List.mem_singleton.mp member
      exact isSuited.1
  · exact fun _ _ since => since

theorem leaves_makeContext (cares : Cares start [] session) (suits : registry.Suits session.host) :
    Ends (do keep name (.context (← managed (makeContext registry handle backend)))) session
      (fun reply after => Leaves start reply.owners after) (fun _ after => Leaves start [] after) := by
  apply leaves_make cares (OnlyCalls.makeContext registry handle backend)
  apply (ends_makeContext suits (Since.refl cares.holds)).imp
  · rintro context after ⟨since, isSuited⟩
    constructor
    · exact Since.handed since fun _ member => absurd member List.not_mem_nil
    · intro provider member
      obtain rfl := List.mem_singleton.mp member
      exact isSuited.1
  · exact fun _ _ since => since

theorem leaves_makeEvent (cares : Cares start [] session) (suits : registry.Suits session.host)
    (leads : session.host.LeadsTo (.context context)) :
    Ends (do keep name (.event (← managed (makeEvent registry handle context keeps backend))))
      session (fun reply after => Leaves start reply.owners after)
      (fun _ after => Leaves start [] after) := by
  apply leaves_make cares (OnlyCalls.makeEvent registry handle context keeps backend)
  apply (ends_makeEvent suits (Since.refl cares.holds)).imp
  · rintro event after ⟨since, isSuited, rfl⟩
    constructor
    · exact Since.handed since leads.owners
    · intro provider member
      rcases List.mem_cons.mp member with rfl | member
      · exact isSuited.1
      · exact leads.knows provider member
  · exact fun _ _ since => since

theorem leaves_makeQueue {descriptor : Int32} {device : Option Device}
    {properties : QueueProperties} (cares : Cares start [] session)
    (suits : registry.Suits session.host) (leads : session.host.LeadsTo (.context context))
    (leadsDevice : ∀ found, device = some found → session.host.LeadsTo (.device found)) :
    Ends (do keep name (.queue (← managed
        (makeQueue registry handle descriptor context device keeps properties backend))))
      session (fun reply after => Leaves start reply.owners after)
      (fun _ after => Leaves start [] after) := by
  apply leaves_make cares
    (OnlyCalls.makeQueue registry handle descriptor context device keeps properties backend)
  apply (ends_makeQueue suits (Since.refl cares.holds)).imp
  · rintro queue after ⟨since, isSuited, rfl, found | own⟩
    · constructor
      · exact Since.handed since leads.owners
      · intro provider member
        rcases List.mem_cons.mp member with rfl | member
        · exact isSuited.1
        rcases List.mem_cons.mp member with rfl | member
        · exact leads.knows _ List.mem_cons_self
        · exact (leadsDevice _ found).knows provider member
    · constructor
      · exact Since.handed since leads.owners
      · intro provider member
        rcases List.mem_cons.mp member with rfl | member
        · exact isSuited.1
        rcases List.mem_cons.mp member with rfl | member
        · exact leads.knows _ List.mem_cons_self
        · obtain rfl := List.mem_singleton.mp member
          rw [own]
          exact isSuited.1
  · exact fun _ _ since => since

theorem leaves_importProgram {target : BundleState} (cares : Cares start [] session)
    (suits : registry.Suits session.host) (leads : session.host.LeadsTo (.context context)) :
    Ends (do keep name (.bundle (← managed
        (importProgram registry handle context keeps target backend))))
      session (fun reply after => Leaves start reply.owners after)
      (fun _ after => Leaves start [] after) := by
  apply leaves_make cares (OnlyCalls.importProgram registry handle context keeps target backend)
  apply (ends_importProgramSince suits (Since.refl cares.holds)).imp
  · rintro bundle after ⟨image, rfl, since, isSuited, owns⟩
    have own : ∀ provider ∈ image.providers, provider = image.program.provider := by
      intro provider member
      rcases List.mem_cons.mp member with rfl | member
      · rfl
      · obtain ⟨device, isDevice, rfl⟩ := List.mem_map.mp member
        exact owns device isDevice
    constructor
    · apply (Since.handed since leads.owners).perm
      apply tokensOf_perm
      intro owner
      simp [Managed.owners, KernelBundle.owners, or_left_comm]
    · intro provider member
      simp only [Managed.providers, KernelBundle.providers, List.flatMap_cons, List.flatMap_nil,
        List.append_nil, List.mem_append, List.mem_cons] at member
      rcases member with (rfl | member) | member
      · exact leads.knows _ List.mem_cons_self
      · rw [own provider (List.mem_cons_of_mem _ member)]
        exact isSuited.1
      · rw [own provider member]
        exact isSuited.1
  · exact fun _ _ since => since

theorem leaves_importKernel {bundle : KernelBundle} (cares : Cares start [] session)
    (suits : registry.Suits session.host) (leads : session.host.LeadsTo (.context context))
    (leadsBundle : session.host.LeadsTo (.bundle bundle)) :
    Ends (do keep name (.kernel (← managed
        (importKernel registry context bundle handle keeps backend))))
      session (fun reply after => Leaves start reply.owners after)
      (fun _ after => Leaves start [] after) := by
  apply leaves_make cares (OnlyCalls.importKernel registry context bundle handle keeps backend)
  apply (ends_importKernel suits (Since.refl cares.holds)).imp
  · rintro kernel after ⟨since, isSuited, rfl, rfl⟩
    constructor
    · apply Since.handed since
      intro owner member
      rcases List.mem_cons.mp member with rfl | member
      · exact leads.owners _ List.mem_cons_self
      · exact leadsBundle.owners owner member
    · intro provider member
      rcases List.mem_cons.mp member with rfl | member
      · exact isSuited.1
      rcases List.mem_cons.mp member with rfl | member
      · exact leads.knows _ List.mem_cons_self
      · exact leadsBundle.knows provider member
  · exact fun _ _ since => since

theorem leaves_obtained {α : Type} {command : Command} {number : Option Nat} {make : α → Managed}
    {body : Registry → ImportM α} (cares : Cares start [] session)
    (suits : registry.Suits session.host)
    (obtains : Obtains session.host.held command number make body) :
    Ends (do keep name (make (← managed (body registry)))) session
      (fun reply after => Leaves start reply.owners after) (fun _ after => Leaves start [] after) := by
  have leads : ∀ {label : String} {value : Managed}, session.host.held.get? label = some value →
      session.host.LeadsTo value := fun found => cares.leads (Ledger.mem_values_of_get? found)
  cases obtains with
  | provider => exact leaves_resolve cares suits
  | platform => exact leaves_makePlatform cares suits
  | device => exact leaves_makeDevice cares suits
  | context => exact leaves_makeContext cares suits
  | queue found isGiven =>
      exact leaves_makeQueue cares suits (leads found) fun device same =>
        cares.leads (held_of_isGiven isGiven device same)
  | event found => exact leaves_makeEvent cares suits (leads found)
  | program found => exact leaves_importProgram cares suits (leads found)
  | kernel found isWhole => exact leaves_importKernel cares suits (leads found) (leads isWhole)
  | loneKernel found =>
      have isHeld := Ledger.mem_values_of_get? found
      exact leaves_importKernel cares suits (leads found) (cares.derived (.empty isHeld))

end Imports

/-! ## All commands -/

theorem Cares.lookRegistry {number : Option Nat} {next : Registry → SessionM Reply}
    (cares : Cares start [] session)
    (rest : ∀ registry after, Cares start [] after → after.host.held = session.host.held →
      registry.Suits after.host → Ends (next registry) after
        (fun reply after => Leaves start reply.owners after)
        (fun _ after => Leaves start [] after)) :
    Ends (lookupRegistry number >>= next) session
      (fun reply after => Leaves start reply.owners after)
      (fun _ after => Leaves start [] after) := by
  apply ((ends_lookupRegistry cares).imp (fun _ _ ended => ended) fun _ _ cares => cares.leaves).bind
  rintro registry after ⟨cares, same, suits⟩
  exact rest registry after cares same suits

theorem ends_targetTable {target : TableTarget} (cares : Cares start [] session) :
    Ends (targetTable target) session (fun _ after => Cares start [] after)
      (fun _ after => Cares start [] after) := by
  cases target with
  | simulator number =>
      exact Keeps.ends (Keeps.bind (keeps_checkSimulator number) fun _ => Keeps.pure _) session cares
  | registered registry backend =>
      apply (ends_lookupRegistry cares).bind
      rintro registry middle ⟨cares, -, suits⟩
      rw [ends_bind]
      exact cares_quiet cares (Uses.resolve registry backend)

/-- Setting up what is printed touches no backend. -/
theorem leaves_setup {α : Type} {body : SetupM Filter α} {rest : α → SessionM Reply}
    (cares : Cares start [] session)
    (followed : ∀ a after, Cares start [] after →
      Ends (rest a) after (fun reply after => Leaves start reply.owners after)
        (fun _ after => Leaves start [] after)) :
    Ends (setup body >>= rest) session (fun reply after => Leaves start reply.owners after)
      (fun _ after => Leaves start [] after) := by
  have prints : ∀ output, Cares start []
      { session with host := { session.host with output } } := fun output =>
    cares.since ((Since.refl cares.holds).of_simulators rfl) rfl rfl
  exact ((ends_setup prints).imp (fun _ _ cares => cares) fun _ _ cares => cares.leaves).bind
    followed

/-- A command of the managed side, other than a direct one to a backend, leaves a session in order. -/
theorem leaves_execute (cares : Cares start [] session) {command : Command}
    (indirect : ∀ number action, command ≠ .caller number action)
    (isManaged : command.isManaged = true) :
    Ends (execute name command) session (fun reply after => Leaves start reply.owners after)
      (fun _ after => Leaves start [] after) := by
  apply ends_execute
  intro task comes
  have plain : ∀ {reply : Reply} {after : Session}, Cares start [] after → reply.values = [] →
      Leaves start reply.owners after := by
    intro reply after cares plain
    rw [Reply.owners_of_plain plain]
    exact cares.leaves
  cases comes with
  | refused failure => exact cares.leaves
  | told _ bare => exact plain cares (Reply.values_of_isBare bare)
  | shown _ derived => exact .kept cares (cares.derived derived).owners
  | kept _ derived => exact leaves_keep cares (cares.derived derived)
  | asked inquires =>
      have asks := cares_quiet cares (inquires.uses (cares.leads inquires.isHeld).knows)
      apply (asks.and inquires.ends_plain).imp
      · exact fun reply after ended => plain ended.1 ended.2
      · exact fun _ _ ended => ended.1.leaves
  | obtained obtains =>
      apply cares.lookRegistry
      intro registry middle cares same suits
      rw [← same] at obtains
      exact leaves_obtained cares suits obtains
  | @found label platform handle isHeld =>
      have leads := cares.leads (Ledger.mem_values_of_get? isHeld)
      apply leaves_make cares (Uses.findOrMakeDevice platform handle [])
      apply Ends.imp (Ends.and ((Since.refl cares.holds).quiet
        (Uses.findOrMakeDevice platform handle [])) ends_findOrMakeDevice)
      · rintro device after ⟨since, ⟨-, isPlatform⟩, -⟩
        constructor
        · exact since
        · intro provider member
          obtain rfl := List.mem_singleton.mp member
          rw [isPlatform]
          exact leads.knows _ List.mem_cons_self
      · exact fun _ _ ended => ended.1
  | dropped => exact leaves_forget cares _
  | inspected =>
      apply cares.lookRegistry
      exact fun _ _ cares _ _ => cares.leaves
  | installed => exact leaves_install cares _
  | printed _ bare =>
      exact leaves_setup cares fun _ after cares => plain cares (Reply.values_of_isBare (bare after))
  | acted => exact absurd rfl (indirect _ _)
  | @asksTable target request =>
      cases request with
      | call call => contradiction
      | name =>
          apply ((ends_targetTable cares).imp (fun _ _ cares => cares)
            fun _ _ cares => cares.leaves).bind
          exact fun _ _ cares => cares.leaves

end Session

end ComputeImport
