import ComputeImport.Proofs.Session.Commands
import Mathlib.Data.List.Nodup
import Mathlib.Data.List.Pairwise

/-!
# Every wrapper is released exactly once

In every session of managed operations, each counted wrapper has one owner among the objects that
are alive, and its one reference.  So every wrapper that has ended has been released by one call,
every such call finds the wrapper that it releases, and the references to native objects add up.
-/

namespace ComputeImport

/-- The tables that are registered are those of backends that were given, and demand that importers
take a reference exactly where the backend takes none. -/
def RegistryPlan.Matches (configs : List SimulatorConfig) : RegistryPlan → Prop
  | reference => True
  | listed registrations _ => ∀ registration ∈ registrations,
      configs[registration.table.simulator]?.map (fun config => !config.retainsOnImport) =
        some (registration.demands.getD registration.backend.demands).needsRetain

/-! ## What the caller does -/

namespace Simulator

variable {sim : Simulator}

/-- Counting the references to a native object leaves the wrappers as they are. -/
theorem wrappers_counted {action : CallerAction} (counted : action.counted? ≠ none) :
    (sim.after (.caller action)).store.wrappers = sim.store.wrappers := by
  suffices ended : Ends (Session.act action) sim
      (fun _ after => after.store.wrappers = sim.store.wrappers)
      (fun _ after => after.store.wrappers = sim.store.wrappers) from ends_stateAfter.mp ended
  cases action with
  | retain handle =>
      apply ends_act_retain.imp
      · rintro _ _ ⟨object, -, rfl⟩
        rfl
      · rintro _ _ ⟨rfl, -⟩
        rfl
  | release handle =>
      apply ends_act_release.imp
      · rintro _ _ ⟨-, rfl⟩
        exact Store.wrappers_dropped _ _
      · rintro _ _ ⟨rfl, -⟩
        exact Store.wrappers_dropped _ _
  | _ => exact absurd rfl counted

/-- What the caller does leaves the wrappers as they are. -/
theorem get?_wrappers_act (formed : sim.store.WellFormed) (action : CallerAction) {id : Nat}
    {wrapper : Wrapper} (found : sim.store.wrappers.get? id = some wrapper) :
    (sim.after (.caller action)).store.wrappers.get? id = some wrapper := by
  by_cases counted : action.counted? = none
  · have grows : Store.Grows _ sim.store (sim.after (.caller action)).store :=
      ends_stateAfter.mp (extends_act counted)
    exact grows.get?_wrappers formed found
  · rw [wrappers_counted counted]
    exact found

/-- The caller makes no counted wrapper. -/
theorem get?_wrappers_of_act (action : CallerAction) {id : Nat} {wrapper : Wrapper}
    (found : (sim.after (.caller action)).store.wrappers.get? id = some wrapper)
    (isCounted : wrapper.data.kind.isCounted = true) :
    sim.store.wrappers.get? id = some wrapper := by
  by_cases counted : action.counted? = none
  · have grows : Store.Grows _ sim.store (sim.after (.caller action)).store :=
      ends_stateAfter.mp (extends_act counted)
    rcases grows.wrappers_cases found with found | ⟨-, isMem | isPlatform | isDevice⟩
    · exact found
    · rw [isMem] at isCounted
      contradiction
    · exact absurd isPlatform (ObjectKind.ordinary_of_isCounted isCounted).1
    · exact absurd isDevice (ObjectKind.ordinary_of_isCounted isCounted).2
  · rw [wrappers_counted counted] at found
    exact found

end Simulator

section Caller

variable {host : Host} {tokens : List Token} {session : Session} {number : Nat}
  {action : CallerAction}

/-- What the caller does directly with a backend takes no wrapper out of custody, and brings none
that is counted. -/
theorem Host.Holds.act (holds : Host.Holds none tokens host)
    (harmless : ∀ entryPoint error, action = .inject entryPoint error →
      entryPoint.counting? = none) :
    Host.Holds none tokens
      (host.advance number ((host.simulator number).after (.caller action))) := by
  have formed := holds.formed number
  constructor
  case nodup => exact holds.nodup
  case live =>
    intro token member
    obtain ⟨wrapper, found, isKind, refs⟩ := holds.live token member
    rw [simulator_advance]
    split
    · rename_i same
      rw [← same] at found
      exact ⟨wrapper, Simulator.get?_wrappers_act formed action found, isKind, refs⟩
    · exact ⟨wrapper, found, isKind, refs⟩
  case owned =>
    intro number' id wrapper found counted
    rw [simulator_advance] at found
    split at found
    · rename_i same
      subst same
      exact holds.owned number id wrapper (Simulator.get?_wrappers_of_act action found counted)
        counted
    · exact holds.owned number' id wrapper found counted
  case calm =>
    intro number' entryPoint counting
    rw [simulator_advance]
    split
    · rw [(Simulator.kept_act action).2 entryPoint]
      · exact holds.calm number entryPoint counting
      · rintro error rfl
        exact counting (harmless entryPoint error rfl)
    · exact holds.calm number' entryPoint counting
  case formed =>
    intro number'
    rw [simulator_advance]
    split
    · exact Simulator.wellFormed_after formed (.caller action)
    · exact holds.formed number'

end Caller

namespace Session

/-! ## Steps -/

/-- The operations by which a step takes a backend further: what the caller does with it, or else the
calls that the backend records. -/
def operations (number : Nat) (session : Session) (next : Step) : List Simulator.Operation :=
  match next.command with
  | .caller other action =>
      if other = number ∧ other < session.given then [.caller action] else []
  | _ =>
      (((session.step next).2.host.simulator number).calls.drop
        (session.host.simulator number).calls.length).map .call

/-- The operations of several steps on a backend, oldest first. -/
def history (number : Nat) (session : Session) : List Step → List Simulator.Operation
  | [] => []
  | next :: steps => session.operations number next ++ (session.step next).2.history number steps

/-- A session in order has come from another one by operations that were accepted. -/
structure Advances (session : Session) (operations : Nat → List Simulator.Operation)
    (after : Session) : Prop where
  inOrder : InOrder [] after
  known : ∀ number, session.host.simulators.get? number ≠ none →
    after.host.simulators.get? number ≠ none
  follows : ∀ number, session.host.Follows after.host number (operations number)

variable {session : Session} {number : Nat} {action : CallerAction} {next : Step}

/-- The operations of one run after another. -/
theorem history_append {steps more : List Step} :
    session.history number (steps ++ more) =
      session.history number steps ++ (session.run steps).2.history number more := by
  induction steps generalizing session with
  | nil => rfl
  | cons next steps ih =>
      rw [List.cons_append, history, history, ih, List.append_assoc]
      rfl

/-- What the caller does with a backend that was given leaves a session in order. -/
theorem InOrder.act (inOrder : InOrder [] session) (isGiven : number < session.given)
    (harmless : ∀ entryPoint error, action = .inject entryPoint error →
      entryPoint.counting? = none) :
    InOrder [] { session with
      host := session.host.advance number
        ((session.host.simulator number).after (.caller action)) } := by
  obtain ⟨size, keys, given⟩ := inOrder.numbered
  have known : number ∈ session.host.simulators.keys := by
    rw [keys, List.mem_range]
    exact Nat.lt_of_lt_of_le isGiven given
  generalize isAfter : session.host.advance number
    ((session.host.simulator number).after (.caller action)) = after
  have sameKeys : after.simulators.keys = session.host.simulators.keys := by
    rw [← isAfter, Host.advance, Ledger.keys_set, if_pos known]
  have suits : ∀ registry : Registry, registry.Suits session.host → registry.Suits after := by
    intro registry suits backend provider resolved
    obtain ⟨reached, needs⟩ := suits backend provider resolved
    constructor
    · rw [sameKeys]
      exact reached
    · rw [← isAfter, Host.simulator_advance]
      split
      · rename_i same
        rw [(Simulator.kept_act action).1, same]
        exact needs
      · exact needs
  constructor
  case holds =>
    rw [← isAfter]
    exact inOrder.holds.act harmless
  case numbered => exact ⟨size, sameKeys.trans keys, given⟩
  case registries =>
    exact fun number registry found => suits registry (inOrder.registries number registry found)
  case processWide => exact fun registry found => suits registry (inOrder.processWide registry found)
  case distinct =>
    rw [← isAfter]
    exact inOrder.distinct
  case knows =>
    intro value member provider isProvider
    rw [sameKeys]
    rw [← isAfter] at member
    exact inOrder.knows value member provider isProvider

theorem operations_caller {other : Nat} {name : Option String} :
    session.operations other ⟨.caller number action, name⟩ =
      if number = other ∧ number < session.given then [.caller action] else [] :=
  rfl

/-- What the caller does directly it does at a backend that was given. -/
theorem caller_after {name : Option String} :
    (session.step ⟨.caller number action, name⟩).2 =
      if number < session.given then
        { session with
          host := session.host.advance number
            ((session.host.simulator number).after (.caller action)) }
      else session := by
  refine @step_of_ends session ⟨.caller number action, name⟩ (fun _ after => after =
    if number < session.given then
      { session with
        host := session.host.advance number
          ((session.host.simulator number).after (.caller action)) }
    else session) ?_
  apply (ends_checkSimulator.imp (fun _ _ checked => checked) ?_).bind
  · rintro _ _ ⟨rfl, isGiven⟩
    rw [if_pos isGiven]
    exact ends_table.mpr (ends_onSimulator.mpr (ends_stateAfter.mpr rfl))
  · rintro _ _ ⟨rfl, unknown⟩
    exact (if_neg unknown).symm

/-- What the caller does directly is what its backend takes for an operation, if it was given. -/
theorem advances_caller (inOrder : InOrder [] session) {name : Option String}
    (harmless : ∀ entryPoint error, action = .inject entryPoint error →
      entryPoint.counting? = none) :
    Advances session (fun other => session.operations other ⟨.caller number action, name⟩)
      (session.step ⟨.caller number action, name⟩).2 := by
  rw [caller_after]
  by_cases isGiven : number < session.given
  · rw [if_pos isGiven]
    constructor
    case inOrder => exact inOrder.act isGiven harmless
    case known => exact fun other known => Host.known_advance known
    case follows =>
      intro other
      have begins : session.host.Follows session.host other [] := .of_simulators rfl other
      have accepts : (session.host.simulator number).Accepts (.caller action) := trivial
      have follows := begins.advance accepts
      have isOperation : session.operations other ⟨.caller number action, name⟩ =
          if number = other then [] ++ [.caller action] else [] := by
        rw [operations_caller]
        by_cases same : number = other
        · rw [if_pos same, if_pos ⟨same, isGiven⟩]
          rfl
        · rw [if_neg same, if_neg fun both => same both.1]
      rw [isOperation]
      exact follows
  · have none : ∀ other, session.operations other ⟨.caller number action, name⟩ = [] :=
      fun other => if_neg fun both => isGiven both.2
    rw [if_neg isGiven]
    constructor
    case inOrder => exact inOrder
    case known => exact fun _ known => known
    case follows =>
      intro other
      rw [none]
      exact .of_simulators rfl other

/-- A step that is not a direct call of a backend leaves a session in order, with what its reply
shows. -/
theorem leaves_step (inOrder : InOrder [] session)
    (indirect : ∀ number action, next.command ≠ .caller number action)
    (isManaged : next.command.isManaged = true) :
    Leaves session.host (shown (session.step next).1) (session.step next).2 := by
  have cares : Cares session.host [] session :=
    ⟨inOrder, .of_simulators rfl, fun _ member => member⟩
  exact @step_of_ends session next (fun outcome => Leaves session.host (shown outcome))
    (leaves_execute cares indirect isManaged)

/-- A step leaves a session in order, whether its command succeeds or fails. -/
theorem advances_step (inOrder : InOrder [] session) (isManaged : next.command.isManaged = true) :
    Advances session (fun number => session.operations number next) (session.step next).2 := by
  have indirect : (∀ number action, next.command ≠ .caller number action) →
      (∀ number, session.operations number next =
        (((session.step next).2.host.simulator number).calls.drop
          (session.host.simulator number).calls.length).map .call) →
      Advances session (fun number => session.operations number next) (session.step next).2 := by
    intro indirect recorded
    obtain ⟨after, went⟩ := (leaves_step inOrder indirect isManaged).inOrder
    constructor
    case inOrder => exact after
    case known => exact went.known
    case follows =>
      intro number
      obtain ⟨calls, same, follows⟩ := went.recorded number
      rw [recorded, same, List.drop_left]
      exact follows
  obtain ⟨command, name⟩ := next
  cases command with
  | caller number action =>
      apply advances_caller inOrder
      rintro entryPoint error rfl
      exact Option.isNone_iff_eq_none.mp isManaged
  | _ =>
      apply indirect
      · exact fun _ _ => nofun
      · exact fun _ => rfl

/-- So do the steps of a run. -/
theorem advances_run {steps : List Step} (inOrder : InOrder [] session)
    (isManaged : ∀ next ∈ steps, next.command.isManaged = true) :
    Advances session (fun number => session.history number steps) (session.run steps).2 := by
  induction steps generalizing session with
  | nil =>
      constructor
      case inOrder => exact inOrder
      case known => exact fun _ known => known
      case follows => exact fun number => .of_simulators rfl number
  | cons next steps ih =>
      obtain ⟨isFirst, areRest⟩ := List.forall_mem_cons.mp isManaged
      have first := advances_step inOrder isFirst
      have rest := ih first.inOrder areRest
      constructor
      case inOrder => exact rest.inOrder
      case known => exact fun number known => rest.known number (first.known number known)
      case follows =>
        exact fun number =>
          (first.follows number).trans (first.known number) (rest.known number) (rest.follows number)

/-! ## Openings -/

section Opening

variable {ε : Type} {start host : Host} {configs : List SimulatorConfig} {size : Nat}

/-- The backends that were given are there, with their configurations. -/
def Offers (host : Host) (configs : List SimulatorConfig) : Prop :=
  ∀ number config, configs[number]? = some config →
    number ∈ host.simulators.keys ∧ (host.simulator number).config = config

theorem Offers.extends {after : Host} (offers : Offers host configs) (grown : Extends host after) :
    Offers after configs := by
  intro number config isConfig
  obtain ⟨known, equal⟩ := offers number config isConfig
  obtain ⟨known', same⟩ := grown number known
  exact ⟨known', same ▸ equal⟩

theorem Offers.length_le (offers : Offers host configs)
    (keys : host.simulators.keys = List.range size) : configs.length ≤ size := by
  by_contra fewer
  rw [Nat.not_le] at fewer
  have known := (offers size configs[size] (List.getElem?_eq_getElem fewer)).1
  rw [keys, List.mem_range] at known
  exact Nat.lt_irrefl size known

/-- The given backends are set up one after another. -/
theorem ends_setUpAll (cares : Cares start [] { session with host })
    (keys : host.simulators.keys = List.range size) :
    Ends (setUpAll configs : EStateM ε Host Unit) host
      (fun _ after => Cares start [] { session with host := after } ∧ Extends host after ∧
        after.simulators.keys = List.range (size + configs.length) ∧
        ∀ number config, configs[number]? = some config →
          (after.simulator (size + number)).config = config)
      (fun _ _ => False) := by
  induction configs generalizing host size with
  | nil => exact ⟨cares, .refl host, keys, fun _ _ => nofun⟩
  | cons config configs ih =>
      apply (ends_setUp cares).bind
      rintro number middle ⟨cares, -, grown, keys', keysAfter, isConfig⟩
      obtain rfl : number = size := by
        have lengths := congrArg List.length (keys'.symm.trans keys)
        rwa [List.length_range, List.length_range] at lengths
      apply (ih cares keysAfter).imp
      · rintro _ after ⟨cares, grown', keys, configs⟩
        refine ⟨cares, grown.trans grown', ?_, ?_⟩
        · rw [keys, List.length_cons]
          congr 1
          omega
        · intro index config' found
          cases index with
          | zero =>
              obtain rfl := Option.some.inj found
              have known : number ∈ middle.simulators.keys := by
                rw [keysAfter, List.mem_range]
                exact Nat.lt_succ_self number
              rw [Nat.add_zero, (grown' number known).2, isConfig]
          | succ index =>
              rw [← configs index config' found]
              congr 2
              omega
      · exact fun _ _ => False.elim

/-- A registry whose plan matches the backends suits them. -/
theorem ends_fill {environment : Text.Environment} {plan : RegistryPlan}
    (cares : Cares start [] { session with host }) (offers : Offers host configs)
    (isMatch : plan.Matches configs) :
    Ends (plan.fill environment : EStateM ε Host Registry) host
      (fun registry after => Cares start [] { session with host := after } ∧
        Extends host after ∧ registry.Suits after)
      (fun _ _ => False) := by
  -- The registry of reference backends is not to be evaluated.
  have makes : Cares start [] { session with host } →
      Ends (referenceRegistry environment : EStateM ε Host Registry) host
        (fun registry after => Cares start [] { session with host := after } ∧
          after.held = host.held ∧ Extends host after ∧ registry.Suits after)
        (fun _ _ => False) :=
    @ends_referenceRegistry _ start host session environment
  unfold RegistryPlan.fill
  generalize (referenceRegistry environment : EStateM ε Host Registry) = making at makes ⊢
  cases plan with
  | reference =>
      apply (makes cares).imp
      · exact fun _ _ ended => ⟨ended.1, ended.2.2⟩
      · exact fun _ _ => False.elim
  | listed registrations options =>
      have suits : ∀ registration ∈ registrations, registration.Suits host := by
        intro registration member
        obtain ⟨config, isConfig, needs⟩ := Option.map_eq_some_iff.mp (isMatch registration member)
        obtain ⟨known, equal⟩ := offers _ config isConfig
        refine ⟨known, ?_⟩
        rw [equal]
        exact needs.symm
      apply (ends_registerAll (suits_empty options) suits).imp
      · rintro registry after ⟨suits, simulators, held⟩
        have since : host.Since none _ after := (Host.Since.refl cares.holds).of_simulators simulators
        exact ⟨cares.since since held rfl, .of_simulators simulators, suits_since suits since⟩
      · exact fun _ _ => False.elim

/-- All registries are filled, and suit the backends that are there in the end. -/
theorem ends_fillAll {environment : Text.Environment} {next : Nat} {plans : List RegistryPlan}
    (cares : Cares start [] { session with host }) (offers : Offers host configs)
    (areMatches : ∀ plan ∈ plans, plan.Matches configs) :
    Ends (fillAll environment next plans : EStateM ε Host (Ledger Nat Registry)) host
      (fun registries after => Cares start [] { session with host := after } ∧
        Extends host after ∧
        ∀ number registry, registries.get? number = some registry → registry.Suits after)
      (fun _ _ => False) := by
  induction plans generalizing host next with
  | nil => exact ⟨cares, .refl host, fun _ _ => nofun⟩
  | cons plan plans ih =>
      obtain ⟨isMatch, areRest⟩ := List.forall_mem_cons.mp areMatches
      apply (ends_fill cares offers isMatch).bind
      rintro registry middle ⟨cares, grown, suits⟩
      apply (ih cares (offers.extends grown) areRest).bind
      rintro registries after ⟨cares, grown', all⟩
      refine ⟨cares, grown.trans grown', ?_⟩
      intro number other found
      rw [Ledger.get?, Ledger.find] at found
      split at found
      · obtain rfl := Option.some.inj found
        exact suits_extends suits grown'
      · exact all number other found

theorem cares_empty : Cares {} [] ({} : Session) := by
  have unknown : ∀ {κ α : Type} [DecidableEq κ] (key : κ), ({} : Ledger κ α).get? key = none :=
    fun _ => rfl
  constructor
  case toInOrder =>
    constructor
    case holds =>
      constructor
      case nodup => exact List.nodup_nil
      case live => exact fun _ => nofun
      case owned => exact fun _ _ _ => nofun
      case calm => exact fun _ _ _ => rfl
      case formed => exact fun _ => Store.wellFormed_empty
    case numbered => exact ⟨0, rfl, Nat.le_refl 0⟩
    case registries => exact fun _ _ => nofun
    case processWide => exact fun _ => nofun
    case distinct => exact List.nodup_nil
    case knows => exact fun _ => nofun
  case went => exact .of_simulators rfl
  case still => exact fun _ => nofun

/-- Registries that match the backends open a session in order. -/
theorem inOrder_opening {plans : List RegistryPlan} (environment : Text.Environment)
    (areMatches : ∀ plan ∈ plans, plan.Matches configs) :
    InOrder [] (opening configs plans environment) ∧
      Offers (opening configs plans environment).host configs := by
  have fills : Ends (do
        setUpAll configs
        fillAll environment 0 plans : EStateM Empty Host (Ledger Nat Registry)) {}
      (fun registries after => Cares {} [] { ({} : Session) with host := after } ∧
        Offers after configs ∧
        (∃ size, after.simulators.keys = List.range size ∧ configs.length ≤ size) ∧
        ∀ number registry, registries.get? number = some registry → registry.Suits after)
      (fun _ _ => False) := by
    have given : Ends (setUpAll configs : EStateM Empty Host Unit) {}
        (fun _ after => Cares {} [] { ({} : Session) with host := after } ∧ Extends {} after ∧
          after.simulators.keys = List.range (0 + configs.length) ∧
          ∀ number config, configs[number]? = some config →
            (after.simulator (0 + number)).config = config)
        (fun _ _ => False) :=
      @ends_setUpAll {} Empty {} {} configs 0 cares_empty rfl
    apply given.bind
    rintro _ middle ⟨cares, -, keys, isConfig⟩
    have offers : Offers middle configs := by
      intro number config found
      constructor
      · rw [keys, List.mem_range, Nat.zero_add]
        exact (List.getElem?_eq_some_iff.mp found).1
      · rw [← isConfig number config found, Nat.zero_add]
    have filled := @ends_fillAll {} Empty {} middle configs environment 0 plans cares offers areMatches
    apply filled.imp
    · rintro registries after ⟨cares, grown, suits⟩
      obtain ⟨size, keysAfter, -⟩ := cares.numbered
      have offers := offers.extends grown
      exact ⟨cares, offers, ⟨size, keysAfter, offers.length_le keysAfter⟩, suits⟩
    · exact fun _ _ => False.elim
  obtain ⟨registries, host, ⟨cares, offers, ⟨size, keys, given⟩, suits⟩, isOpening⟩ :=
    Host.exists_opening fills
  rw [isOpening]
  constructor
  · exact ⟨cares.holds, ⟨size, keys, given⟩, suits, fun _ => nofun, cares.distinct, cares.knows⟩
  · exact offers

/-- No backend of an opening has taken an operation. -/
theorem fresh_opening (configs : List SimulatorConfig) (plans : List RegistryPlan)
    (environment : Text.Environment) :
    ∀ number, ∃ config,
      (opening configs plans environment).host.simulator number = { config } := by
  have begins : Host.Begins fun host => ∀ number, ∃ config, host.simulator number = { config } := by
    constructor
    case setUp =>
      intro host config fresh number
      rw [Host.simulator, Ledger.get?_set]
      split
      · exact ⟨config, rfl⟩
      · exact fresh number
    case other =>
      intro host after same _ _ _ fresh number
      rw [Host.simulator_of_simulators same]
      exact fresh number
  exact begins.opening (fun _ => ⟨.cuda, rfl⟩) configs plans environment

end Opening

/-! ## Releasing exactly once -/

/-- The counted wrappers of all backends are exactly those that the owners hold that are alive: each
has one owner and one reference. -/
structure InCustody (session : Session) : Prop where
  live : ∀ owner ∈ session.host.owners, ∀ token ∈ owner.tokens,
    (session.host.simulator token.simulator).Counts token.kind token.id 1
  distinct : ∀ owner ∈ session.host.owners, owner.tokens.Nodup
  owned : ∀ number id wrapper,
    (session.host.simulator number).store.wrappers.get? id = some wrapper →
    wrapper.data.kind.isCounted = true →
    wrapper.refs = 1 ∧ ∃! owner, owner ∈ session.host.owners ∧
      ⟨number, wrapper.data.kind, id⟩ ∈ owner.tokens

theorem nodup_tokens {owners : List Owner} (nodup : (tokensOf owners).Nodup) {owner : Owner}
    (member : owner ∈ owners) : owner.tokens.Nodup :=
  (List.nodup_flatMap.mp nodup).1 owner ((mem_lastOccurrences owner owners).mpr member)

/-- No two owners hold the same wrapper. -/
theorem owner_unique {owners : List Owner} (nodup : (tokensOf owners).Nodup)
    {owner other : Owner} {token : Token} (member : owner ∈ owners) (isOther : other ∈ owners)
    (held : token ∈ owner.tokens) (held' : token ∈ other.tokens) : owner = other := by
  by_contra different
  rw [← mem_lastOccurrences] at member isOther
  have symmetric : Std.Symm (Function.onFun List.Disjoint Owner.tokens) :=
    ⟨fun _ _ disjoint _ held held' => disjoint held' held⟩
  exact (List.nodup_flatMap.mp nodup).2.forall member isOther different held held'

/-- What holds in between the commands says where the counted wrappers are. -/
theorem InOrder.inCustody (inOrder : InOrder [] session) : session.InCustody := by
  have holds := inOrder.holds
  rw [List.nil_append] at holds
  constructor
  case live =>
    intro owner member token held
    exact holds.live token (mem_tokensOf.mpr ⟨owner, member, held⟩)
  case distinct => exact fun owner member => nodup_tokens holds.nodup member
  case owned =>
    intro number id wrapper found counted
    have listed := holds.owned number id wrapper found counted
    obtain ⟨wrapper', found', -, refs⟩ := holds.live _ listed
    obtain rfl := Option.some.inj (found.symm.trans found')
    obtain ⟨owner, member, held⟩ := mem_tokensOf.mp listed
    refine ⟨refs, owner, ⟨member, held⟩, ?_⟩
    rintro other ⟨isOther, held'⟩
    exact owner_unique holds.nodup isOther member held' held

end Session

/-- Over a history of a backend, every wrapper that has ended has been released by one call, no
release has failed at its wrapper, and the references to every native object add up. -/
structure Simulator.ReleasesOnce (sim : Simulator) (history : List Simulator.Operation) : Prop where
  once : ∀ first second id, history = first ++ second →
    (sim.replay first).store.wrappers.get? id ≠ none →
    history.countP (Operation.releases id) =
      if (sim.replay history).store.wrappers.contains id then 0 else 1
  succeeds : ∀ first second call kind id, history = first ++ .call call :: second →
    call.counted? = some (.release, kind, id) →
    Ends (answer call) (sim.replay first) (fun _ _ => True)
      (fun e _ => ∃ native, e = .invalidNativeHandle "object" native)
  balanced : ∀ first second handle, history = first ++ second →
    (sim.replay first).store.natives.get? handle ≠ none →
    (sim.replay history).store.refsTo handle + sim.tally (returns handle) history +
        sim.tally (surrenders handle) history = 1 + sim.tally (takes handle) history ∧
      ((sim.replay history).isAlive handle = true ↔
        0 < (sim.replay history).store.refsTo handle)

theorem Simulator.Clean.releasesOnce {config : SimulatorConfig} {history : List Operation}
    (clean : ({ config } : Simulator).Clean history) :
    ({ config } : Simulator).ReleasesOnce history := by
  have formed : ({ config } : Simulator).store.WellFormed := Store.wellFormed_empty
  constructor
  case once =>
    intro first second id isSplit live
    exact releases_of_lived formed clean isSplit live
  case succeeds =>
    intro first second call kind id isSplit counted
    exact ends_release_of_clean clean isSplit counted
  case balanced =>
    intro first second handle isSplit live
    constructor
    · exact balance_of_lived formed clean rfl isSplit live
    · exact isAlive_iff (wellFormed_replay formed history)

namespace Session

/-- In every session of managed operations, where the tables that are registered demand a reference
exactly where their backends take none, the counted wrappers are those that living owners hold, each
with one owner and one reference.  From its beginning to where it is, every backend has released each
wrapper that has ended once. -/
theorem released_exactly_once {configs : List SimulatorConfig} {plans : List RegistryPlan}
    {steps : List Step} (environment : Text.Environment)
    (areMatches : ∀ plan ∈ plans, plan.Matches configs)
    (areManaged : ∀ next ∈ steps, next.command.isManaged = true) :
    ((opening configs plans environment).run steps).2.InCustody ∧
      ∀ number, ∃ config, (∀ given, configs[number]? = some given → given = config) ∧
        ((opening configs plans environment).run steps).2.host.simulator number =
          ({ config } : Simulator).replay
            ((opening configs plans environment).history number steps) ∧
        ({ config } : Simulator).ReleasesOnce
          ((opening configs plans environment).history number steps) := by
  obtain ⟨inOrder, offers⟩ := inOrder_opening environment areMatches
  have fresh := fresh_opening configs plans environment
  have advances := advances_run inOrder areManaged
  refine ⟨advances.inOrder.inCustody, ?_⟩
  intro number
  obtain ⟨config, equal, clean⟩ := (advances.follows number).led
  by_cases known : (opening configs plans environment).host.simulators.get? number = none
  · rw [Host.origin_of_unknown config known] at equal clean
    refine ⟨config, ?_, equal, clean.releasesOnce⟩
    intro given isGiven
    exact absurd known (Ledger.get?_ne_none_of_mem (offers number given isGiven).1)
  · rw [Host.origin_of_known config known] at equal clean
    obtain ⟨first, isFresh⟩ := fresh number
    rw [isFresh] at equal clean
    refine ⟨first, ?_, equal, clean.releasesOnce⟩
    intro given isGiven
    rw [← (offers number given isGiven).2, isFresh]

/-- A session that takes a program over, which is linked on its way. -/
def linking : List Step :=
  [⟨.caller 0 .createPlatform, none⟩,
    ⟨.caller 0 (.createDevice ⟨4096⟩), none⟩,
    ⟨.caller 0 (.createContext [⟨4097⟩]), none⟩,
    ⟨.caller 0 (.createProgram [⟨4097⟩] .object ["axpy"]), none⟩,
    ⟨.makeContext (some 0) ⟨4098⟩ .openCl, some "context"⟩,
    ⟨.importProgram (some 0) ⟨4099⟩ "context" false .executable .openCl, some "bundle"⟩]

/-- The bundle outlives its first name. -/
def dropping : List Step :=
  [⟨.drop "context", none⟩, ⟨.copy "bundle", some "copy"⟩, ⟨.drop "bundle", none⟩,
    ⟨.drop "copy", none⟩]

/-- An empty session over one backend. -/
def single : Session :=
  opening [.openCl] [.listed [{ backend := .openCl, table := { simulator := 0 } }] {}] {}

/-- The wrapper of the program that the link has replaced is released once. -/
theorem released_exactly_once_linking :
    (single.run (linking ++ dropping)).2.InCustody ∧
      (single.history 0 (linking ++ dropping)).countP (Simulator.Operation.releases 2) = 1 := by
  have areMatches : ∀ plan ∈ [RegistryPlan.listed
      [{ backend := .openCl, table := { simulator := 0 } }] {}], plan.Matches [.openCl] := by
    intro plan member
    obtain rfl := List.mem_singleton.mp member
    intro registration member
    obtain rfl := List.mem_singleton.mp member
    rfl
  have areManaged : ∀ next ∈ linking ++ dropping, next.command.isManaged = true := by
    decide +kernel
  have live : (({ config := .openCl } : Simulator).replay
      (single.history 0 linking)).store.wrappers.contains 2 = true := by decide +kernel
  have ended : (({ config := .openCl } : Simulator).replay
      (single.history 0 (linking ++ dropping))).store.wrappers.contains 2 = false := by
    decide +kernel
  rw [Ledger.contains, Option.isSome_iff_ne_none] at live
  unfold single at live ended ⊢
  obtain ⟨inCustody, backends⟩ := released_exactly_once {} areMatches areManaged
  constructor
  · exact inCustody
  · obtain ⟨config, isConfig, -, once⟩ := backends 0
    have isOpenCl : config = .openCl := (isConfig .openCl rfl).symm
    rw [isOpenCl] at once
    rw [once.once _ _ 2 history_append live, ended]
    rfl

end Session

end ComputeImport
