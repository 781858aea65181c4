import ComputeImport.Proofs.Session.Release

/-!
# Children are released before their context

A queue, an event and a kernel keep the context that they were imported against.  At every moment of
a session of managed operations a live wrapper has one owner, and it has had the same one since it was
made.  A value that is let go ends a queue, an event or a kernel before its context, so that no wrapper
of theirs is live when the context is released.  Images keep no context, and a program may outlive the
one it was imported against.
-/

namespace ComputeImport

open Host

/-! ## Objects that keep a context -/

/-- The context that an object keeps because it was imported against it. -/
def Owner.context? : Owner → Option Context
  | queue held => some held.context
  | event held => some held.context
  | kernel held => some held.context
  | context _ | image _ => none

theorem KernelBundle.context?_eq_none {bundle : KernelBundle} {owner : Owner}
    (member : owner ∈ bundle.owners) : owner.context? = none := by
  rcases List.mem_cons.mp member with rfl | member
  · rfl
  · obtain ⟨image, -, rfl⟩ := List.mem_map.mp member
    rfl

/-- A value that leads to an object with a context is that object.  It leads to the context next, and
not to the object again. -/
theorem Managed.owners_of_child {value : Managed} {child : Owner} {context : Context}
    (member : child ∈ value.owners) (depends : child.context? = some context) :
    ∃ rest, value.owners = child :: rest ∧ .context context ∈ rest ∧ child ∉ rest := by
  have contextless : ∀ {owner : Owner}, owner.context? = none → child ≠ owner := by
    rintro owner none rfl
    rw [none] at depends
    contradiction
  cases value with
  | queue held =>
      rcases List.mem_cons.mp member with rfl | member
      · obtain rfl := Option.some.inj depends
        exact ⟨_, rfl, List.mem_cons_self, by simp⟩
      · exact absurd (List.mem_singleton.mp member) (contextless rfl)
  | event held =>
      rcases List.mem_cons.mp member with rfl | member
      · obtain rfl := Option.some.inj depends
        exact ⟨_, rfl, List.mem_cons_self, by simp⟩
      · exact absurd (List.mem_singleton.mp member) (contextless rfl)
  | kernel held =>
      have others : ∀ owner ∈ Owner.context held.context :: held.bundle.owners,
          owner.context? = none :=
        List.forall_mem_cons.mpr ⟨rfl, fun _ => KernelBundle.context?_eq_none⟩
      rcases List.mem_cons.mp member with rfl | member
      · obtain rfl := Option.some.inj depends
        exact ⟨_, rfl, List.mem_cons_self, fun again => contextless (others _ again) rfl⟩
      · exact absurd rfl (contextless (others child member))
  | bundle held => exact absurd rfl (contextless (KernelBundle.context?_eq_none member))
  | context _ | image _ => exact absurd (List.mem_singleton.mp member) (contextless rfl)
  | platform _ | device _ | provider _ => contradiction

/-- What is held with an object leads to the object's context. -/
theorem Host.context_mem_owners {host : Host} {child : Owner} {context : Context}
    (member : child ∈ host.owners) (depends : child.context? = some context) :
    .context context ∈ host.owners := by
  obtain ⟨value, isHeld, member⟩ := List.mem_flatMap.mp member
  obtain ⟨rest, isRest, isContext, -⟩ := Managed.owners_of_child member depends
  apply List.mem_flatMap.mpr ⟨value, isHeld, ?_⟩
  rw [isRest]
  exact List.mem_cons_of_mem child isContext

theorem Owner.isCounted {owner : Owner} {token : Token} (member : token ∈ owner.tokens) :
    token.kind.isCounted = true := by
  cases owner with
  | image held =>
      obtain ⟨program, -, rfl⟩ := List.mem_map.mp member
      rfl
  | _ =>
      obtain rfl := List.mem_singleton.mp member
      rfl

/-! ## One owner for good -/

namespace Host

variable {start host after : Host} {owners owners' : List Owner} {owner child : Owner}
  {context : Context} {value : Managed}

/-- An owner of wrappers that have been made.  Where one of them is live still, the owner is among
those that are alive. -/
structure Tracks (host : Host) (owners : List Owner) (owner : Owner) : Prop where
  known : ∀ token ∈ owner.tokens, host.simulators.get? token.simulator ≠ none
  used : ∀ token ∈ owner.tokens,
    token.id < (host.simulator token.simulator).store.nextWrapper
  held : ∀ token ∈ owner.tokens,
    (host.simulator token.simulator).store.wrappers.get? token.id ≠ none → owner ∈ owners

theorem Holds.tracks (holds : Holds none (tokensOf owners) host) (member : owner ∈ owners) :
    host.Tracks owners owner := by
  have listed : ∀ token ∈ owner.tokens, token ∈ tokensOf owners :=
    fun token isToken => mem_tokensOf.mpr ⟨owner, member, isToken⟩
  constructor
  case known => exact fun token isToken => holds.known (listed token isToken)
  case used =>
    intro token isToken
    obtain ⟨wrapper, found, -⟩ := holds.live token (listed token isToken)
    exact (holds.formed _).wrapper_lt _ wrapper found
  case held => exact fun _ _ _ => member

/-- An owner stays alive with its wrappers as long as the others that are alive do. -/
theorem Tracks.follow (tracks : start.Tracks owners owner)
    (formed : ∀ number, (start.simulator number).store.WellFormed)
    (known : ∀ number, start.simulators.get? number ≠ none → host.simulators.get? number ≠ none)
    (follows : ∀ number, ∃ operations, start.Follows host number operations)
    (still : ∀ other ∈ owners, other ∈ owners') : host.Tracks owners' owner := by
  constructor
  case known => exact fun token member => known _ (tracks.known token member)
  case used =>
    intro token member
    obtain ⟨operations, follows⟩ := follows token.simulator
    exact Nat.lt_of_lt_of_le (tracks.used token member) (follows.nextWrapper_le (formed _))
  case held =>
    intro token member live
    obtain ⟨operations, follows⟩ := follows token.simulator
    obtain ⟨wrapper, found⟩ := Option.ne_none_iff_exists'.mp live
    obtain ⟨refs, found⟩ := follows.wrapper_eq (formed _) (tracks.used token member) found
    apply still
    apply tracks.held token member
    rw [found]
    exact Option.some_ne_none _

/-- An owner that nothing leads to any more has no live wrapper. -/
theorem Tracks.narrow (tracks : host.Tracks owners owner) (holds : Holds none (tokensOf owners) host)
    (holds' : Holds none (tokensOf owners') after) (went : host.Went after)
    (fewer : ∀ other ∈ owners', other ∈ owners) : after.Tracks owners' owner := by
  have follows : ∀ number, ∃ operations, host.Follows after number operations := by
    intro number
    obtain ⟨calls, follows⟩ := went.clean number
    exact ⟨_, follows⟩
  have followed : after.Tracks owners owner :=
    tracks.follow holds.formed went.known follows fun _ member => member
  refine ⟨followed.known, followed.used, ?_⟩
  intro token isToken live
  have member := followed.held token isToken live
  obtain ⟨wrapper, found⟩ := Option.ne_none_iff_exists'.mp live
  -- The number has named a wrapper of the token's kind, and still does.
  have isKind : wrapper.data.kind = token.kind := by
    obtain ⟨first, first_found, isKind, -⟩ :=
      holds.live token (mem_tokensOf.mpr ⟨owner, member, isToken⟩)
    obtain ⟨operations, follows⟩ := follows token.simulator
    obtain ⟨refs, old_found⟩ :=
      follows.wrapper_eq (holds.formed _) (tracks.used token isToken) found
    obtain rfl := Option.some.inj (first_found.symm.trans old_found)
    exact isKind
  have listed : token ∈ tokensOf owners' := by
    have counted := Owner.isCounted isToken
    rw [← isKind] at counted
    have listed := holds'.owned token.simulator token.id wrapper found counted
    rw [isKind] at listed
    exact listed
  obtain ⟨other, isOther, held⟩ := mem_tokensOf.mp listed
  rw [Session.owner_unique holds.nodup member (fewer other isOther) isToken held]
  exact isOther

/-- When a value is let go that is an object with a context, the object is released first.  Then its
wrapper has ended, and that of the context has not. -/
theorem went_release_child (holds : Holds none (tokensOf (value.owners ++ host.owners)) host)
    (member : child ∈ value.owners) (depends : child.context? = some context)
    (unheld : child ∉ host.owners) :
    ∃ living, host.Went (child.release host) ∧ (child.release host).Went (host.letGo value) ∧
      Holds none (tokensOf living) (child.release host) ∧ .context context ∈ living ∧
      child ∉ living ∧ ∀ other ∈ living, other ∈ value.owners ++ host.owners := by
  obtain ⟨rest, isRest, isContext, single⟩ := Managed.owners_of_child member depends
  rw [isRest] at holds ⊢
  have isNew : child ∉ rest ++ host.owners := by
    rw [List.mem_append]
    exact fun member => member.elim single unheld
  have tokens : tokensOf (child :: rest ++ host.owners) =
      child.tokens ++ tokensOf (rest ++ host.owners) := by
    rw [List.cons_append, tokensOf, lastOccurrences, if_neg isNew]
    rfl
  have ending : value.ending host.held.values =
      child :: lastOccurrences (rest.filter fun owner => owner ∉ host.owners) := by
    have kept : (child :: rest).filter (fun owner => owner ∉ host.owners) = _ :=
      List.filter_cons_of_pos (decide_eq_true unheld)
    rw [Managed.ending, isRest]
    exact (congrArg lastOccurrences kept).trans
      (if_neg fun again => single (List.mem_of_mem_filter again))
  rw [tokens] at holds
  have released := (Since.refl holds).releaseOwner
  refine ⟨rest ++ host.owners, released.went, ?_, released.toHolds,
    List.mem_append_left _ isContext, isNew, fun other => List.mem_cons_of_mem child⟩
  have since := Since.refl released.toHolds
  rw [tokensOf_append] at since
  rw [letGo, ending]
  exact since.releaseOwners.went

end Host

namespace Session

variable {start : Host} {session after : Session} {next : Step} {shown pending : List Owner}
  {owner child : Owner} {context : Context}

/-! ## Steps and runs -/

theorem Cares.tracks (cares : Cares session.host pending after) (inOrder : InOrder [] session)
    (source : owner ∈ pending ++ after.host.owners ∨
      session.host.Tracks session.host.owners owner) :
    after.host.Tracks (pending ++ after.host.owners) owner := by
  rcases source with member | tracks
  · exact cares.holds.tracks member
  · apply tracks.follow inOrder.holds.formed cares.went.known _ cares.still
    intro number
    obtain ⟨calls, follows⟩ := cares.went.clean number
    exact ⟨_, follows⟩

/-- A command that shows an owner, or is given one, leaves its wrappers with it. -/
theorem Leaves.tracks (leaves : Leaves session.host shown after) (inOrder : InOrder [] session)
    (source : owner ∈ shown ∨ session.host.Tracks session.host.owners owner) :
    after.host.Tracks after.host.owners owner := by
  have ended := leaves.inOrder
  cases leaves with
  | kept cares led =>
      exact cares.tracks inOrder (source.imp_left (led owner))
  | letGo cares led =>
      have tracks := cares.tracks inOrder (source.imp_left (led owner))
      apply tracks.narrow cares.holds ended.1.holds (Since.refl cares.holds).letGo.went
      intro other member
      rw [owners_of_held (held_letGo _ _)] at member
      exact List.mem_append_right _ member

/-- What the caller does directly leaves what is held as it is. -/
theorem step_caller {number : Nat} {action : CallerAction} {name : Option String} :
    Session.shown (session.step ⟨.caller number action, name⟩).1 = [] ∧
      (session.step ⟨.caller number action, name⟩).2.host.held = session.host.held := by
  refine @step_of_ends session ⟨.caller number action, name⟩
    (fun outcome after => Session.shown outcome = [] ∧ after.host.held = session.host.held) ?_
  apply (ends_checkSimulator.imp (fun _ _ checked => checked) ?_).bind
  · rintro _ _ ⟨rfl, -⟩
    rw [ends_table, ends_onSimulator]
    apply (ends_act_bare action _).imp
    · exact fun _ _ bare => ⟨Reply.owners_of_plain (Reply.values_of_isBare bare), rfl⟩
    · exact fun _ _ _ => ⟨rfl, rfl⟩
  · rintro _ _ ⟨rfl, -⟩
    exact ⟨rfl, rfl⟩

theorem tracks_step (inOrder : InOrder [] session) (isManaged : next.command.isManaged = true)
    (source : owner ∈ Session.shown (session.step next).1 ∨
      session.host.Tracks session.host.owners owner) :
    (session.step next).2.host.Tracks (session.step next).2.host.owners owner := by
  by_cases direct : ∃ number action, next.command = .caller number action
  · obtain ⟨command, name⟩ := next
    obtain ⟨number, action, rfl⟩ := direct
    have advances := advances_step inOrder isManaged
    obtain ⟨plain, held⟩ := @step_caller session number action name
    rw [plain] at source
    rw [owners_of_held held]
    exact (source.resolve_left List.not_mem_nil).follow inOrder.holds.formed advances.known
      (fun number => ⟨_, advances.follows number⟩) fun _ member => member
  · have indirect : ∀ number action, next.command ≠ .caller number action :=
      fun number action same => direct ⟨number, action, same⟩
    exact (leaves_step inOrder indirect isManaged).tracks inOrder source

theorem tracks_run {steps : List Step} (inOrder : InOrder [] session)
    (areManaged : ∀ next ∈ steps, next.command.isManaged = true)
    (source : (∃ outcome ∈ (session.run steps).1, owner ∈ Session.shown outcome) ∨
      session.host.Tracks session.host.owners owner) :
    (session.run steps).2.host.Tracks (session.run steps).2.host.owners owner := by
  induction steps generalizing session with
  | nil => exact source.resolve_left fun ⟨_, made, _⟩ => List.not_mem_nil made
  | cons next steps ih =>
      obtain ⟨isFirst, areRest⟩ := List.forall_mem_cons.mp areManaged
      apply ih (advances_step inOrder isFirst).inOrder areRest
      rcases source with ⟨outcome, made, member⟩ | tracks
      · rcases List.mem_cons.mp made with rfl | made
        · exact .inr (tracks_step inOrder isFirst (.inl member))
        · exact .inl ⟨outcome, made, member⟩
      · exact .inr (tracks_step inOrder isFirst (.inr tracks))

/-! ## The moment of a release -/

/-- A step that calls a backend is one that records its calls. -/
theorem operations_of_call {number : Nat} {call : Call}
    (member : .call call ∈ session.operations number next) :
    (∀ number action, next.command ≠ .caller number action) ∧
      session.operations number next =
        (((session.step next).2.host.simulator number).calls.drop
          (session.host.simulator number).calls.length).map .call := by
  obtain ⟨command, name⟩ := next
  cases command with
  | caller other action =>
      rw [operations_caller] at member
      split at member
      · cases List.mem_singleton.mp member
      · contradiction
  | _ => exact ⟨fun _ _ => nofun, rfl⟩

/-- An owner that is not alive has ended before the calls since the start. -/
theorem Cares.ended (cares : Cares session.host pending after)
    (source : owner ∈ pending ++ after.host.owners ∨
      session.host.Tracks session.host.owners owner)
    (absent : owner ∉ pending ++ after.host.owners) :
    session.host.Tracks session.host.owners owner ∧ owner ∉ session.host.owners :=
  ⟨source.resolve_left absent, fun member => absent (cares.still owner member)⟩

/-- On the way from a start, no wrapper of a child is live at a host, and a context has not been
released before. -/
structure Survives (start after : Host) (child : Owner) (context : Context) (host : Host) : Prop
    where
  went : start.Went host
  goes : host.Went after
  formed : ∀ number, (host.simulator number).store.WellFormed
  known : ∀ token ∈ child.tokens, host.simulators.get? token.simulator ≠ none
  used : ∀ token ∈ child.tokens,
    token.id < (host.simulator token.simulator).store.nextWrapper
  ended : ∀ token ∈ child.tokens,
    (host.simulator token.simulator).store.wrappers.get? token.id = none
  unreleased : .contextRelease context.handle ∉
    (host.simulator context.provider.table.simulator).calls.drop
      (start.simulator context.provider.table.simulator).calls.length

/-- A wrapper that is live has not been released. -/
theorem uncalled_of_live {host : Host} (went : start.Went host) {number : Nat}
    (formed : (start.simulator number).store.WellFormed) {call : Call} {kind : ObjectKind} {id : Nat}
    (counted : call.counted? = some (.release, kind, id))
    (live : (host.simulator number).store.wrappers.get? id ≠ none) :
    call ∉ (host.simulator number).calls.drop (start.simulator number).calls.length := by
  obtain ⟨calls, recorded, follows⟩ := went.recorded number
  obtain ⟨config, equal, clean⟩ := follows.led
  rw [recorded, List.drop_left]
  rw [equal] at live
  rw [← store_origin config] at formed
  have none := Simulator.releases_of_lives_on formed clean live
  rw [List.countP_eq_zero] at none
  exact fun called => none _ (List.mem_map_of_mem called)
    (Simulator.releases_iff.mpr ⟨call, kind, rfl, counted⟩)

theorem ended_of_tracks {host : Host} {owners : List Owner} (tracks : host.Tracks owners owner)
    (absent : owner ∉ owners) : ∀ token ∈ owner.tokens,
      (host.simulator token.simulator).store.wrappers.get? token.id = none := by
  intro token member
  by_contra live
  exact absent (tracks.held token member live)

/-- Where a step ends a context, the context has survived its children. -/
theorem Leaves.survives (leaves : Leaves session.host shown after) (inOrder : InOrder [] session)
    (source : child ∈ shown ∨ session.host.Tracks session.host.owners child)
    (depends : child.context? = some context)
    (ended : (after.host.simulator context.provider.table.simulator).store.wrappers.get?
      context.handle.id = none) :
    ∃ host, Survives session.host after.host child context host := by
  have live : ∀ {host : Host} {owners : List Owner}, Holds none (tokensOf owners) host →
      .context context ∈ owners →
      (host.simulator context.provider.table.simulator).store.wrappers.get?
        context.handle.id ≠ none := by
    intro host owners holds member
    obtain ⟨wrapper, found, -⟩ :=
      holds.live _ (mem_tokensOf.mpr ⟨.context context, member, List.mem_cons_self⟩)
    exact Option.ne_none_iff_exists'.mpr ⟨wrapper, found⟩
  obtain ⟨inOrder', went⟩ := leaves.inOrder
  have gone : child ∉ after.host.owners :=
    fun member => live inOrder'.holds (context_mem_owners member depends) ended
  -- A child that has not been alive during the step had ended before it.
  have before : session.host.Tracks session.host.owners child ∧ child ∉ session.host.owners →
      Survives session.host after.host child context session.host :=
    fun ⟨tracks, absent⟩ => ⟨.of_simulators rfl, went, inOrder.holds.formed, tracks.known,
      tracks.used, ended_of_tracks tracks absent, by simp⟩
  cases leaves with
  | kept cares led => exact ⟨_, before (cares.ended (source.imp_left (led child)) gone)⟩
  | @letGo middle value cares led =>
      replace source := source.imp_left (led child)
      rw [owners_of_held (held_letGo _ _)] at gone
      by_cases member : child ∈ value.owners
      · obtain ⟨living, went, goes, holds, isContext, absent, fewer⟩ :=
          Host.went_release_child cares.holds member depends gone
        have tracks := (cares.tracks inOrder source).narrow cares.holds holds went fewer
        have went := cares.went.trans went
        exact ⟨_, went, goes, holds.formed, tracks.known, tracks.used,
          ended_of_tracks tracks absent,
          uncalled_of_live went (inOrder.holds.formed _) rfl (live holds isContext)⟩
      · have absent : child ∉ value.owners ++ middle.host.owners := by
          rw [List.mem_append]
          exact fun either => either.elim member gone
        exact ⟨_, before (cares.ended source absent)⟩

/-- Where a context that survives a child is released, no wrapper of the child is live. -/
theorem Survives.ended_at {first last host : Host}
    (survives : Survives start last child context host) {token : Token}
    (member : token ∈ child.tokens) (own : token.simulator = context.provider.table.simulator)
    {history earlier later : List Simulator.Operation} {calls : List Call}
    (recorded : (last.simulator token.simulator).calls =
      (start.simulator token.simulator).calls ++ calls)
    (released : calls.map .call = earlier ++ .call (.contextRelease context.handle) :: later)
    (fresh : ∃ config, first.simulator token.simulator = { config })
    (follows : first.Follows start token.simulator history)
    (known : first.simulators.get? token.simulator ≠ none →
      start.simulators.get? token.simulator ≠ none) :
    (({ config := (last.simulator token.simulator).config } : Simulator).replay
      (history ++ earlier)).store.wrappers.get? token.id = none := by
  obtain ⟨prior, isPrior, went⟩ := survives.went.recorded token.simulator
  obtain ⟨rest, isRest, goes⟩ := survives.goes.recorded token.simulator
  have isCalls : calls = prior ++ rest := by
    rw [isRest, isPrior, List.append_assoc] at recorded
    exact (List.append_cancel_left recorded).symm
  have unreleased := survives.unreleased
  rw [← own, isPrior, List.drop_left] at unreleased
  obtain ⟨more, isEarlier, isMore⟩ : ∃ more, earlier = prior.map .call ++ more ∧
      rest.map .call = more ++ .call (.contextRelease context.handle) :: later := by
    rw [isCalls, List.map_append] at released
    rcases List.append_eq_append_iff.mp released with found | ⟨more, isPrior, isLater⟩
    · exact found
    · cases more with
      | nil =>
          rw [List.append_nil] at isPrior
          exact ⟨[], by rw [isPrior, List.append_nil], isLater.symm⟩
      | cons operation more =>
          obtain ⟨rfl, -⟩ := List.cons.inj isLater
          have called : .call (.contextRelease context.handle) ∈
              prior.map Simulator.Operation.call := by
            rw [isPrior]
            exact List.mem_append_right _ List.mem_cons_self
          obtain ⟨call, called, same⟩ := List.mem_map.mp called
          cases same
          exact absurd called unreleased
  have known' := survives.known token member
  obtain ⟨equal, -⟩ := (follows.trans known (survives.went.known _) went).begun fresh
  obtain ⟨config, -, clean⟩ := goes.led
  rw [origin_of_known config known', isMore] at clean
  have dead := (Simulator.releases_of_ended (survives.formed _) (Simulator.clean_append.mp clean).1
    (survives.used token member) (survives.ended token member)).2
  rw [goes.config_eq known', isEarlier, ← List.append_assoc, Simulator.replay_append, ← equal]
  exact dead

/-- In every session of managed operations, where the tables that are registered demand a reference
exactly where their backends take none: where a step releases a context, no wrapper is live of a queue,
an event or a kernel that has been imported against it.  Whatever the backend of such a wrapper, the
step comes to a state of all backends in which the wrapper has ended, and has not released the context
before. -/
theorem children_released_first {configs : List SimulatorConfig} {plans : List RegistryPlan}
    {steps : List Step} (environment : Text.Environment)
    (areMatches : ∀ plan ∈ plans, plan.Matches configs)
    (areManaged : ∀ step ∈ steps ++ [next], step.command.isManaged = true) {value : Managed}
    (made : .ok (.object value) ∈
      ((opening configs plans environment).run (steps ++ [next])).1)
    (isChild : child ∈ value.owners) (depends : child.context? = some context)
    {earlier later : List Simulator.Operation}
    (released : ((opening configs plans environment).run steps).2.operations
      context.provider.table.simulator next =
        earlier ++ .call (.contextRelease context.handle) :: later) :
    ∃ config,
      (∀ given, configs[context.provider.table.simulator]? = some given → given = config) ∧
      ((opening configs plans environment).run (steps ++ [next])).2.host.simulator
          context.provider.table.simulator =
        ({ config } : Simulator).replay ((opening configs plans environment).history
          context.provider.table.simulator (steps ++ [next])) ∧
      (∀ token ∈ child.tokens, token.simulator = context.provider.table.simulator →
        (({ config } : Simulator).replay ((opening configs plans environment).history
          context.provider.table.simulator steps ++ earlier)).store.wrappers.get? token.id =
            none) ∧
      ∃ host, ((opening configs plans environment).run steps).2.host.Went host ∧
        host.Went ((opening configs plans environment).run (steps ++ [next])).2.host ∧
        (∀ token ∈ child.tokens,
          (host.simulator token.simulator).store.wrappers.get? token.id = none) ∧
        .contextRelease context.handle ∉
          (host.simulator context.provider.table.simulator).calls.drop
            (((opening configs plans environment).run steps).2.host.simulator
              context.provider.table.simulator).calls.length := by
  obtain ⟨inOrder, offers⟩ := inOrder_opening environment areMatches
  have fresh := fresh_opening configs plans environment
  generalize opening configs plans environment = first at *
  obtain ⟨areFirst, isNext⟩ := List.forall_mem_append.mp areManaged
  rw [List.forall_mem_singleton] at isNext
  have advances := advances_run inOrder areFirst
  have stepped := advances_step advances.inOrder isNext
  have source : child ∈ Session.shown ((first.run steps).2.step next).1 ∨
      (first.run steps).2.host.Tracks (first.run steps).2.host.owners child := by
    rw [run_append] at made
    rcases List.mem_append.mp made with made | made
    · exact .inr (tracks_run inOrder areFirst (.inl ⟨_, made, isChild⟩))
    · have isOutcome : ((first.run steps).2.step next).1 = .ok (.object value) :=
        (List.mem_singleton.mp made).symm
      rw [isOutcome]
      exact .inl isChild
  have called : .call (.contextRelease context.handle) ∈ (first.run steps).2.operations
      context.provider.table.simulator next := by
    rw [released]
    exact List.mem_append_right _ List.mem_cons_self
  obtain ⟨indirect, -⟩ := operations_of_call called
  have leaves := leaves_step advances.inOrder indirect isNext
  have ended : (((first.run steps).2.step next).2.host.simulator
      context.provider.table.simulator).store.wrappers.get? context.handle.id = none := by
    obtain ⟨config, equal, clean⟩ := (stepped.follows context.provider.table.simulator).led
    have formed := advances.inOrder.holds.formed context.provider.table.simulator
    rw [← store_origin config] at formed
    rw [equal]
    exact Simulator.ended_of_released formed clean released (beq_self_eq_true _)
  obtain ⟨host, survives⟩ := leaves.survives advances.inOrder source depends ended
  have follows := (advances.follows context.provider.table.simulator).trans (advances.known _)
    (stepped.known _) (stepped.follows context.provider.table.simulator)
  have isLast : (first.run (steps ++ [next])).2 = ((first.run steps).2.step next).2 := by
    rw [run_append]
    rfl
  rw [isLast]
  refine ⟨(((first.run steps).2.step next).2.host.simulator
    context.provider.table.simulator).config, ?_, ?_, ?_, host, survives.went, survives.goes,
    survives.ended, survives.unreleased⟩
  · intro given isGiven
    obtain ⟨known, same⟩ := offers _ given isGiven
    rw [follows.config_eq (Ledger.get?_ne_none_of_mem known), same]
  · rw [history_append, history, history, List.append_nil]
    exact (follows.begun (fresh _)).1
  · intro token member own
    rw [← own] at called released ⊢
    obtain ⟨calls, recorded, -⟩ := leaves.inOrder.2.recorded token.simulator
    rw [(operations_of_call called).2, recorded, List.drop_left] at released
    exact survives.ended_at member own recorded released (fresh _) (advances.follows _)
      (advances.known _)

theorem single_matches : ∀ plan ∈ [RegistryPlan.listed
    [{ backend := .openCl, table := { simulator := 0 } }] {}], plan.Matches [.openCl] := by
  intro plan member
  obtain rfl := List.mem_singleton.mp member
  intro registration member
  obtain rfl := List.mem_singleton.mp member
  rfl

/-- An event is all that leads to its context. -/
def waiting : List Step :=
  [⟨.caller 0 .createPlatform, none⟩,
    ⟨.caller 0 (.createDevice ⟨4096⟩), none⟩,
    ⟨.caller 0 (.createContext [⟨4097⟩]), none⟩,
    ⟨.caller 0 .createEvent, none⟩,
    ⟨.makeContext (some 0) ⟨4098⟩ .openCl, some "context"⟩,
    ⟨.makeEvent (some 0) ⟨4099⟩ "context" true .openCl, some "event"⟩,
    ⟨.drop "context", none⟩]

/-- The calls of a step that drops what is held under a name. -/
theorem operations_drop (session : Session) (value : String) (number : Nat) :
    session.operations number ⟨.drop value, none⟩ =
      (((session.step ⟨.drop value, none⟩).2.host.simulator number).calls.drop
        (session.host.simulator number).calls.length).map .call :=
  rfl

/-- The event that the outcome of a step shows. -/
def shownEvent? : Except Failure Reply → Option Event
  | .ok (.object (.event event)) => some event
  | _ => none

theorem shownEvent?_eq_some {outcome : Except Failure Reply} {event : Event}
    (isShown : shownEvent? outcome = some event) : outcome = .ok (.object (.event event)) := by
  unfold shownEvent? at isShown
  split at isShown
  · rw [Option.some.inj isShown]
  · contradiction

theorem children_released_first_waiting :
    (single.run waiting).2.operations 0 ⟨.drop "event", none⟩ =
        [.call (.eventRelease ⟨2⟩), .call (.contextRelease ⟨1⟩)] ∧
      (({ config := .openCl } : Simulator).replay
        (single.history 0 waiting ++ [.call (.eventRelease ⟨2⟩)])).store.wrappers.get? 2 = none := by
  have areManaged : ∀ step ∈ waiting ++ [⟨.drop "event", none⟩],
      step.command.isManaged = true := by decide +kernel
  have made : ((single.run (waiting ++ [⟨.drop "event", none⟩])).1.filterMap shownEvent?).any
      (fun event => event.handle == ⟨2⟩ && event.context.handle == ⟨1⟩ &&
        event.provider.table.simulator == 0 && event.context.provider.table.simulator == 0) =
          true := by
    decide +kernel
  have calls : ((((single.run waiting).2.step ⟨.drop "event", none⟩).2.host.simulator 0).calls.drop
      ((single.run waiting).2.host.simulator 0).calls.length) =
        [.eventRelease ⟨2⟩, .contextRelease ⟨1⟩] := by decide +kernel
  have released : (single.run waiting).2.operations 0 ⟨.drop "event", none⟩ =
      [.call (.eventRelease ⟨2⟩)] ++ .call (.contextRelease ⟨1⟩) :: [] := by
    rw [operations_drop, calls]
    rfl
  refine ⟨released, ?_⟩
  obtain ⟨event, isShown, isEvent⟩ := List.any_eq_true.mp made
  obtain ⟨outcome, made, isShown⟩ := List.mem_filterMap.mp isShown
  rw [shownEvent?_eq_some isShown] at made
  simp only [Bool.and_eq_true, beq_iff_eq] at isEvent
  obtain ⟨⟨⟨isHandle, isContext⟩, own⟩, ofContext⟩ := isEvent
  rw [← isContext, ← ofContext] at released
  unfold single at made released ⊢
  obtain ⟨config, isConfig, -, ended, -⟩ := children_released_first {} single_matches areManaged made
    List.mem_cons_self rfl released
  rw [ofContext] at isConfig ended
  have isOpenCl : config = .openCl := (isConfig .openCl rfl).symm
  have dead := ended (event.provider.token event.handle) List.mem_cons_self own
  rw [isOpenCl, Provider.token, isHandle] at dead
  exact dead

/-- The name of a context is let go before a bundle. -/
def abandoning : List Step :=
  linking ++ [⟨.drop "context", none⟩]

/-- A program that has been imported against a context may be live when the context is released. -/
theorem exists_outliving_program :
    (∀ plan ∈ [RegistryPlan.listed [{ backend := .openCl, table := { simulator := 0 } }] {}],
      plan.Matches [.openCl]) ∧
    (∀ step ∈ abandoning ++ [⟨.drop "bundle", none⟩], step.command.isManaged = true) ∧
    ((single.run abandoning).2.host.simulator 0).failures = {} ∧
    .programCreate ⟨4099⟩ ⟨1⟩ true ∈ ((single.run abandoning).2.host.simulator 0).calls ∧
    ((single.run abandoning).2.host.simulator 0).store.wrappers.get? 2 =
      some ⟨.program, ⟨4099⟩, 1, true⟩ ∧
    ∃ later, (single.run abandoning).2.operations 0 ⟨.drop "bundle", none⟩ =
      .call (.contextRelease ⟨1⟩) :: later := by
  have calls : ((((single.run abandoning).2.step ⟨.drop "bundle", none⟩).2.host.simulator 0).calls.drop
      ((single.run abandoning).2.host.simulator 0).calls.length) =
        [.contextRelease ⟨1⟩, .programRelease ⟨4⟩, .programRelease ⟨2⟩] := by decide +kernel
  refine ⟨single_matches, by decide +kernel, by decide +kernel, by decide +kernel,
    by decide +kernel, [.call (.programRelease ⟨4⟩), .call (.programRelease ⟨2⟩)], ?_⟩
  rw [operations_drop, calls]
  rfl

end Session

end ComputeImport
