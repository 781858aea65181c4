import ComputeImport.Proofs.Import.Lending
import ComputeImport.Proofs.Session.Children
import ComputeImport.Proofs.Session.Upkeep

/-!
# What a kernel needs outlives it

A kernel keeps the context that it was imported against and its bundle, and with the bundle the
programs of all images, with those that they have replaced.  Whatever else leads to these may be let
go in any order: until the wrapper of the kernel is released, theirs are live, because a value that is
let go ends the kernel before what the kernel keeps.
-/

namespace ComputeImport

open Host

/-- The owners that a kernel keeps alive. -/
def Kernel.keeps (kernel : Kernel) : List Owner :=
  .context kernel.context :: kernel.bundle.owners

/-- The wrappers that a kernel needs: that of its context, and those of the programs of its bundle,
with the ones that were replaced. -/
def Kernel.needs (kernel : Kernel) : List Token :=
  kernel.context.token :: kernel.bundle.images.flatMap fun image =>
    (image.program :: image.superseded).map ProgramRef.token

variable {kernel : Kernel}

theorem Kernel.exists_keeps {token : Token} (member : token ∈ kernel.needs) :
    ∃ owner ∈ kernel.keeps, token ∈ owner.tokens := by
  rcases List.mem_cons.mp member with rfl | member
  · exact ⟨_, List.mem_cons_self, List.mem_cons_self⟩
  · obtain ⟨image, isImage, isToken⟩ := List.mem_flatMap.mp member
    refine ⟨.image image, List.mem_cons_of_mem _ ?_, isToken⟩
    exact List.mem_cons_of_mem _ (List.mem_map_of_mem isImage)

/-- Nothing but a kernel leads to it. -/
theorem Managed.eq_of_kernel {value : Managed} (member : .kernel kernel ∈ value.owners) :
    value = .kernel kernel := by
  cases value with
  | kernel held => simpa [owners, KernelBundle.owners, eq_comm] using member
  | _ => simp [owners, KernelBundle.owners] at member

/-- What is held with a kernel leads to what the kernel keeps. -/
theorem Host.keeps_mem_owners {host : Host} (member : .kernel kernel ∈ host.owners) :
    ∀ owner ∈ kernel.keeps, owner ∈ host.owners := by
  intro owner isKept
  obtain ⟨value, isHeld, leads⟩ := List.mem_flatMap.mp member
  obtain rfl := Managed.eq_of_kernel leads
  exact List.mem_flatMap.mpr ⟨_, isHeld, List.mem_cons_of_mem _ isKept⟩

/-- Where the owners are alive that a kernel keeps, the wrappers are live that it needs. -/
theorem Host.Holds.needs {host : Host} {owners : List Owner}
    (holds : Holds none (tokensOf owners) host) (kept : ∀ owner ∈ kernel.keeps, owner ∈ owners) :
    ∀ token ∈ kernel.needs,
      (host.simulator token.simulator).store.wrappers.get? token.id ≠ none := by
  intro token member
  obtain ⟨owner, isKept, held⟩ := Kernel.exists_keeps member
  obtain ⟨wrapper, found, -⟩ := holds.live token (mem_tokensOf.mpr ⟨owner, kept owner isKept, held⟩)
  exact Option.ne_none_iff_exists'.mpr ⟨wrapper, found⟩

/-- A kernel that is let go, and that nothing else leads to, is released before anything else. -/
theorem Host.calls_letGo_kernel {host : Host}
    (holds : Holds none (tokensOf ((Managed.kernel kernel).owners ++ host.owners)) host)
    (unheld : .kernel kernel ∉ host.owners) :
    ∃ later, ((host.letGo (.kernel kernel)).simulator kernel.provider.table.simulator).calls =
      (host.simulator kernel.provider.table.simulator).calls ++
        .kernelRelease kernel.handle :: later := by
  obtain ⟨living, -, went, -⟩ := went_release_child holds List.mem_cons_self rfl unheld
  obtain ⟨later, recorded, -⟩ := went.recorded kernel.provider.table.simulator
  have released : (((Owner.kernel kernel).release host).simulator
      kernel.provider.table.simulator).calls =
        (host.simulator kernel.provider.table.simulator).calls ++
          [.kernelRelease kernel.handle] := by
    rw [Owner.release, simulator_releaseWith (.of_done (.kernelRelease kernel.handle) rfl),
      if_pos rfl]
    exact Simulator.calls_replay _ [.kernelRelease kernel.handle]
  refine ⟨later, ?_⟩
  rw [recorded, released, List.append_assoc, List.singleton_append]

/-- A wrapper that is live before a history and after it is live in between. -/
theorem Simulator.live_between {sim : Simulator} {first second : List Operation} {id : Nat}
    (formed : sim.store.WellFormed) (before : sim.store.wrappers.get? id ≠ none)
    (live : (sim.replay (first ++ second)).store.wrappers.get? id ≠ none) :
    (sim.replay first).store.wrappers.get? id ≠ none := by
  obtain ⟨old, known⟩ := Option.ne_none_iff_exists'.mp before
  obtain ⟨wrapper, found⟩ := Option.ne_none_iff_exists'.mp live
  have below := Nat.lt_of_lt_of_le (formed.wrapper_lt id old known)
    (nextWrapper_le_replay formed first)
  rw [replay_append] at found
  obtain ⟨refs, found⟩ := wrapper_replay (wellFormed_replay formed first) below found
  exact Option.ne_none_iff_exists'.mpr ⟨_, found⟩

namespace Session

variable {session after : Session} {next : Step} {shown : List Owner}

/-! ## Where a kernel comes from -/

/-- A kernel that a step shows was imported against what had been held before. -/
theorem keeps_of_shown (indirect : next.command.isDirect = false)
    (isShown : .kernel kernel ∈ Session.shown (session.step next).1) :
    ∀ owner ∈ kernel.keeps, owner ∈ session.host.owners := by
  let good (value : Managed) : Prop :=
    ∀ kernel, value = .kernel kernel → ∀ owner ∈ kernel.keeps, owner ∈ session.host.owners
  have leads : ∀ {value : Managed}, value ∈ session.host.held.values →
      ∀ owner ∈ value.owners, owner ∈ session.host.owners :=
    fun isHeld owner member => List.mem_flatMap.mpr ⟨_, isHeld, member⟩
  have closed : Managed.Closed session.host.held good := by
    constructor
    case plain =>
      rintro value none kernel rfl
      contradiction
    case empty => exact fun _ _ _ => nofun
    case program => exact fun _ _ _ => nofun
    case join => exact fun _ _ _ => nofun
    case kernel =>
      rintro _ isContext isBundle kernel ⟨⟩ owner member
      rcases List.mem_cons.mp member with rfl | member
      · exact leads isContext _ List.mem_cons_self
      · rcases isBundle with ⟨isHeld, -⟩ | isEmpty
        · exact leads isHeld owner member
        · rw [isEmpty] at member
          exact leads isContext owner member
    case bundleOf => exact fun _ _ _ => nofun
  have maintains : ∀ value ∈ session.host.held.values, good value := by
    rintro value isHeld kernel rfl owner member
    exact leads isHeld owner (List.mem_cons_of_mem _ member)
  have all := closed.upheld.step maintains indirect
  cases outcome : (session.step next).1 with
  | error _ =>
      rw [outcome] at isShown
      contradiction
  | ok reply =>
      rw [outcome] at isShown all
      cases reply with
      | object value => exact all value List.mem_cons_self kernel (Managed.eq_of_kernel isShown)
      | _ => contradiction

/-! ## Where a kernel ends -/

/-- What a step leaves alive of a kernel that is alive: the kernel itself, or it comes to a host where
the kernel is released next. -/
theorem Leaves.alive_or_released (leaves : Leaves session.host shown after)
    (source : .kernel kernel ∈ shown ∨ .kernel kernel ∈ session.host.owners) :
    .kernel kernel ∈ after.host.owners ∨
      ∃ host owners later, session.host.Went host ∧ host.Went after.host ∧
        Host.Holds none (tokensOf owners) host ∧
        (∀ owner ∈ (Managed.kernel kernel).owners, owner ∈ owners) ∧
        (after.host.simulator kernel.provider.table.simulator).calls =
          (host.simulator kernel.provider.table.simulator).calls ++
            .kernelRelease kernel.handle :: later := by
  cases leaves with
  | kept cares led => exact Or.inl (source.elim (led _) (cares.still _))
  | @letGo middle value cares led =>
      by_cases isHeld : .kernel kernel ∈ middle.host.owners
      · rw [owners_of_held (held_letGo _ _)]
        exact Or.inl isHeld
      · have member : .kernel kernel ∈ value.owners :=
          (List.mem_append.mp (source.elim (led _) (cares.still _))).resolve_right isHeld
        obtain rfl := Managed.eq_of_kernel member
        obtain ⟨later, released⟩ := calls_letGo_kernel cares.holds isHeld
        exact Or.inr ⟨middle.host, _, later, cares.went, (Since.refl cares.holds).letGo.went,
          cares.holds, fun owner => List.mem_append_left _, released⟩

/-- The operations of a step on all backends, up to where a kernel ends, or else to the end of the step.
Until then all that the kernel needs is live at every moment. -/
structure Outlasts (session : Session) (next : Step) (kernel : Kernel)
    (earlier later : Nat → List Simulator.Operation) : Prop where
  split : ∀ number, session.operations number next = earlier number ++ later number
  /-- The step comes to a state of all backends, and goes on from there. -/
  comes : ∃ host : Host, ∀ number, session.host.Follows host number (earlier number) ∧
    host.Follows (session.step next).2.host number (later number)
  live : ∀ token ∈ kernel.needs, ∀ moment, moment <+: earlier token.simulator →
    ((session.host.simulator token.simulator).replay moment).store.wrappers.get? token.id ≠ none
  unreleased : .call (.kernelRelease kernel.handle) ∉ earlier kernel.provider.table.simulator
  ends : .kernel kernel ∈ (session.step next).2.host.owners ∧ (∀ number, later number = []) ∨
    ∃ rest, later kernel.provider.table.simulator = .call (.kernelRelease kernel.handle) :: rest

/-- What is live at a start and at a host is live at every moment in between. -/
theorem live_of_follows {start host : Host} {number id : Nat}
    {operations moment : List Simulator.Operation} (follows : start.Follows host number operations)
    (formed : (start.simulator number).store.WellFormed)
    (before : (start.simulator number).store.wrappers.get? id ≠ none)
    (live : (host.simulator number).store.wrappers.get? id ≠ none)
    (isMoment : moment <+: operations) :
    ((start.simulator number).replay moment).store.wrappers.get? id ≠ none := by
  obtain ⟨rest, rfl⟩ := isMoment
  obtain ⟨config, equal, -⟩ := follows.led
  have known : start.simulators.get? number ≠ none := by
    intro unknown
    rw [simulator, unknown] at before
    exact before rfl
  rw [origin_of_known config known] at equal
  rw [equal] at live
  exact Simulator.live_between formed before live

/-- The calls of a step are those that it has recorded. -/
theorem operations_of_indirect (indirect : ∀ number action, next.command ≠ .caller number action)
    (number : Nat) :
    session.operations number next =
      (((session.step next).2.host.simulator number).calls.drop
        (session.host.simulator number).calls.length).map .call := by
  obtain ⟨command, name⟩ := next
  cases command with
  | caller other action => exact absurd rfl (indirect other action)
  | _ => rfl

/-- A kernel that is still owned has not been released. -/
theorem unreleased_of_live {start host : Host} {owners : List Owner} (went : start.Went host)
    (formed : (start.simulator kernel.provider.table.simulator).store.WellFormed)
    (holds : Host.Holds none (tokensOf owners) host) (member : .kernel kernel ∈ owners) :
    .kernelRelease kernel.handle ∉ (host.simulator kernel.provider.table.simulator).calls.drop
      (start.simulator kernel.provider.table.simulator).calls.length := by
  obtain ⟨wrapper, found, -⟩ :=
    holds.live _ (mem_tokensOf.mpr ⟨.kernel kernel, member, List.mem_cons_self⟩)
  exact uncalled_of_live went formed rfl (Option.ne_none_iff_exists'.mpr ⟨wrapper, found⟩)

/-- A kernel that is alive after a step and has not been released lasts until the end of the step. -/
theorem outlasts_of_alive (inOrder : InOrder [] session) (isManaged : next.command.isManaged = true)
    (kept : ∀ owner ∈ kernel.keeps, owner ∈ session.host.owners)
    (unreleased : .call (.kernelRelease kernel.handle) ∉
      session.operations kernel.provider.table.simulator next)
    (alive : .kernel kernel ∈ (session.step next).2.host.owners) :
    Outlasts session next kernel (fun number => session.operations number next) fun _ => [] := by
  have stepped := advances_step inOrder isManaged
  constructor
  case split => exact fun _ => (List.append_nil _).symm
  case comes => exact ⟨_, fun number => ⟨stepped.follows number, .of_simulators rfl number⟩⟩
  case live =>
    intro token member moment
    exact live_of_follows (stepped.follows _) (inOrder.holds.formed _)
      (inOrder.holds.needs kept token member)
      (stepped.inOrder.holds.needs (keeps_mem_owners alive) token member)
  case unreleased => exact unreleased
  case ends => exact Or.inl ⟨alive, fun _ => rfl⟩

/-- A kernel that is released in a step lasts until then. -/
theorem outlasts_of_released (inOrder : InOrder [] session)
    (indirect : ∀ number action, next.command ≠ .caller number action)
    (kept : ∀ owner ∈ kernel.keeps, owner ∈ session.host.owners) {host : Host} {owners : List Owner}
    {calls : List Call} (went : session.host.Went host) (goes : host.Went (session.step next).2.host)
    (holds : Host.Holds none (tokensOf owners) host)
    (led : ∀ owner ∈ (Managed.kernel kernel).owners, owner ∈ owners)
    (released : ((session.step next).2.host.simulator kernel.provider.table.simulator).calls =
      (host.simulator kernel.provider.table.simulator).calls ++
        .kernelRelease kernel.handle :: calls) :
    ∃ earlier later, Outlasts session next kernel earlier later := by
  have recorded := @operations_of_indirect session next indirect
  have parts : ∀ number, ∃ earlier later,
      (host.simulator number).calls = (session.host.simulator number).calls ++ earlier ∧
      ((session.step next).2.host.simulator number).calls =
        (host.simulator number).calls ++ later ∧
      session.host.Follows host number (earlier.map .call) ∧
      host.Follows (session.step next).2.host number (later.map .call) := by
    intro number
    obtain ⟨earlier, isEarlier, follows⟩ := went.recorded number
    obtain ⟨later, isLater, follows'⟩ := goes.recorded number
    exact ⟨earlier, later, isEarlier, isLater, follows, follows'⟩
  choose earlier rest isEarlier isRest comes goesOn using parts
  refine ⟨fun number => (earlier number).map .call, fun number => (rest number).map .call, ?_⟩
  constructor
  case split =>
    intro number
    rw [recorded, isRest, isEarlier, List.append_assoc, List.drop_left, List.map_append]
  case comes => exact ⟨host, fun number => ⟨comes number, goesOn number⟩⟩
  case live =>
    intro token member moment
    exact live_of_follows (comes _) (inOrder.holds.formed _) (inOrder.holds.needs kept token member)
      (holds.needs (fun owner isKept => led owner (List.mem_cons_of_mem _ isKept)) token member)
  case unreleased =>
    have uncalled := unreleased_of_live went (inOrder.holds.formed _) holds (led _ List.mem_cons_self)
    rw [isEarlier, List.drop_left] at uncalled
    rw [List.mem_map]
    rintro ⟨call, called, ⟨⟩⟩
    exact uncalled called
  case ends =>
    refine Or.inr ⟨calls.map .call, ?_⟩
    rw [isRest] at released
    rw [List.append_cancel_left released]
    rfl

/-- A step keeps all that a kernel needs, until it ends the kernel. -/
theorem outlasts_step (inOrder : InOrder [] session) (isManaged : next.command.isManaged = true)
    (source : .kernel kernel ∈ Session.shown (session.step next).1 ∨
      .kernel kernel ∈ session.host.owners) :
    ∃ earlier later, Outlasts session next kernel earlier later := by
  by_cases direct : ∃ number action, next.command = .caller number action
  · obtain ⟨command, name⟩ := next
    obtain ⟨number, action, rfl⟩ := direct
    obtain ⟨plain, held⟩ := @step_caller session number action name
    rw [plain] at source
    replace source := source.resolve_left List.not_mem_nil
    refine ⟨_, _, outlasts_of_alive inOrder isManaged (keeps_mem_owners source) ?_ ?_⟩
    · intro called
      exact (operations_of_call called).1 number action rfl
    · rw [owners_of_held held]
      exact source
  · have indirect : ∀ number action, next.command ≠ .caller number action :=
      fun number action same => direct ⟨number, action, same⟩
    have kept : ∀ owner ∈ kernel.keeps, owner ∈ session.host.owners := by
      refine source.elim (keeps_of_shown ?_) keeps_mem_owners
      obtain ⟨command, name⟩ := next
      cases command with
      | caller number action => exact absurd rfl (indirect number action)
      | ask target request =>
          cases request with
          | name => rfl
          | call => contradiction
      | _ => rfl
    have leaves := leaves_step inOrder indirect isManaged
    rcases leaves.alive_or_released source with
      alive | ⟨host, owners, later, went, goes, holds, led, released⟩
    · refine ⟨_, _, outlasts_of_alive inOrder isManaged kept ?_ alive⟩
      rw [operations_of_indirect indirect, List.mem_map]
      rintro ⟨call, called, ⟨⟩⟩
      have stepped := advances_step inOrder isManaged
      exact unreleased_of_live leaves.inOrder.2 (inOrder.holds.formed _) stepped.inOrder.holds alive
        called
    · exact outlasts_of_released inOrder indirect kept went goes holds led released

/-- A kernel that has been shown is alive until it is released. -/
theorem alive_or_released {steps : List Step} (inOrder : InOrder [] session)
    (areManaged : ∀ next ∈ steps, next.command.isManaged = true)
    (source : (∃ outcome ∈ (session.run steps).1, .kernel kernel ∈ Session.shown outcome) ∨
      .kernel kernel ∈ session.host.owners) :
    .kernel kernel ∈ (session.run steps).2.host.owners ∨
      .call (.kernelRelease kernel.handle) ∈
        session.history kernel.provider.table.simulator steps := by
  induction steps generalizing session with
  | nil => exact Or.inl (source.resolve_left fun ⟨_, made, _⟩ => List.not_mem_nil made)
  | cons next steps ih =>
      obtain ⟨isFirst, areRest⟩ := List.forall_mem_cons.mp areManaged
      have stepped := (advances_step inOrder isFirst).inOrder
      have later (source : (∃ outcome ∈ ((session.step next).2.run steps).1,
            .kernel kernel ∈ Session.shown outcome) ∨
          .kernel kernel ∈ (session.step next).2.host.owners) :
          .kernel kernel ∈ (session.run (next :: steps)).2.host.owners ∨
            .call (.kernelRelease kernel.handle) ∈
              session.history kernel.provider.table.simulator (next :: steps) :=
        (ih stepped areRest source).imp_right (List.mem_append_right _)
      have now (source : .kernel kernel ∈ Session.shown (session.step next).1 ∨
          .kernel kernel ∈ session.host.owners) :
          .kernel kernel ∈ (session.run (next :: steps)).2.host.owners ∨
            .call (.kernelRelease kernel.handle) ∈
              session.history kernel.provider.table.simulator (next :: steps) := by
        obtain ⟨earlier, rest, outlasts⟩ := outlasts_step inOrder isFirst source
        rcases outlasts.ends with ⟨alive, -⟩ | ⟨rest, released⟩
        · exact later (Or.inr alive)
        · refine Or.inr (List.mem_append_left _ ?_)
          rw [outlasts.split, released]
          exact List.mem_append_right _ List.mem_cons_self
      rcases source with ⟨outcome, made, member⟩ | alive
      · rcases List.mem_cons.mp made with rfl | made
        · exact now (Or.inl member)
        · exact later (Or.inl ⟨outcome, made, member⟩)
      · exact now (Or.inr alive)

/-- In every session of managed operations, where the tables that are registered demand a reference
exactly where their backends take none: from the step that imports a kernel on, and until the wrapper
of the kernel is released, the wrappers are live of its context and of all programs of its bundle,
with those that they have replaced. -/
theorem kernel_outlasted {configs : List SimulatorConfig} {plans : List RegistryPlan}
    {steps : List Step} (environment : Text.Environment)
    (areMatches : ∀ plan ∈ plans, plan.Matches configs)
    (areManaged : ∀ step ∈ steps ++ [next], step.command.isManaged = true)
    (made : .ok (.object (.kernel kernel)) ∈
      ((opening configs plans environment).run (steps ++ [next])).1)
    (unreleased : .call (.kernelRelease kernel.handle) ∉
      (opening configs plans environment).history kernel.provider.table.simulator steps) :
    ∃ earlier later,
      Outlasts ((opening configs plans environment).run steps).2 next kernel earlier later := by
  obtain ⟨inOrder, -⟩ := inOrder_opening environment areMatches
  obtain ⟨areFirst, isNext⟩ := List.forall_mem_append.mp areManaged
  rw [List.forall_mem_singleton] at isNext
  apply outlasts_step (advances_run inOrder areFirst).inOrder isNext
  rw [run_append] at made
  rcases List.mem_append.mp made with made | made
  · refine Or.inr ((alive_or_released inOrder areFirst ?_).resolve_right unreleased)
    exact Or.inl ⟨_, made, List.mem_cons_self⟩
  · have isOutcome : (((opening configs plans environment).run steps).2.step next).1 =
        .ok (.object (.kernel kernel)) := (List.mem_singleton.mp made).symm
    rw [isOutcome]
    exact Or.inl List.mem_cons_self

/-- A kernel of a program that has been linked is all that leads to its context and its bundle. -/
def outliving : List Step :=
  linking ++ [⟨.caller 0 (.createKernel ⟨4099⟩ "axpy"), none⟩,
    ⟨.importKernel (some 0) ⟨4101⟩ "context" "bundle" false .openCl, some "kernel"⟩,
    ⟨.drop "context", none⟩, ⟨.drop "bundle", none⟩]

/-- The kernel that the outcome of a step shows. -/
def shownKernel? : Except Failure Reply → Option Kernel
  | .ok (.object (.kernel kernel)) => some kernel
  | _ => none

theorem shownKernel?_eq_some {outcome : Except Failure Reply}
    (isShown : shownKernel? outcome = some kernel) : outcome = .ok (.object (.kernel kernel)) := by
  unfold shownKernel? at isShown
  split at isShown
  · rw [Option.some.inj isShown]
  · contradiction

/-- The kernel needs its context, and the program that was linked with the one that it has replaced. -/
theorem kernel_outlasted_linking :
    ∃ kernel earlier later, kernel.needs.map Token.id = [1, 4, 2] ∧
      Outlasts (single.run outliving).2 ⟨.drop "kernel", none⟩ kernel earlier later := by
  have areManaged : ∀ step ∈ outliving ++ [⟨.drop "kernel", none⟩],
      step.command.isManaged = true := by decide +kernel
  have made : ((single.run (outliving ++ [⟨.drop "kernel", none⟩])).1.filterMap shownKernel?).any
      (fun kernel => kernel.handle == ⟨6⟩ && kernel.provider.table.simulator == 0 &&
        kernel.needs.map Token.id == [1, 4, 2]) = true := by
    decide +kernel
  have unreleased : (single.history 0 outliving).all
      (fun operation => !operation.releases 6) = true := by decide +kernel
  obtain ⟨kernel, isShown, isKernel⟩ := List.any_eq_true.mp made
  obtain ⟨outcome, made, isShown⟩ := List.mem_filterMap.mp isShown
  rw [shownKernel?_eq_some isShown] at made
  simp only [Bool.and_eq_true, beq_iff_eq] at isKernel
  obtain ⟨⟨isHandle, own⟩, needs⟩ := isKernel
  have uncalled : .call (.kernelRelease kernel.handle) ∉
      single.history kernel.provider.table.simulator outliving := by
    intro called
    rw [own, isHandle] at called
    exact absurd (List.all_eq_true.mp unreleased _ called) (by decide)
  unfold single at made uncalled ⊢
  obtain ⟨earlier, later, outlasts⟩ := kernel_outlasted {} single_matches areManaged made uncalled
  exact ⟨kernel, earlier, later, needs, outlasts⟩

end Session

end ComputeImport
