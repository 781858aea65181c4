import ComputeImport.Proofs.Import.Advance
import ComputeImport.Proofs.Simulator.Moves

/-!
# Imports bring new images of new programs

Neither identities nor numbers of wrappers are used twice.  The image that an import hands out has an
identity of its own, and the wrapper of the program that it has arrived at has been made by the import.
-/

namespace ComputeImport

namespace Host

/-- No identity and no number of a wrapper that has been used since is used again. -/
structure Later (start host : Host) : Prop where
  formed : ∀ number, (host.simulator number).store.WellFormed
  nextWrapper_le : ∀ number, (start.simulator number).store.nextWrapper ≤
    (host.simulator number).store.nextWrapper
  nextIdentity_le : start.nextIdentity ≤ host.nextIdentity

/-- The wrapper of a program has been made since. -/
structure Creates (start : Host) (program : ProgramRef) (host : Host) : Prop extends
    start.Later host where
  above : (start.simulator program.provider.table.simulator).store.nextWrapper ≤ program.handle.id
  below : program.handle.id < (host.simulator program.provider.table.simulator).store.nextWrapper

variable {start host : Host} {program : ProgramRef}

theorem Later.refl (formed : ∀ number, (host.simulator number).store.WellFormed) : host.Later host :=
  ⟨formed, fun _ => Nat.le_refl _, Nat.le_refl _⟩

theorem Later.of_simulators {after : Host} (later : start.Later host)
    (same : after.simulators = host.simulators) (le : host.nextIdentity ≤ after.nextIdentity) :
    start.Later after := by
  have equal := Host.simulator_of_simulators same
  constructor
  case formed => exact fun number => equal number ▸ later.formed number
  case nextWrapper_le => exact fun number => equal number ▸ later.nextWrapper_le number
  case nextIdentity_le => exact Nat.le_trans later.nextIdentity_le le

theorem Later.advance (later : start.Later host) (number : Nat) (operation : Simulator.Operation) :
    start.Later (host.advance number ((host.simulator number).after operation)) := by
  constructor
  case formed =>
    intro other
    rw [simulator_advance]
    split
    · exact Simulator.wellFormed_after (later.formed number) operation
    · exact later.formed other
  case nextWrapper_le =>
    intro other
    rw [simulator_advance]
    split
    · rename_i same
      subst same
      exact Nat.le_trans (later.nextWrapper_le number)
        (Simulator.moves_after (later.formed number) operation).nextWrapper_le
    · exact later.nextWrapper_le other
  case nextIdentity_le => exact later.nextIdentity_le

theorem respects_later : Respects (fun _ => True) (fun _ => True) start.Later := by
  apply Respects.uncached
  case call => exact fun host number call _ _ later => later.advance number (.call call)
  case other => exact fun _ _ same _ le later => later.of_simulators same le

theorem Creates.of_simulators {after : Host} (creates : start.Creates program host)
    (same : after.simulators = host.simulators) (le : host.nextIdentity ≤ after.nextIdentity) :
    start.Creates program after := by
  refine ⟨creates.toLater.of_simulators same le, creates.above, ?_⟩
  rw [Host.simulator_of_simulators same]
  exact creates.below

theorem respects_creates : Respects (fun _ => True) (fun _ => True) (start.Creates program) := by
  apply Respects.uncached
  case call =>
    intro host number call _ _ creates
    refine ⟨creates.toLater.advance number (.call call), creates.above, ?_⟩
    rw [simulator_advance]
    split
    · rename_i same
      exact Nat.lt_of_lt_of_le (same ▸ creates.below)
        (Simulator.moves_after (creates.formed number) (.call call)).nextWrapper_le
    · exact creates.below
  case other => exact fun _ _ same _ le creates => creates.of_simulators same le

/-- A backend that has used its next number for the wrapper of a program has made that program. -/
theorem Later.creates (later : start.Later host) {provider : Provider} {handle : ProgramHandle}
    {after : Simulator} (formed : after.store.WellFormed)
    (isNext : handle = ⟨(host.simulator provider.table.simulator).store.nextWrapper⟩)
    (isUsed : after.store.nextWrapper =
      (host.simulator provider.table.simulator).store.nextWrapper + 1) :
    start.Creates ⟨handle, provider⟩ (host.advance provider.table.simulator after) := by
  subst isNext
  constructor
  case above => exact later.nextWrapper_le _
  case below =>
    rw [simulator_advance_self, isUsed]
    exact Nat.lt_succ_self _
  constructor
  case formed =>
    intro number
    rw [simulator_advance]
    split
    · exact formed
    · exact later.formed number
  case nextWrapper_le =>
    intro number
    apply Nat.le_trans (later.nextWrapper_le number)
    rw [simulator_advance]
    split
    · rename_i same
      rw [isUsed, same]
      exact Nat.le_succ _
    · exact Nat.le_refl _
  case nextIdentity_le => exact later.nextIdentity_le

end Host

variable {start host : Host} {provider : Provider} {builder : Builder} {current : ProgramRef}
  {target : BundleState}

/-- A call that uses the next number for the wrapper of a program creates that program. -/
theorem ends_creates {step : Native ProgramHandle} {call : Call} (isCall : IsCall step call)
    (later : start.Later host)
    (answers : ∀ sim : Simulator, Simulator.Answers call step sim
      (fun handle store => handle = ⟨sim.store.nextWrapper⟩ ∧
        store.nextWrapper = sim.store.nextWrapper + 1)
      (fun _ _ => True)) :
    Ends (provider.table.call step) host
      (fun handle after => start.Creates ⟨handle, provider⟩ after) (fun _ => start.Later) := by
  have formed := later.formed provider.table.simulator
  have same := ends_same step (host.simulator provider.table.simulator)
  rw [isCall] at same
  apply ends_call.mpr
  apply (Ends.and (answers _) same).imp
  · rintro handle after ⟨⟨-, -, isNext, isUsed⟩, rfl⟩
    exact later.creates (Simulator.wellFormed_after formed (.call call)) isNext isUsed
  · rintro e after ⟨-, rfl⟩
    exact later.advance _ (.call call)

/-- A link creates the program that it brings back, by whichever entry point. -/
theorem ends_link_creates {program : ProgramHandle} {device : DeviceHandle}
    (later : start.Later host) :
    Ends (builder.link program device) host
      (fun linked after => start.Creates ⟨linked, builder.provider⟩ after) (fun _ _ => True) := by
  have first : Ends (builder.provider.table.programLinkFor builder.context.handle [device] [program]
        builder.options.link) host
      (fun linked after => start.Creates ⟨linked, builder.provider⟩ after)
      (fun _ => start.Later) := by
    unfold Table.programLinkFor Table.callFor
    cases builder.provider.table.delegation with
    | some _ => exact later
    | none =>
        apply ends_creates (.of_answer (.programLinkFor builder.context.handle [device] [program]
          builder.options.link) rfl) later
        intro sim
        apply Simulator.answers_programLinkFor_singleton.imp
        · rintro _ _ ⟨_, -, _, -, rfl, rfl⟩
          exact ⟨rfl, rfl⟩
        · exact fun _ _ _ => trivial
  apply (Ends.withFallback first ?_).imp
  · exact fun _ _ creates => creates
  · exact fun _ _ _ => trivial
  intro after later
  have noticed : start.Later (after.notify (.fellBack .link device)) :=
    later.of_simulators rfl (Nat.le_refl _)
  apply ends_creates (.of_answer (.programLink builder.context.handle [program]
    builder.options.link) rfl) noticed
  intro sim
  apply Simulator.answers_programLink_singleton.imp
  · rintro _ _ ⟨_, -, rfl, rfl⟩
    exact ⟨rfl, rfl⟩
  · exact fun _ _ _ => trivial

/-- For one device, the program stays the one that has been made, or another one is. -/
theorem ends_advanceDevice_creates {device : DeviceHandle} (creates : start.Creates current host) :
    Ends (builder.advanceDevice target current device) host
      (fun next => start.Creates (next.getD current)) (fun _ _ => True) := by
  have only : ∀ {α : Type} {body : ImportM α}, OnlyCalls body → ∀ {host : Host},
      start.Creates current host →
      Ends body host (fun _ => start.Creates current) (fun _ _ => True) :=
    fun uses _ creates => ((uses _ Host.respects_creates).ends _ creates).imp
      (fun _ _ creates => creates) fun _ _ _ => trivial
  have asks : OnlyCalls (native (builder.provider.table.call
      (Simulator.programBinaryType current.handle device))) :=
    Uses.native (OnlyCalls.call (.of_answer (.programBinaryType current.handle device) rfl))
  apply (only asks creates).bind
  intro stage middle creates
  rw [ends_bind, ends_notify]
  generalize stage.plan target = action
  replace creates : start.Creates current (middle.notify
      (.advancing current.handle device stage target action)) :=
    creates.of_simulators rfl (Nat.le_refl _)
  cases action with
  | keep => exact creates
  | mismatch => trivial
  | run operation =>
      cases operation with
      | compile =>
          exact (only (.of_quiet (Uses.compile trivial current.handle device)) creates).bind
            fun _ _ creates => creates
      | build =>
          exact (only (.of_quiet (Uses.build trivial current.handle device)) creates).bind
            fun _ _ creates => creates
      | link =>
          apply (ends_link_creates creates.toLater).bind
          intro linked after creates
          exact creates.of_simulators rfl (Nat.le_refl _)

/-- Over all devices, the program that an import arrives at is made by it. -/
theorem ends_advance_creates {superseded : List ProgramRef} {devices : List DeviceHandle}
    (creates : start.Creates current host) :
    Ends (builder.advance target current superseded devices) host
      (fun built => start.Creates built.current) (fun _ _ => True) := by
  induction devices generalizing host current superseded with
  | nil => exact creates
  | cons device devices ih =>
      apply (ends_orRelease.mpr ((ends_advanceDevice_creates creates).imp (fun _ _ creates => creates)
        fun _ _ _ => trivial)).bind
      intro next after creates
      cases next with
      | none => exact ih creates
      | some linked => exact ih creates

/-- An imported program is new, and so is the image that it is handed out in. -/
theorem ends_importProgram_new {registry : Registry} {handle : NativeHandle} {context : Context}
    {keeps : Bool} {backend : Backend} (formed : ∀ number, (host.simulator number).store.WellFormed) :
    Ends (importProgram registry handle context keeps target backend) host
      (fun bundle after => ∃ image, bundle = ⟨context, image.devices, image.state, [image]⟩ ∧
        host.nextIdentity ≤ image.identity ∧ image.identity < after.nextIdentity ∧
        host.Creates image.program after)
      (fun _ _ => True) := by
  have stays : ∀ {β : Type} {body : ImportM β} {next : β → ImportM KernelBundle} {middle : Host}
      {ok : KernelBundle → Host → Prop}, OnlyCalls body → host.Later middle →
      (∀ b after, host.Later after → Ends (next b) after ok fun _ _ => True) →
      Ends (body >>= next) middle ok fun _ _ => True :=
    fun uses later rest => (((uses _ Host.respects_later).ends _ later).imp
      (fun _ _ later => later) fun _ _ _ => trivial).bind rest
  apply stays (Uses.notify _) (.refl formed)
  intro _ middle later
  apply Ends.timed _ ?value fun _ _ _ _ => trivial
  case value =>
    rintro bundle after notice ⟨image, isBundle, above, below, creates⟩
    exact ⟨image, isBundle, above, below, creates.of_simulators rfl (Nat.le_refl _)⟩
  apply stays (Uses.resolve registry backend) later
  intro provider middle later
  have creates : Ends (native (provider.table.call (Simulator.programCreate handle context.handle
        (Ownership.ofKeep keeps).ownsNative))) middle
      (fun wrapper => host.Creates ⟨wrapper, provider⟩) (fun _ _ => True) := by
    apply ends_native.mpr
    apply (ends_creates (.of_answer (.programCreate handle context.handle
      (Ownership.ofKeep keeps).ownsNative) rfl) later ?_).imp
    · exact fun _ _ creates => creates
    · exact fun _ _ _ => trivial
    intro sim
    apply Simulator.answers_programCreate.imp
    · exact fun _ _ wraps => ⟨wraps.handle_eq, wraps.after_eq ▸ rfl⟩
    · exact fun _ _ _ => trivial
  apply creates.bind
  intro wrapper middle creates
  have keeps : ∀ {program : ProgramRef} {β : Type} {body : ImportM β} {next : β → ImportM KernelBundle}
      {middle : Host} {ok : KernelBundle → Host → Prop}, OnlyCalls body →
      host.Creates program middle →
      (∀ b after, host.Creates program after → Ends (next b) after ok fun _ _ => True) →
      Ends (body >>= next) middle ok fun _ _ => True :=
    fun uses creates rest => (((uses _ Host.respects_creates).ends _ creates).imp
      (fun _ _ creates => creates) fun _ _ _ => trivial).bind rest
  apply keeps (OnlyCalls.takeReferenceIfNeeded provider (.of_done (.programRetain wrapper) rfl)
    (.of_done (.programRelease wrapper) rfl)) creates
  intro _ middle creates
  apply keeps (OnlyCalls.orRelease (.of_quiet (Uses.listDevices trivial wrapper))) creates
  intro handles middle creates
  apply keeps (Uses.notify _) creates
  intro _ middle creates
  apply (ends_advance_creates creates).bind
  intro built middle creates
  apply keeps (OnlyCalls.orRelease (.of_quiet (Uses.manageDevices trivial [] handles))) creates
  intro devices after creates
  rw [ends_bind, ends_freshIdentity]
  exact ends_pure.mpr ⟨⟨after.nextIdentity, built.current, built.superseded, devices, target⟩, rfl,
    creates.nextIdentity_le, Nat.lt_succ_self _, creates.of_simulators rfl (Nat.le_succ _)⟩

end ComputeImport
