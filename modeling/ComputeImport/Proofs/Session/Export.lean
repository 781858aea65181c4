import ComputeImport.Proofs.Session.Accounts

/-!
# Asking for what has been imported

Every command keeps what has been imported before, and adds what it has imported itself.  So whatever
the steps of a session were, all that is alive is asked for its native object with success, and tells
what it was imported from.
-/

namespace ComputeImport

namespace Session

variable {imports : List Origin} {session : Session} {host : Host}

/-- Setting more backends up. -/
theorem Exports.adds (exports : Exports imports [] session) (adds : session.host.Adds host) :
    Exports imports [] { session with host } := by
  have living : host.livingObjects [] = session.host.livingObjects [] := by
    rw [Host.livingObjects, adds.held]
    rfl
  constructor
  case toGrounded => exact exports.toGrounded.adds adds
  case sole =>
    rw [living]
    exact exports.sole
  case backed =>
    intro imported member isLiving reply accessor isReply isAccessor
    rw [living] at isLiving
    obtain ⟨wrapper, found, rest⟩ :=
      exports.backed imported member isLiving reply accessor isReply isAccessor
    exact ⟨wrapper, adds.stores _ ▸ found, rest⟩
  case numbers =>
    intro imported member isReply accessor isAccessor
    have below := exports.numbers imported member isReply accessor isAccessor
    rw [Host.Numbers] at below ⊢
    rw [adds.stores]
    exact below
  case origin =>
    rw [living]
    exact exports.origin

/-- What has been imported is an account of a session. -/
theorem accounting_exports : Accounting Exports := by
  constructor
  case grounded => exact fun exports => exports.toGrounded
  case pend => exact fun exports has => exports.pend has
  case hold => exact fun exports known => exports.hold known
  case letGo => exact fun exports => exports.letGo
  case spare => exact fun exports spares => exports.spare spares
  case bring => exact fun exports brings => exports.bring brings
  case adds => exact fun exports adds => exports.adds adds
  case register =>
    exact fun exports within wide => ⟨exports.toGrounded.register within wide, exports.sole,
      exports.backed, exports.numbers, exports.origin⟩

/-! ## Runs -/

theorem exports_step (exports : Exports imports [] session) {next : Step}
    (indirect : next.command.isIndirect = true) :
    Exports (imports ++ match (session.step next).1 with
      | .ok reply => session.host.imported next.command reply
      | .error _ => []) [] (session.step next).2 := by
  refine @step_of_ends session next (fun outcome => Exports (imports ++ match outcome with
    | .ok reply => session.host.imported next.command reply
    | .error _ => []) []) ?_
  apply (accounting_exports.execute exports indirect).imp
  · exact fun _ _ exports => exports
  · intro _ _ exports
    rw [List.append_nil]
    exact exports

theorem exports_run {steps : List Step} (exports : Exports imports [] session)
    (indirect : ∀ next ∈ steps, next.command.isIndirect = true) :
    Exports (imports ++ session.imports steps) [] (session.run steps).2 := by
  induction steps generalizing session imports with
  | nil =>
      rw [Session.imports, List.append_nil]
      exact exports
  | cons next steps ih =>
      obtain ⟨isFirst, areRest⟩ := List.forall_mem_cons.mp indirect
      rw [Session.imports, ← List.append_assoc]
      exact ih (exports_step exports isFirst) areRest

/-- A session starts with nothing imported. -/
theorem exports_opening {configs : List SimulatorConfig} {plans : List RegistryPlan}
    (environment : Text.Environment) (reaches : ∀ plan ∈ plans, plan.Reaches configs.length) :
    Exports [] [] (opening configs plans environment) := by
  have nothing : ∀ object,
      object ∉ (opening configs plans environment).host.livingObjects [] := by
    intro object member
    rw [Host.livingObjects, held_opening] at member
    contradiction
  constructor
  case toGrounded => exact grounded_opening environment reaches
  case sole => exact fun owner other member => absurd member (nothing _)
  case backed => exact List.forall_mem_nil _
  case numbers => exact List.forall_mem_nil _
  case origin => exact fun object member => absurd member (nothing _)

/-- Sessions over backends that were given, after steps short of direct calls of function tables. -/
def Indirect (session : Session) : Prop :=
  ∃ configs plans environment steps, (∀ plan ∈ plans, plan.Reaches configs.length) ∧
    (∀ next ∈ steps, next.command.isIndirect = true) ∧
    session = ((opening configs plans environment).run steps).2

theorem Indirect.exports {session : Session} (indirect : session.Indirect) :
    ∃ imports, Exports imports [] session := by
  obtain ⟨configs, plans, environment, steps, reaches, areIndirect, rfl⟩ := indirect
  exact ⟨_, exports_run (exports_opening environment reaches) areIndirect⟩

/-- The wrapper of a context is live while the context is alive. -/
theorem Indirect.live_context {session : Session} (indirect : session.Indirect) {context : Context}
    (alive : .context context ∈ session.host.owners) :
    (session.host.simulator context.provider.table.simulator).store.HasWrapper context.handle := by
  obtain ⟨imports, exports⟩ := indirect.exports
  have living : (Owner.context context).managed ∈ session.host.livingObjects [] :=
    Host.managed_mem_livingObjects.mpr (List.mem_flatMap.mp alive)
  obtain ⟨reply, wrapper, found, isKind, -⟩ := exports.backs_owner living rfl
  exact ⟨wrapper, found, isKind⟩

/-! ## Asking -/

/-- All that is alive has been imported, and when it is asked for its native object, and that has not
been told to fail, it tells what it has been imported from. -/
structure Tells (imports : List Origin) (host : Host) : Prop where
  origin : ∀ object ∈ host.objects, object.accessor? ≠ none →
    ∃ imported ∈ imports, imported.object = object ∧ imported.IsProper
  told : ∀ imported ∈ imports, imported.object ∈ host.objects →
    ∀ reply accessor, imported.reply = some reply → imported.object.accessor? = some accessor →
      (host.simulator accessor.token.simulator).failures.get? accessor.entryPoint = none →
      Ends accessor.ask host (fun told _ => told = reply) (fun _ _ => False)

/-- So it is in every session over backends that were given, whatever the steps were short of direct
calls of function tables. -/
theorem tells_imports {configs : List SimulatorConfig} {plans : List RegistryPlan}
    {steps : List Step} (environment : Text.Environment)
    (reaches : ∀ plan ∈ plans, plan.Reaches configs.length)
    (indirect : ∀ next ∈ steps, next.command.isIndirect = true) :
    Tells ((opening configs plans environment).imports steps)
      ((opening configs plans environment).run steps).2.host := by
  have exports := exports_run (exports_opening environment reaches) indirect
  rw [List.nil_append] at exports
  refine ⟨exports.origin, ?_⟩
  intro imported member living reply accessor isReply isAccessor unset
  refine ends_askBacked isAccessor ?_ unset
  exact exports.backed imported member (fun owner same => same ▸ living) reply accessor isReply
    isAccessor

/-- A queue keeps its context and its device, while the caller gives up all that is native. -/
def orphaning : List Step :=
  [⟨.caller 0 .createPlatform, none⟩,
    ⟨.caller 0 (.createDevice ⟨4096⟩), none⟩,
    ⟨.caller 0 (.createContext [⟨4097⟩]), none⟩,
    ⟨.caller 0 (.createQueue ⟨4097⟩), none⟩,
    ⟨.makeContext (some 0) ⟨4098⟩ .openCl, some "context"⟩,
    ⟨.makeQueue (some 0) ⟨4099⟩ 7 "context" none true {} .openCl, some "queue"⟩,
    ⟨.drop "context", none⟩,
    ⟨.caller 0 (.release ⟨4099⟩), none⟩,
    ⟨.caller 0 (.release ⟨4098⟩), none⟩,
    ⟨.caller 0 (.release ⟨4097⟩), none⟩,
    ⟨.caller 0 (.release ⟨4096⟩), none⟩]

/-- The native object, and for a queue the descriptor, that a reply tells. -/
def told? : Reply → Option (NativeHandle × Option Int32)
  | .handle native => some (native, none)
  | .queue native descriptor => some (native, some descriptor)
  | _ => none

/-- The context, the queue, its device and its platform tell what they were imported from when nothing
native is live any more. -/
theorem tells_imports_orphaned :
    (∀ plan ∈ [RegistryPlan.listed [{ backend := .openCl, table := { simulator := 0 } }] {}],
      plan.Reaches [SimulatorConfig.openCl].length) ∧
    (∀ next ∈ orphaning, next.command.isIndirect = true) ∧
    Tells (single.imports orphaning) (single.run orphaning).2.host ∧
    ((single.run orphaning).2.host.simulator 0).store.natives.size = 0 ∧
    (∀ imported ∈ single.imports orphaning,
      imported.object ∈ (single.run orphaning).2.host.objects) ∧
    (single.imports orphaning).map (fun imported => imported.reply.bind told?) =
      [some (⟨4098⟩, none), some (⟨4099⟩, some 7), some (⟨4097⟩, none), some (⟨4096⟩, none)] := by
  have reaches : ∀ plan ∈ [RegistryPlan.listed
      [{ backend := .openCl, table := { simulator := 0 } }] {}],
      plan.Reaches [SimulatorConfig.openCl].length := by
    rw [List.forall_mem_singleton]
    exact List.forall_mem_singleton.mpr Nat.zero_lt_one
  have indirect : ∀ next ∈ orphaning, next.command.isIndirect = true := by decide
  refine ⟨reaches, indirect, ?_, by decide +kernel, by decide +kernel, by decide +kernel⟩
  unfold single
  exact tells_imports {} reaches indirect

end Session

end ComputeImport
