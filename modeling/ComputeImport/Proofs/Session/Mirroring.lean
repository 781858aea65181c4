import ComputeImport.Proofs.Import.Mirroring
import ComputeImport.Proofs.Session.History
import ComputeImport.Session.Opening
import ComputeImport.Session.Run

/-!
# Sessions over tables in exchange

Two sessions run the same steps.  In the first some backends lack the entry points for chosen
devices.  In the second these backends are hidden behind tables that delegate all other calls.
Nothing that the steps bring back tells the two sessions apart, as long as the caller does not ask a
hidden backend itself about those entry points.  Neither does the state of any backend, but for the
refused calls that only the backends of the first session have recorded.
-/

namespace ComputeImport

open Simulator

variable {α β : Type} {hidden : List Nat}

/-! ## What the caller does directly -/

/-- Whether an action of the caller has to do with the entry points for chosen devices. -/
def CallerAction.unveils : CallerAction → Bool
  | .callCount entryPoint | .inject entryPoint _ => entryPoint.isForDevices
  | .config => true
  | _ => false

/-- Whether a command has to do with the entry points for chosen devices of a hidden backend, and
does not go through its table. -/
def Command.unveils (hidden : List Nat) : Command → Bool
  | .caller number action => hidden.contains number && action.unveils
  | .ask (.simulator number) (.call call) =>
      hidden.contains number && call.entryPoint.isForDevices
  | _ => false

/-- The other entry points are called as often, whether or not calls for chosen devices are kept. -/
theorem Simulator.Lacks.callCount {sim sim' : Simulator} (lacks : sim.Lacks sim')
    {entryPoint : EntryPoint} (other : entryPoint.isForDevices = false) :
    sim.callCount entryPoint = sim'.callCount entryPoint := by
  unfold Simulator.callCount
  rw [← lacks.calls, Call.others, List.countP_filter]
  refine List.countP_congr fun call _ => ?_
  constructor
  · intro isCalled
    have same : call.entryPoint = entryPoint := by simpa using isCalled
    simp [same, other]
  · intro isCalled
    simp only [Bool.and_eq_true] at isCalled
    exact isCalled.1

/-- The caller does not tell a backend that lacks the entry points from one that has them. -/
theorem blind_act {action : CallerAction} (veiled : action.unveils = false) :
    Blind (Session.act action) := by
  cases action with
  | createPlatform =>
      refine Blind.map (Parallel.get_bind fun sim sim' lacks => ?_) _
      have kind : sim.config.platformKind = sim'.config.platformKind := by
        rw [lacks.config]
        rfl
      dsimp only
      rw [kind]
      exact Blind.onStore _
  | createDevice | createContext | createQueue | createEvent | createProgram | createKernel
  | createMem | setStage | retain | release =>
      exact (Blind.onStore _).map _
  | stage program device =>
      refine Blind.read fun sim sim' lacks => ?_
      simp only [programStage?, program?, lacks.store]
  | nativeRefs handle =>
      refine Blind.read fun sim sim' lacks => ?_
      simp only [nativeRefs?, lacks.store]
  | isAlive handle =>
      refine Blind.read fun sim sim' lacks => ?_
      simp only [isAlive, lacks.store]
  | wrapperRefs id =>
      refine Blind.read fun sim sim' lacks => ?_
      simp only [wrapperRefs?, lacks.store]
  | programNative program =>
      refine Blind.read fun sim sim' lacks => ?_
      simp only [programBehind?, wrapper?, lacks.store]
  | liveWrappers =>
      refine Blind.read fun sim sim' lacks => ?_
      simp only [liveWrappers, lacks.store]
  | queueFlags queue =>
      refine Blind.read fun sim sim' lacks => ?_
      simp only [queueFlags?, wrapper?, lacks.store]
  | callCount entryPoint =>
      refine Blind.read fun sim sim' lacks => ?_
      rw [lacks.callCount veiled]
  | clearCalls =>
      refine Blind.map (Blind.modify fun sim sim' lacks => ?_) _
      exact { lacks with calls := rfl }
  | inject entryPoint error =>
      refine Blind.map (Blind.modify fun sim sim' lacks => ?_) _
      refine { lacks with failures := ?_, unset := ?_ }
      · exact congrArg (Ledger.set · entryPoint error) lacks.failures
      · intro other isFor
        have different : entryPoint ≠ other := by
          rintro rfl
          exact Bool.false_ne_true (veiled.symm.trans isFor)
        rw [Ledger.get?_set, if_neg different]
        exact lacks.unset other isFor
  | lastOptions =>
      refine Blind.read fun sim sim' lacks => ?_
      rw [lacks.lastOptions]
  | config => contradiction

/-! ## Sessions that are alike -/

/-- The reply with the managed objects and registries that it shows through other tables. -/
def Reply.via (change : Provider → Provider) : Reply → Reply
  | .object value => .object (value.via change)
  | .registry shown => .registry (shown.via change)
  | reply => reply

theorem Reply.via_of_isBare {change : Provider → Provider} {reply : Reply}
    (bare : reply.isBare = true) : reply.via change = reply := by
  cases reply with
  | object _ | registry _ => contradiction
  | _ => rfl

namespace Session

/-- The hosts of two sessions are alike, and their registries resolve tables in exchange. -/
structure Alike (hidden : List Nat) (session session' : Session) : Prop where
  host : session.host.Alike hidden session'.host
  given : session.given = session'.given
  registries : session.registries.mapValues (Registry.via (Provider.exchange hidden)) =
    session'.registries
  processWide : session.processWide.map (Registry.via (Provider.exchange hidden)) =
    session'.processWide
  environment : session.environment = session'.environment
  plain : ∀ number registry, session.registries.get? number = some registry →
    registry.IsPlain hidden
  plainWide : ∀ registry, session.processWide = some registry → registry.IsPlain hidden

/-- From sessions that are alike, the second program does what the first does, and brings back what
the first brings back, changed. -/
abbrev Mirrors (hidden : List Nat) (change : α → α) (program program' : SessionM α) : Prop :=
  Mirrored (Alike hidden) change program program'

/-! ### Doing something with the host -/

theorem parallel_managed {ok : α → α → Prop} {body body' : ImportM α}
    (parallel : Parallel (Host.Alike hidden) body body' ok) :
    Parallel (Alike hidden) (managed body) (managed body') ok := by
  intro session session' alike
  unfold Agree
  simp only [ends_managed]
  refine (parallel _ _ alike.host).imp ?_ ?_
  · exact fun a after a' after' ended => ⟨ended.1, { alike with host := ended.2 }⟩
  · rintro e after e' after' ⟨rfl, hosts⟩
    exact ⟨rfl, { alike with host := hosts }⟩

theorem parallel_table {ok : α → α → Prop} {body body' : TableM α}
    (parallel : Parallel (Host.Alike hidden) body body' ok) :
    Parallel (Alike hidden) (table body) (table body') ok := by
  intro session session' alike
  unfold Agree
  simp only [ends_table]
  refine (parallel _ _ alike.host).imp ?_ ?_
  · exact fun a after a' after' ended => ⟨ended.1, { alike with host := ended.2 }⟩
  · rintro e after e' after' ⟨rfl, hosts⟩
    exact ⟨rfl, { alike with host := hosts }⟩

theorem mirrors_setup (body : SetupM Filter α) : Mirrors hidden id (setup body) (setup body) := by
  intro session session' alike
  unfold Agree Ends setup
  dsimp only
  rw [← alike.host.output]
  cases body session.host.output with
  | ok a output => exact ⟨rfl, { alike with host := { alike.host with output := rfl } }⟩
  | error e output => exact ⟨rfl, { alike with host := { alike.host with output := rfl } }⟩

/-! ### Looking things up -/

theorem mirrors_lookup (name : String) :
    Mirrors hidden (Managed.via (Provider.exchange hidden)) (lookup name) (lookup name) := by
  refine Parallel.get_bind fun session session' alike => ?_
  rw [← alike.host.held, Ledger.get?_mapValues]
  cases session.host.held.get? name with
  | some value => exact Mirrored.pure value
  | none => exact Mirrored.throw _

theorem mirrors_lookupContext (name : String) :
    Mirrors hidden (Context.via (Provider.exchange hidden)) (lookupContext name)
      (lookupContext name) := by
  refine (mirrors_lookup name).bind fun value => ?_
  cases value with
  | context context => exact Mirrored.pure context
  | _ => exact Mirrored.throw _

theorem mirrors_lookupDevice (name : String) :
    Mirrors hidden (Device.via (Provider.exchange hidden)) (lookupDevice name)
      (lookupDevice name) := by
  refine (mirrors_lookup name).bind fun value => ?_
  cases value with
  | device device => exact Mirrored.pure device
  | _ => exact Mirrored.throw _

theorem mirrors_lookupPlatform (name : String) :
    Mirrors hidden (Platform.via (Provider.exchange hidden)) (lookupPlatform name)
      (lookupPlatform name) := by
  refine (mirrors_lookup name).bind fun value => ?_
  cases value with
  | platform platform => exact Mirrored.pure platform
  | _ => exact Mirrored.throw _

theorem mirrors_lookupQueue (name : String) :
    Mirrors hidden (Queue.via (Provider.exchange hidden)) (lookupQueue name)
      (lookupQueue name) := by
  refine (mirrors_lookup name).bind fun value => ?_
  cases value with
  | queue queue => exact Mirrored.pure queue
  | _ => exact Mirrored.throw _

theorem mirrors_lookupBundle (name : String) :
    Mirrors hidden (KernelBundle.via (Provider.exchange hidden)) (lookupBundle name)
      (lookupBundle name) := by
  refine (mirrors_lookup name).bind fun value => ?_
  cases value with
  | bundle bundle => exact Mirrored.pure bundle
  | _ => exact Mirrored.throw _

theorem mirrors_lookupKernel (name : String) :
    Mirrors hidden (Kernel.via (Provider.exchange hidden)) (lookupKernel name)
      (lookupKernel name) := by
  refine (mirrors_lookup name).bind fun value => ?_
  cases value with
  | kernel kernel => exact Mirrored.pure kernel
  | _ => exact Mirrored.throw _

theorem mirrors_lookupBundles (names : List String) :
    Mirrors hidden (List.map (KernelBundle.via (Provider.exchange hidden)))
      (lookupBundles names) (lookupBundles names) := by
  induction names with
  | nil => exact Mirrored.pure []
  | cons name names ih =>
      exact (mirrors_lookupBundle name).bind fun bundle => ih.bind fun bundles =>
        Mirrored.pure (bundle :: bundles)

/-- The process-wide registries are made alike, of reference backends that are not hidden. -/
theorem parallel_processWideRegistry :
    Parallel (Alike hidden) processWideRegistry processWideRegistry
      fun registry registry' => registry.via (Provider.exchange hidden) = registry' ∧
        registry.IsPlain hidden := by
  have makes : ∀ environment : Text.Environment, Parallel (Host.Alike hidden)
      (referenceRegistry environment : ImportM Registry) (referenceRegistry environment)
      fun registry registry' => registry.via (Provider.exchange hidden) = registry' ∧
        registry.IsPlain hidden :=
    @ComputeImport.Mirrors.referenceRegistry ImportError hidden
  unfold processWideRegistry
  -- The registry of reference backends is not to be evaluated.
  generalize (referenceRegistry : Text.Environment → ImportM Registry) = making at makes ⊢
  refine Parallel.get_bind fun session session' alike => ?_
  rw [← alike.processWide]
  cases found : session.processWide with
  | some registry => exact Parallel.pure ⟨rfl, alike.plainWide registry found⟩
  | none =>
      refine Parallel.get_bind fun session session' alike => ?_
      dsimp only
      rw [← alike.environment]
      have initialises := Parallel.bind
        (ComputeImport.Mirrors.notify .registryInitialised .registryInitialised) fun _ _ _ =>
          makes session.environment
      refine Parallel.bind (parallel_managed initialises) ?_
      rintro registry _ ⟨rfl, plain⟩
      refine Parallel.bind (Parallel.modify fun session session' alike => ?_) fun _ _ _ =>
        Parallel.pure ⟨rfl, plain⟩
      exact { alike with
        processWide := rfl
        plainWide := fun other found => Option.some.inj found ▸ plain }

theorem parallel_lookupRegistry (registry : Option Nat) :
    Parallel (Alike hidden) (lookupRegistry registry) (lookupRegistry registry)
      fun registry registry' => registry.via (Provider.exchange hidden) = registry' ∧
        registry.IsPlain hidden := by
  cases registry with
  | none => exact parallel_processWideRegistry
  | some number =>
      refine Parallel.get_bind fun session session' alike => ?_
      rw [← alike.registries, Ledger.get?_mapValues]
      cases found : session.registries.get? number with
      | some registry => exact Parallel.pure ⟨rfl, alike.plain number registry found⟩
      | none => exact Parallel.throw

/-! ### Holding what is made -/

theorem mirrors_keep (name : Option String) (value : Managed) :
    Mirrors hidden (Reply.via (Provider.exchange hidden)) (keep name value)
      (keep name (value.via (Provider.exchange hidden))) := by
  have letGo : ∀ value : Managed, Parallel (Alike hidden)
      (modify fun session => { session with host := session.host.letGo value } : SessionM Unit)
      (modify fun session =>
        { session with host := session.host.letGo (value.via (Provider.exchange hidden)) })
      fun _ _ => True :=
    fun value => Parallel.modify fun session session' alike =>
      { alike with host := alike.host.letGo value }
  have shown : Mirrors hidden (Reply.via (Provider.exchange hidden))
      (Pure.pure (Reply.object value) : SessionM Reply)
      (Pure.pure (Reply.object (value.via (Provider.exchange hidden)))) :=
    Mirrored.pure (Reply.object value)
  cases name with
  | none => exact Parallel.bind (letGo value) fun _ _ _ => shown
  | some name =>
      refine Parallel.get_bind fun session session' alike => ?_
      rw [← alike.host.held, Ledger.get?_mapValues]
      refine Parallel.bind (Parallel.modify fun session session' alike => ?_) fun _ _ _ => ?_
      · refine { alike with host := { alike.host with held := ?_ } }
        exact (Ledger.mapValues_set name value).trans
          (congrArg (Ledger.set · name _) alike.host.held)
      · cases session.host.held.get? name with
        | some old => exact Parallel.bind (letGo old) fun _ _ _ => shown
        | none => exact shown

theorem Alike.forget {session session' : Session} (alike : session.Alike hidden session')
    (name : String) : (session.forget name).Alike hidden (session'.forget name) := by
  unfold Session.forget
  rw [← alike.host.held, Ledger.get?_mapValues]
  cases session.host.held.get? name with
  | none => exact alike
  | some value =>
      have erased : Host.Alike hidden
          { session.host with held := session.host.held.erase name }
          { session'.host with held := (session.host.held.mapValues
              (Managed.via (Provider.exchange hidden))).erase name } :=
        { alike.host with held := Ledger.mapValues_erase name }
      exact { alike with host := erased.letGo value }

/-! ### Looking at managed objects -/

theorem part?_via {change : Provider → Provider} (part : Part) (value : Managed) :
    part? part (value.via change) = (part? part value).map (Managed.via change) := by
  cases part with
  | device index =>
      cases index with
      | none => cases value <;> rfl
      | some index =>
          cases value with
          | bundle bundle =>
              simp only [Managed.via, KernelBundle.via, part?, List.getElem?_map, Option.map_map]
              rfl
          | image image =>
              simp only [Managed.via, DeviceImage.via, part?, List.getElem?_map, Option.map_map]
              rfl
          | _ => rfl
  | _ => cases value <;> rfl

/-- Objects that came through different tables stay different. -/
theorem same?_via {change : Provider → Provider} (apart : Function.Injective change)
    (first second : Managed) :
    same? (first.via change) (second.via change) = same? first second := by
  cases first <;> cases second <;>
    simp [same?, Managed.via, apart.eq_iff, (Platform.via_injective apart).eq_iff,
      (Device.via_injective apart).eq_iff, (Context.via_injective apart).eq_iff]

/-- Inspection shows no tables but their names, and tables in exchange give themselves one name. -/
theorem shape_via {host host' : Host} (alike : host.Alike hidden host') (value : Managed) :
    shape host' (value.via (Provider.exchange hidden)) = shape host value := by
  have image : ∀ image : DeviceImage,
      (image.via (Provider.exchange hidden)).shape = image.shape := by
    intro image
    simp [DeviceImage.via, DeviceImage.shape, ProgramRef.via, Function.comp_def]
  cases value with
  | image held => exact image held
  | bundle held =>
      simp only [Managed.via, shape, KernelBundle.via, KernelBundle.shape, List.map_map,
        Function.comp_def, image]
      rfl
  | kernel held =>
      simp only [Managed.via, shape, Kernel.via, Kernel.shape, KernelBundle.via, KernelBundle.size,
        List.length_map]
  | provider held =>
      simp only [Managed.via, shape, Provider.exchange, alike.name]
      rfl
  | _ => rfl

/-! ### Commands -/

theorem mirrors_checkSimulator (number : Nat) :
    Mirrors hidden id (checkSimulator number) (checkSimulator number) := by
  refine Parallel.get_bind fun session session' alike => ?_
  rw [alike.given]
  split
  · exact Mirrored.throw _
  · exact Mirrored.pure ()

/-- A hidden backend that is asked itself answers calls of the other entry points alike. -/
theorem mirrors_direct {number : Nat} {call : Call}
    (veiled : number ∈ hidden → call.entryPoint.isForDevices = false) :
    ComputeImport.Mirrors hidden id (Table.answer { simulator := number } call)
      (Table.answer { simulator := number } call) := by
  by_cases isHidden : number ∈ hidden
  · have other := veiled isHidden
    cases call with
    | programCompileFor | programBuildFor | programLinkFor => contradiction
    | programNumDevices program =>
        have counts : Blind (Simulator.programNumDevices program) := .perform rfl (.onStore _)
        exact ((ComputeImport.Mirrors.onSimulator fun _ => counts).bind fun _ =>
          Mirrored.pure _).bind fun _ => Mirrored.pure _
    | _ => exact ComputeImport.Mirrors.onSimulator fun _ => Blind.answer _ rfl
  · have answers := ComputeImport.Mirrors.answer
      (fun known => absurd known isHidden : Table.IsPlain hidden { simulator := number }) call
    rwa [Table.exchange_of_notMem isHidden] at answers

theorem mirrors_ask {target : TableTarget} {request : TableRequest}
    (veiled : (Command.ask target request).unveils hidden = false) :
    Mirrors hidden (Reply.via (Provider.exchange hidden)) (ask target request)
      (ask target request) := by
  cases target with
  | simulator number =>
      have finds : Parallel (Alike hidden) (targetTable (.simulator number))
          (targetTable (.simulator number))
          fun table table' => table = { simulator := number } ∧ table' = { simulator := number } :=
        Parallel.bind (mirrors_checkSimulator number) fun _ _ _ => Parallel.pure ⟨rfl, rfl⟩
      refine Parallel.bind finds ?_
      rintro _ _ ⟨rfl, rfl⟩
      cases request with
      | name =>
          refine Parallel.get_bind fun session session' alike => ?_
          have name : Table.name { simulator := number } session'.host =
              Table.name { simulator := number } session.host := alike.host.configName number
          rw [name]
          exact Mirrored.pure (Reply.text _)
      | call call =>
          have other : number ∈ hidden → call.entryPoint.isForDevices = false := by
            intro isHidden
            simpa [Command.unveils, isHidden] using veiled
          exact Mirrored.bind (parallel_table (mirrors_direct other))
            fun _ => Mirrored.pure (Reply.answer _)
  | registered registry backend =>
      have finds : Parallel (Alike hidden) (targetTable (.registered registry backend))
          (targetTable (.registered registry backend))
          fun table table' => table.exchange hidden = table' ∧ table.IsPlain hidden := by
        refine Parallel.bind (parallel_lookupRegistry registry) ?_
        rintro registry _ ⟨rfl, plain⟩
        refine Parallel.bind (parallel_managed
          (ComputeImport.Mirrors.resolve_found registry backend)) ?_
        rintro provider _ ⟨rfl, found⟩
        exact Parallel.pure ⟨rfl, plain.provider found⟩
      refine Parallel.bind finds ?_
      rintro table _ ⟨rfl, plain⟩
      cases request with
      | name =>
          refine Parallel.get_bind fun session session' alike => ?_
          rw [alike.host.name]
          exact Mirrored.pure (Reply.text _)
      | call call =>
          exact Mirrored.bind (parallel_table (ComputeImport.Mirrors.answer plain call))
            fun _ => Mirrored.pure (Reply.answer _)

theorem mirrors_install (number : Nat) :
    Mirrors hidden (Reply.via (Provider.exchange hidden)) (install number) (install number) := by
  refine Parallel.get_bind fun session session' alike => ?_
  rw [← alike.registries, Ledger.get?_mapValues]
  cases found : session.registries.get? number with
  | none => exact Mirrored.throw _
  | some registry =>
      have plain := alike.plain number registry found
      refine Parallel.bind (Parallel.modify fun session session' alike => ?_) fun _ _ _ => ?_
      · refine { alike with registries := ?_, plain := ?_ }
        · rw [Ledger.mapValues_erase, alike.registries]
        · intro other kept found
          rw [Ledger.get?_erase] at found
          split at found
          · exact absurd found.symm (Option.some_ne_none kept)
          · exact alike.plain other kept found
      · refine Parallel.get_bind fun session session' alike => ?_
        rw [← alike.processWide]
        cases session.processWide with
        | some _ => exact Mirrored.throw _
        | none =>
            refine Parallel.bind (Parallel.modify fun session session' alike => ?_)
              fun _ _ _ => ?_
            · exact { alike with
                processWide := rfl
                plainWide := fun other found => Option.some.inj found ▸ plain }
            · rw [Registry.backends_via]
              exact Mirrored.pure (Reply.backends registry.backends)

theorem mirrors_nativeHandle (name : String) :
    Mirrors hidden (Reply.via (Provider.exchange hidden)) (nativeHandle name)
      (nativeHandle name) := by
  have asks : ∀ {α : Type} (table : Table) {step : Native α}, Blind step →
      Mirrors hidden id (managed (native (table.call step)))
        (managed (native ((table.exchange hidden).call step))) :=
    fun table _ blind => parallel_managed (ComputeImport.Mirrors.nativeCall table blind)
  refine (mirrors_lookup name).bind fun value => ?_
  cases value with
  | platform platform =>
      exact (asks platform.provider.table (.perform rfl (.onStore _))).bind fun _ =>
        Mirrored.pure (Reply.handle _)
  | device device =>
      exact (asks device.platform.provider.table (.perform rfl (.onStore _))).bind fun _ =>
        Mirrored.pure (Reply.handle _)
  | context context =>
      exact (asks context.provider.table (.perform rfl (.onStore _))).bind fun _ =>
        Mirrored.pure (Reply.handle _)
  | queue queue =>
      exact (asks queue.provider.table (.perform rfl (.onStore _))).bind fun _ =>
        Mirrored.pure (Reply.queue _ _)
  | event event =>
      exact (asks event.provider.table (.perform rfl (.onStore _))).bind fun _ =>
        Mirrored.pure (Reply.handle _)
  | kernel kernel =>
      exact (asks kernel.provider.table (.perform rfl (.onStore _))).bind fun _ =>
        Mirrored.pure (Reply.handle _)
  | image _ | bundle _ | provider _ => exact Mirrored.throw _

theorem mirrors_answerQuestion (queue : Queue) (memory : List (Nat × MemHandle))
    (question : Question) :
    ComputeImport.Mirrors hidden id (answerQuestion queue memory question)
      (answerQuestion (queue.via (Provider.exchange hidden)) memory question) := by
  have asks : ∀ {α : Type} (table : Table) {step : Native α}, Blind step →
      ComputeImport.Mirrors hidden id (native (table.call step))
        (native ((table.exchange hidden).call step)) :=
    fun table _ blind => ComputeImport.Mirrors.nativeCall table blind
  cases question with
  | backend => exact Mirrored.pure _
  | device =>
      exact (asks queue.device.platform.provider.table (.perform rfl (.onStore _))).bind fun _ =>
        Mirrored.pure _
  | context =>
      exact (asks queue.context.provider.table (.perform rfl (.onStore _))).bind fun _ =>
        Mirrored.pure _
  | queue =>
      exact (asks queue.provider.table (.perform rfl (.onStore _))).bind fun _ =>
        Mirrored.pure _
  | memory requirement =>
      have answers : ComputeImport.Mirrors hidden id (queue.nativeMem memory requirement)
          ((queue.via (Provider.exchange hidden)).nativeMem memory requirement) := by
        unfold Queue.nativeMem
        cases memory.find? fun entry => entry.1 == requirement with
        | none => exact Mirrored.throw _
        | some entry => exact asks queue.provider.table (.perform rfl (.onStore _))
      exact answers.bind fun _ => Mirrored.pure _

theorem mirrors_answerQuestions (queue : Queue) (memory : List (Nat × MemHandle))
    (questions : List Question) :
    ComputeImport.Mirrors hidden id (answerQuestions queue memory questions)
      (answerQuestions (queue.via (Provider.exchange hidden)) memory questions) := by
  induction questions with
  | nil => exact Mirrored.pure []
  | cons question questions ih =>
      intro host host' alike
      unfold Agree
      simp only [ends_answerQuestions_cons]
      rcases (mirrors_answerQuestion queue memory question host host' alike).cases with
        ⟨reply, after, reply', after', outcome, outcome', rfl, alike⟩ |
        ⟨e, after, e', after', outcome, outcome', rfl, alike⟩
      · simp only [ends_iff_of_ok outcome, ends_iff_of_ok outcome']
        refine (ih after after' alike).imp ?_ fun _ _ _ _ => id
        rintro replies last replies' last' ⟨rfl, alike⟩
        exact ⟨rfl, alike⟩
      · simp only [ends_iff_of_error outcome, ends_iff_of_error outcome']
        refine (ih after after' alike).imp ?_ fun _ _ _ _ => id
        rintro replies last replies' last' ⟨rfl, alike⟩
        exact ⟨rfl, alike⟩

/-- A command that makes something through a registry and keeps it is mirrored, when the making
is. -/
theorem mirrors_make {α : Type} {change : α → α} {wrap : α → Managed}
    {making making' : Registry → ImportM α} (name : Option String) (registry : Option Nat)
    (wraps : ∀ made, (wrap made).via (Provider.exchange hidden) = wrap (change made))
    (makes : ∀ registry : Registry, registry.IsPlain hidden →
      ComputeImport.Mirrors hidden change (making registry)
        (making' (registry.via (Provider.exchange hidden)))) :
    Mirrors hidden (Reply.via (Provider.exchange hidden))
      (lookupRegistry registry >>= fun registry => managed (making registry) >>= fun made =>
        keep name (wrap made))
      (lookupRegistry registry >>= fun registry => managed (making' registry) >>= fun made =>
        keep name (wrap made)) := by
  refine Parallel.bind (parallel_lookupRegistry registry) ?_
  rintro registry _ ⟨rfl, plain⟩
  refine Mirrored.bind (parallel_managed (makes registry plain)) fun made => ?_
  rw [← wraps]
  exact mirrors_keep name (wrap made)

/-- What a command does is mirrored, unless it unveils a hidden backend. -/
theorem mirrors_execute (name : Option String) {command : Command}
    (veiled : command.unveils hidden = false) :
    Mirrors hidden (Reply.via (Provider.exchange hidden)) (execute name command)
      (execute name command) := by
  cases command with
  | caller number action =>
      have acts : number ∈ hidden → Blind (act action) := by
        intro isHidden
        exact blind_act (by simpa [Command.unveils, isHidden] using veiled)
      have blind : ComputeImport.Mirrors hidden id (onSimulator number (act action))
          (onSimulator number (act action)) := .onSimulator acts
      have bare : ∀ host, Ends (onSimulator number (act action)) host
          (fun reply _ => reply.isBare = true) fun _ _ => True :=
        fun host => ends_onSimulator.mpr (ends_act_bare action _)
      refine (mirrors_checkSimulator number).bind fun _ => parallel_table ?_
      intro host host' alike
      refine ((blind host host' alike).and_ok (bare host) (bare host')).imp ?_
        fun _ _ _ _ => id
      rintro reply after reply' after' ⟨⟨rfl, alike⟩, isBare, -⟩
      exact ⟨Reply.via_of_isBare isBare, alike⟩
  | ask target request => exact mirrors_ask veiled
  | resolve registry backend =>
      exact mirrors_make name registry (fun _ => rfl) fun registry _ =>
        ComputeImport.Mirrors.resolve registry backend
  | inspectRegistry registry =>
      refine Parallel.bind (parallel_lookupRegistry registry) ?_
      rintro registry _ ⟨rfl, plain⟩
      exact Mirrored.pure (Reply.registry registry)
  | install number => exact mirrors_install number
  | makePlatform registry handle backend =>
      exact mirrors_make name registry (fun _ => rfl) fun registry _ =>
        ComputeImport.Mirrors.makePlatform registry handle backend
  | makeDevice registry handle backend =>
      exact mirrors_make name registry (fun _ => rfl) fun registry _ =>
        ComputeImport.Mirrors.makeDevice registry handle backend
  | makeContext registry handle backend =>
      exact mirrors_make name registry (fun _ => rfl) fun registry _ =>
        ComputeImport.Mirrors.makeContext registry handle backend
  | makeQueue registry handle descriptor context device keeps properties backend =>
      refine (mirrors_lookupContext context).bind fun context => ?_
      cases device with
      | none =>
          exact mirrors_make name registry (fun _ => rfl) fun registry _ =>
            ComputeImport.Mirrors.makeQueue registry handle descriptor context none keeps
              properties backend
      | some device =>
          have found : Mirrors hidden (Option.map (Device.via (Provider.exchange hidden)))
              (some <$> lookupDevice device) (some <$> lookupDevice device) := by
            rw [map_eq_pure_bind]
            exact (mirrors_lookupDevice device).bind fun device => Mirrored.pure (some device)
          refine found.bind fun device => ?_
          exact mirrors_make name registry (fun _ => rfl) fun registry _ =>
            ComputeImport.Mirrors.makeQueue registry handle descriptor context device keeps
              properties backend
  | makeEvent registry handle context keeps backend =>
      refine (mirrors_lookupContext context).bind fun context => ?_
      exact mirrors_make name registry (fun _ => rfl) fun registry _ =>
        ComputeImport.Mirrors.makeEvent registry handle context keeps backend
  | importProgram registry handle context keeps target backend =>
      refine (mirrors_lookupContext context).bind fun context => ?_
      exact mirrors_make name registry (fun _ => rfl) fun registry plain =>
        ComputeImport.Mirrors.importProgram registry plain handle context keeps target backend
  | importKernel registry handle context bundle keeps backend =>
      refine (mirrors_lookupContext context).bind fun context => ?_
      refine (mirrors_lookupBundle bundle).bind fun bundle => ?_
      exact mirrors_make name registry (fun _ => rfl) fun registry _ =>
        ComputeImport.Mirrors.importKernel registry context bundle handle keeps backend
  | makeKernel registry handle context backend =>
      refine (mirrors_lookupContext context).bind fun context => ?_
      exact mirrors_make name registry (fun _ => rfl) fun registry _ =>
        ComputeImport.Mirrors.importKernel registry context (.empty context .executable) handle
          false backend
  | emptyBundle context state =>
      exact (mirrors_lookupContext context).bind fun context =>
        mirrors_keep name (.bundle (.empty context state))
  | join bundles =>
      refine (mirrors_lookupBundles bundles).bind fun bundles => ?_
      rw [KernelBundle.join_via Provider.exchange_injective]
      cases KernelBundle.join bundles with
      | ok bundle => exact mirrors_keep name (.bundle bundle)
      | error e => exact Mirrored.throw _
  | image bundle index =>
      refine (mirrors_lookupBundle bundle).bind fun bundle => ?_
      unfold KernelBundle.via
      rw [List.getElem?_map]
      cases bundle.images[index]? with
      | some image => exact mirrors_keep name (.image image)
      | none => exact Mirrored.throw _
  | kernelNames value =>
      refine (mirrors_lookup value).bind fun value => ?_
      cases value with
      | bundle bundle =>
          exact Mirrored.bind (parallel_managed (ComputeImport.Mirrors.bundleKernelNames bundle))
            fun _ => Mirrored.pure (Reply.texts _)
      | image image =>
          exact Mirrored.bind (parallel_managed
              (ComputeImport.Mirrors.kernelNames image)) fun _ => Mirrored.pure (Reply.texts _)
      | _ => exact Mirrored.throw _
  | hasKernel value kernel =>
      refine (mirrors_lookup value).bind fun value => ?_
      cases value with
      | bundle bundle =>
          exact Mirrored.bind (parallel_managed
              (ComputeImport.Mirrors.imagesHaveKernel kernel bundle.images))
            fun _ => Mirrored.pure (Reply.flag _)
      | image image =>
          exact Mirrored.bind (parallel_managed
              (ComputeImport.Mirrors.hasKernel image kernel)) fun _ => Mirrored.pure (Reply.flag _)
      | _ => exact Mirrored.throw _
  | part value part =>
      refine (mirrors_lookup value).bind fun value => ?_
      rw [part?_via]
      cases part? part value with
      | some found => exact mirrors_keep name found
      | none => exact Mirrored.throw _
  | deviceOfPlatform platform device =>
      exact (mirrors_lookupPlatform platform).bind fun platform =>
        Mirrored.bind (parallel_managed (ComputeImport.Mirrors.findOrMakeDevice platform device []))
          fun device => mirrors_keep name (.device device)
  | platformBackend platform =>
      refine (mirrors_lookupPlatform platform).bind fun platform => ?_
      have reports : ComputeImport.Mirrors hidden id platform.reportedBackend
          (platform.via (Provider.exchange hidden)).reportedBackend :=
        (ComputeImport.Mirrors.nativeCall platform.provider.table
          (.perform rfl (.onStore _))).bind fun _ => Mirrored.pure _
      exact Mirrored.bind (parallel_managed reports) fun _ => Mirrored.pure (Reply.backend _)
  | nativeHandle value => exact mirrors_nativeHandle value
  | describe value =>
      exact (mirrors_lookup value).bind fun value => Mirrored.pure (Reply.object value)
  | bundleOf kernel =>
      exact (mirrors_lookupKernel kernel).bind fun kernel =>
        Mirrored.pure (Reply.object (.bundle kernel.bundle))
  | inspect value spread =>
      refine (mirrors_lookup value).bind fun value => ?_
      refine Parallel.get_bind fun session session' alike => ?_
      rw [shape_via alike.host]
      exact Mirrored.pure (Reply.text _)
  | same first second =>
      refine (mirrors_lookup first).bind fun first => ?_
      refine (mirrors_lookup second).bind fun second => ?_
      rw [same?_via Provider.exchange_injective]
      cases same? first second with
      | some same => exact Mirrored.pure (Reply.flag same)
      | none => exact Mirrored.throw _
  | copy value => exact (mirrors_lookup value).bind fun value => mirrors_keep name value
  | drop value =>
      refine (mirrors_lookup value).bind fun _ => ?_
      exact Parallel.bind (Parallel.modify fun _ _ alike => alike.forget value)
        fun _ _ _ => Mirrored.pure Reply.nothing
  | access queue memory questions =>
      exact (mirrors_lookupQueue queue).bind fun queue =>
        Mirrored.bind (parallel_managed (mirrors_answerQuestions queue memory questions))
          fun _ => Mirrored.pure (Reply.each _)
  | setThreshold limit =>
      refine (mirrors_setup _).bind fun _ => ?_
      refine Parallel.get_bind fun session session' alike => ?_
      rw [alike.host.output]
      exact Mirrored.pure (Reply.threshold _)
  | getThreshold =>
      refine Parallel.get_bind fun session session' alike => ?_
      rw [alike.host.output]
      exact Mirrored.pure (Reply.threshold _)
  | initialiseJournal settings =>
      refine Parallel.get_bind fun session session' alike => ?_
      dsimp only
      rw [alike.environment]
      refine (mirrors_setup _).bind fun _ => ?_
      refine Parallel.get_bind fun session session' alike => ?_
      rw [alike.host.output]
      exact Mirrored.pure (Reply.threshold _)
  | initialiseTestJournal =>
      refine Parallel.get_bind fun session session' alike => ?_
      dsimp only
      rw [alike.environment]
      exact (mirrors_setup _).bind fun _ => Mirrored.pure Reply.nothing
  | emit event =>
      refine Parallel.get_bind fun session session' alike => ?_
      dsimp only
      rw [alike.host.output]
      exact Mirrored.pure (Reply.printed _)

/-! ## Runs -/

section Runs

variable {session session' : Session}

theorem Alike.step (alike : session.Alike hidden session') {next : Step}
    (veiled : next.command.unveils hidden = false) :
    (session'.step next).1 = (session.step next).1.map (Reply.via (Provider.exchange hidden)) ∧
      (session.step next).2.Alike hidden (session'.step next).2 := by
  unfold Session.step
  rcases (mirrors_execute next.name veiled session session' alike).cases with
    ⟨reply, after, reply', after', outcome, outcome', rfl, alike⟩ |
    ⟨e, after, e', after', outcome, outcome', rfl, alike⟩
  · rw [outcome, outcome']
    exact ⟨rfl, alike⟩
  · rw [outcome, outcome']
    exact ⟨rfl, alike⟩

theorem Alike.run (alike : session.Alike hidden session') {steps : List Step}
    (veiled : ∀ step ∈ steps, step.command.unveils hidden = false) :
    (session'.run steps).1 =
        (session.run steps).1.map (Except.map (Reply.via (Provider.exchange hidden))) ∧
      (session.run steps).2.Alike hidden (session'.run steps).2 := by
  induction steps generalizing session session' with
  | nil => exact ⟨rfl, alike⟩
  | cons next steps ih =>
      rw [List.forall_mem_cons] at veiled
      obtain ⟨same, alike⟩ := alike.step veiled.1
      obtain ⟨more, alike⟩ := ih alike veiled.2
      refine ⟨?_, alike⟩
      simp only [Session.run, List.map_cons, same, more]

/-- The same names are left, and let go of in the same order. -/
theorem Alike.close (alike : session.Alike hidden session') :
    session.close.Alike hidden session'.close := by
  have forgetAll : ∀ (names : List String) {session session' : Session},
      session.Alike hidden session' →
      (names.foldl (fun session name => session.forget name) session).Alike hidden
        (names.foldl (fun session name => session.forget name) session') := by
    intro names
    induction names with
    | nil => exact id
    | cons name names ih => exact fun alike => ih (alike.forget name)
  have names : session'.names = session.names := by
    unfold Session.names
    rw [← alike.host.held, Ledger.keys_mapValues]
  unfold Session.close
  rw [names]
  exact forgetAll session.names alike

end Runs

/-! ## Openings -/

/-- Configurations, numbered from `next` on, of which those in `hidden` lack the entry points for
chosen devices. -/
def withhold (hidden : List Nat) : Nat → List SimulatorConfig → List SimulatorConfig
  | _, [] => []
  | next, config :: configs =>
      (if next ∈ hidden then config.wholeProgramsOnly else config) ::
        withhold hidden (next + 1) configs

theorem length_withhold (next : Nat) (configs : List SimulatorConfig) :
    (withhold hidden next configs).length = configs.length := by
  induction configs generalizing next with
  | nil => rfl
  | cons config configs ih => exact congrArg (· + 1) (ih (next + 1))

/-- Two hosts where as many backends have been set up, and nothing else has been done.  Those in
`hidden` lack the entry points for chosen devices at the first host. -/
structure Opens (hidden : List Nat) (size : Nat) (host host' : Host) : Prop where
  lacks : ∀ number ∈ hidden, number < size → (host.simulator number).Lacks (host'.simulator number)
  same : ∀ number ∉ hidden, host.simulator number = host'.simulator number
  keys : host.simulators.keys = List.range size
  keys' : host'.simulators.keys = List.range size
  held : host.held = {}
  held' : host'.held = {}
  caches : host.caches.Alike hidden host'.caches
  nextIdentity : host.nextIdentity = host'.nextIdentity
  kernelLists : host.kernelLists = host'.kernelLists
  output : host.output = host'.output

theorem Opens.alike {size : Nat} {host host' : Host} (opens : Opens hidden size host host')
    (known : ∀ number ∈ hidden, number < size) : host.Alike hidden host' where
  lacks number isHidden := opens.lacks number isHidden (known number isHidden)
  same := opens.same
  keys := opens.keys.trans opens.keys'.symm
  known number isHidden := by
    rw [opens.keys, List.mem_range, Ledger.size_of_keys opens.keys]
    exact ⟨known number isHidden, known number isHidden⟩
  held := by
    rw [opens.held, opens.held']
    rfl
  caches := opens.caches
  nextIdentity := opens.nextIdentity
  kernelLists := opens.kernelLists
  output := opens.output

theorem Opens.setUp {size : Nat} {host host' : Host} (opens : Opens hidden size host host')
    (config : SimulatorConfig) :
    Opens hidden (size + 1)
      (withBackend host size (if size ∈ hidden then config.wholeProgramsOnly else config))
      (withBackend host' size config) where
  lacks number isHidden below := by
    rw [simulator_withBackend, simulator_withBackend]
    split
    · rename_i isSize
      rw [if_pos (isSize ▸ isHidden)]
      exact Lacks.fresh config
    · exact opens.lacks number isHidden (by omega)
  same number visible := by
    rw [simulator_withBackend, simulator_withBackend]
    split
    · rename_i isSize
      rw [if_neg (isSize ▸ visible)]
    · exact opens.same number visible
  keys := by
    rw [withBackend, Ledger.keys_set, opens.keys, if_neg List.not_mem_range_self, List.range_succ]
  keys' := by
    rw [withBackend, Ledger.keys_set, opens.keys', if_neg List.not_mem_range_self, List.range_succ]
  held := opens.held
  held' := opens.held'
  caches := opens.caches
  nextIdentity := opens.nextIdentity
  kernelLists := opens.kernelLists
  output := opens.output

theorem agree_setUpAll {ε : Type} (configs : List SimulatorConfig) {size : Nat}
    {host host' : Host} (opens : Opens hidden size host host') :
    Agree (setUpAll (withhold hidden size configs) : EStateM ε Host Unit) host (setUpAll configs)
      host' (fun _ after _ after' => Opens hidden (size + configs.length) after after')
      fun e after e' after' => e = e' ∧ after.Alike hidden after' := by
  induction configs generalizing size host host' with
  | nil => exact opens
  | cons config configs ih =>
      have more := ih (opens.setUp config)
      rw [Nat.add_right_comm, Nat.add_assoc] at more
      unfold Agree at more ⊢
      simp only [withhold, setUpAll, ends_bind, ComputeImport.setUp, ends_modifyGet,
        Ledger.size_of_keys opens.keys, Ledger.size_of_keys opens.keys']
      exact more

end Session

/-- The plan to register tables in exchange. -/
def RegistryPlan.exchange (hidden : List Nat) : RegistryPlan → RegistryPlan
  | .reference => .reference
  | .listed registrations options =>
      .listed (registrations.map (Registration.exchange hidden)) options

/-- The tables of a plan do not delegate to the backends in `hidden`. -/
def RegistryPlan.IsPlain (hidden : List Nat) : RegistryPlan → Prop
  | .reference => True
  | .listed registrations _ =>
      ∀ registration ∈ registrations, registration.table.IsPlain hidden

namespace Session

theorem parallel_fill {ε : Type} (environment : Text.Environment) {plan : RegistryPlan}
    (plain : plan.IsPlain hidden) :
    Parallel (Host.Alike hidden) (plan.fill environment : EStateM ε Host Registry)
      ((plan.exchange hidden).fill environment)
      fun made made' => made.via (Provider.exchange hidden) = made' ∧ made.IsPlain hidden := by
  cases plan with
  | reference => exact @ComputeImport.Mirrors.referenceRegistry ε hidden environment
  | listed registrations options =>
      exact ComputeImport.Mirrors.registerAll { options } registrations
        (Registry.isPlain_empty options) plain

theorem parallel_fillAll {ε : Type} (environment : Text.Environment) (next : Nat)
    {plans : List RegistryPlan} (plain : ∀ plan ∈ plans, plan.IsPlain hidden) :
    Parallel (Host.Alike hidden)
      (fillAll environment next plans : EStateM ε Host (Ledger Nat Registry))
      (fillAll environment next (plans.map (RegistryPlan.exchange hidden)))
      fun made made' => made.mapValues (Registry.via (Provider.exchange hidden)) = made' ∧
        ∀ number registry, made.get? number = some registry → registry.IsPlain hidden := by
  induction plans generalizing next with
  | nil => exact Parallel.pure ⟨rfl, fun _ _ found => absurd found.symm (Option.some_ne_none _)⟩
  | cons plan plans ih =>
      rw [List.forall_mem_cons] at plain
      refine Parallel.bind (parallel_fill environment plain.1) ?_
      rintro registry _ ⟨rfl, isPlain⟩
      refine Parallel.bind (ih (next + 1) plain.2) ?_
      rintro more _ ⟨rfl, plainMore⟩
      refine Parallel.pure ⟨rfl, ?_⟩
      intro number found isFound
      simp only [Ledger.get?, Ledger.find] at isFound
      split at isFound
      · exact Option.some.inj isFound ▸ isPlain
      · exact plainMore number found isFound

/-- Sessions are alike where the one is opened over backends that lack the entry points for chosen
devices, and the other over tables that delegate in exchange. -/
theorem alike_opening (configs : List SimulatorConfig) {plans : List RegistryPlan}
    (environment : Text.Environment) (known : ∀ number ∈ hidden, number < configs.length)
    (plain : ∀ plan ∈ plans, plan.IsPlain hidden) :
    (opening (withhold hidden 0 configs) plans environment).Alike hidden
      (opening configs (plans.map (RegistryPlan.exchange hidden)) environment) := by
  have bare : Opens hidden 0 {} {} := {
    lacks := fun _ _ below => absurd below (Nat.not_lt_zero _)
    same := fun _ _ => rfl
    keys := rfl
    keys' := rfl
    held := rfl
    held' := rfl
    caches := Caches.alike_empty
    nextIdentity := rfl
    kernelLists := rfl
    output := rfl }
  have below : ∀ number ∈ hidden, number < 0 + configs.length := by
    rwa [Nat.zero_add]
  have setsUp := @agree_setUpAll hidden Empty configs 0 {} {} bare
  have fills := setsUp.bind fun _ after _ after' opens =>
    parallel_fillAll environment 0 plain after after' (opens.alike below)
  unfold opening
  dsimp only
  rcases fills.cases with
    ⟨made, host, made', host', outcome, outcome', ⟨rfl, plain⟩, alike⟩ | ⟨e, _⟩
  · rw [outcome, outcome', length_withhold]
    exact {
      host := alike
      given := rfl
      registries := rfl
      processWide := rfl
      environment := rfl
      plain
      plainWide := fun _ found => absurd found.symm (Option.some_ne_none _) }
  · exact e.elim

end Session

/-- Two backends are the same but for their configurations and their calls for chosen devices. -/
structure Simulator.SameButForDevices (sim sim' : Simulator) : Prop where
  store : sim.store = sim'.store
  lastOptions : sim.lastOptions = sim'.lastOptions
  failures : sim.failures = sim'.failures
  calls : Call.others sim.calls = Call.others sim'.calls

theorem Simulator.Lacks.sameButForDevices {sim sim' : Simulator} (lacks : sim.Lacks sim') :
    sim.SameButForDevices sim' := by
  refine ⟨lacks.store, lacks.lastOptions, lacks.failures, ?_⟩
  rw [← lacks.calls, Call.others, Call.others, List.filter_filter]
  simp

theorem Host.Alike.sameButForDevices {host host' : Host} (alike : host.Alike hidden host')
    (number : Nat) :
    (host.simulator number).SameButForDevices (host'.simulator number) := by
  by_cases isHidden : number ∈ hidden
  · exact (alike.lacks number isHidden).sameButForDevices
  · rw [alike.same number isHidden]
    exact ⟨rfl, rfl, rfl, rfl⟩

namespace Session

/-- Backends can be without the entry points for chosen devices in two ways: they lack them, or they
are hidden behind tables that delegate all other calls.  Whatever the steps of a session, unless the
caller asks a hidden backend itself about these entry points or sets failures for them, every step
brings back the same either way, up to the exchange of the tables that managed objects keep.  After
every step and at the end the backends are the same, but for the refused calls that a backend which
lacks the entry points has recorded. -/
theorem run_withhold_mirrors (configs : List SimulatorConfig) (plans : List RegistryPlan)
    (environment : Text.Environment) (steps : List Step)
    (known : ∀ number ∈ hidden, number < configs.length)
    (plain : ∀ plan ∈ plans, plan.IsPlain hidden)
    (veiled : ∀ step ∈ steps, step.command.unveils hidden = false) :
    let lacking := opening (withhold hidden 0 configs) plans environment
    let delegating := opening configs (plans.map (RegistryPlan.exchange hidden)) environment
    (delegating.run steps).1 =
        (lacking.run steps).1.map (Except.map (Reply.via (Provider.exchange hidden))) ∧
      (∀ count number,
        ((lacking.run (steps.take count)).2.host.simulator number).SameButForDevices
          ((delegating.run (steps.take count)).2.host.simulator number)) ∧
      ∀ number, ((lacking.run steps).2.close.host.simulator number).SameButForDevices
        ((delegating.run steps).2.close.host.simulator number) := by
  intro lacking delegating
  have alike : lacking.Alike hidden delegating := alike_opening configs environment known plain
  refine ⟨(alike.run veiled).1, ?_, ?_⟩
  · intro count number
    have few : ∀ step ∈ steps.take count, step.command.unveils hidden = false :=
      fun step member => veiled step (List.mem_of_mem_take member)
    exact (alike.run few).2.host.sameButForDevices number
  · exact (alike.run veiled).2.close.host.sameButForDevices

/-- A program is imported as compiled, over a backend that is used by its first device. -/
def compiling : List Step :=
  [⟨.caller 0 .createPlatform, none⟩,
    ⟨.caller 0 (.createDevice ⟨4096⟩), none⟩,
    ⟨.caller 0 (.createContext [⟨4097⟩]), none⟩,
    ⟨.caller 0 (.createProgram [⟨4097⟩] .unbuilt ["main"]), none⟩,
    ⟨.makeContext (some 0) ⟨4098⟩ .cuda, some "context"⟩,
    ⟨.importProgram (some 0) ⟨4099⟩ "context" true .object .cuda, some "bundle"⟩,
    ⟨.drop "bundle", none⟩]

/-- One backend with a table that passes on all calls, or all but those for chosen devices. -/
def tabled (config : SimulatorConfig) (delegation : Option Delegation) : Session :=
  opening [config]
    [.listed [{ backend := .cuda, table := { simulator := 0, delegation } }] {}] {}

/-- Compiling is refused for the chosen device, by the backend in the one session and by the table
in the other, and falls back to the whole program in both. -/
theorem run_withhold_mirrors_compiling :
    (∀ number ∈ [0], number < [SimulatorConfig.cuda].length) ∧
    (∀ plan ∈ [RegistryPlan.listed [{ backend := .cuda, table := { simulator := 0 } }] {}],
      plan.IsPlain [0]) ∧
    (∀ step ∈ compiling, step.command.unveils [0] = false) ∧
    ((tabled .cuda (some {})).run compiling).1 =
      ((tabled SimulatorConfig.cuda.wholeProgramsOnly none).run compiling).1.map
        (Except.map (Reply.via (Provider.exchange [0]))) ∧
    (((tabled SimulatorConfig.cuda.wholeProgramsOnly none).run compiling).2.host.simulator
      0).calls.map Call.entryPoint =
        [.contextCreate, .programCreate, .programNumDevices, .programDevices, .programBinaryType,
          .programCompileFor, .programCompile, .devicePlatform, .programRelease] ∧
    (((tabled .cuda (some {})).run compiling).2.host.simulator 0).calls.map Call.entryPoint =
      [.contextCreate, .programCreate, .programNumDevices, .programDevices, .programBinaryType,
        .programCompile, .devicePlatform, .programRelease] := by
  have known : ∀ number ∈ [0], number < [SimulatorConfig.cuda].length := by decide
  have plain : ∀ plan ∈ [RegistryPlan.listed
      [{ backend := .cuda, table := { simulator := 0 } }] {}], plan.IsPlain [0] := by
    intro plan member
    obtain rfl := List.mem_singleton.mp member
    intro registration registered _
    obtain rfl := List.mem_singleton.mp registered
    rfl
  have veiled : ∀ step ∈ compiling, step.command.unveils [0] = false := by decide
  refine ⟨known, plain, veiled, ?_, by decide +kernel, by decide +kernel⟩
  exact (run_withhold_mirrors [.cuda] _ {} compiling known plain veiled).1

end Session

end ComputeImport
