import ComputeImport.Proofs.Import.Export
import ComputeImport.Proofs.Import.Uses
import ComputeImport.Proofs.Managed.Derivation

/-!
# What commands come to

A command first finds the objects that it names.  From there on it is one of a few tasks: it shows or
keeps something that is derived from what is held, asks the backends of something that is held, or
obtains an object through a registry; or else it is about the registries, about what is printed or
about a backend itself.  `ComesTo` lists the tasks, so that what every command leaves behind is shown
once for each task.
-/

namespace ComputeImport

/-! ## Replies and commands -/

/-- Commands that call a backend directly, with whichever handles the caller chooses. -/
def Command.isDirect : Command → Bool
  | caller .. | ask _ (.call _) => true
  | _ => false

/-- The values that a reply shows. -/
def Reply.values : Reply → List Managed
  | object value => [value]
  | _ => []

/-- Whether a reply shows neither a managed object nor a registry. -/
def Reply.isBare : Reply → Bool
  | object _ | registry _ => false
  | _ => true

theorem Reply.isBare_ofOption {α : Type} {reply : α → Reply} (bare : ∀ a, (reply a).isBare = true)
    (shown : Option α) : (ofOption reply shown).isBare = true := by
  cases shown with
  | none => rfl
  | some a => exact bare a

theorem Reply.values_of_isBare {reply : Reply} (bare : reply.isBare = true) :
    reply.values = [] := by
  cases reply with
  | object _ => contradiction
  | _ => rfl

/-- Commands that import an object, through a registry or for a platform. -/
def Command.isImport : Command → Bool
  | resolve .. | makePlatform .. | makeDevice .. | makeContext .. | makeQueue .. | makeEvent ..
  | importProgram .. | importKernel .. | makeKernel .. | deviceOfPlatform .. => true
  | _ => false

namespace Session

variable {session : Session} {held : Ledger String Managed} {name : Option String} {label : String}
  {command : Command}

/-! ## The parts of a command -/

theorem ends_managed {α : Type} {body : ImportM α}
    {ok : α → Session → Prop} {failed : Failure → Session → Prop} :
    Ends (managed body) session ok failed ↔
      Ends body session.host (fun a host => ok a { session with host })
        (fun e host => failed (.managed e) { session with host }) := by
  unfold Ends managed
  cases body session.host <;> exact Iff.rfl

theorem ends_table {α : Type} {body : TableM α}
    {ok : α → Session → Prop} {failed : Failure → Session → Prop} :
    Ends (table body) session ok failed ↔
      Ends body session.host (fun a host => ok a { session with host })
        (fun e host => failed (.table e) { session with host }) := by
  unfold Ends table
  cases body session.host <;> exact Iff.rfl

theorem ends_setup {α : Type} {body : SetupM Filter α} {holds : Session → Prop}
    (kept : ∀ output, holds { session with host := { session.host with output } }) :
    Ends (setup body) session (fun _ => holds) (fun _ => holds) := by
  unfold Ends setup
  dsimp only
  cases body session.host.output <;> exact kept _

/-! ## Finding what is named -/

theorem ends_lookup :
    Ends (lookup label) session
      (fun value after => after = session ∧ session.host.held.get? label = some value)
      (fun _ after => after = session) := by
  unfold lookup
  rw [ends_bind, ends_get]
  cases found : session.host.held.get? label with
  | none => exact rfl
  | some value => exact ⟨rfl, rfl⟩

theorem ends_lookupContext :
    Ends (lookupContext label) session
      (fun context after => after = session ∧
        session.host.held.get? label = some (.context context))
      (fun _ after => after = session) := by
  apply ends_lookup.bind
  rintro value _ ⟨rfl, held⟩
  cases value with
  | context context => exact ⟨rfl, held⟩
  | _ => exact rfl

theorem ends_lookupDevice :
    Ends (lookupDevice label) session
      (fun device after => after = session ∧ session.host.held.get? label = some (.device device))
      (fun _ after => after = session) := by
  apply ends_lookup.bind
  rintro value _ ⟨rfl, held⟩
  cases value with
  | device device => exact ⟨rfl, held⟩
  | _ => exact rfl

theorem ends_lookupPlatform :
    Ends (lookupPlatform label) session
      (fun platform after => after = session ∧
        session.host.held.get? label = some (.platform platform))
      (fun _ after => after = session) := by
  apply ends_lookup.bind
  rintro value _ ⟨rfl, held⟩
  cases value with
  | platform platform => exact ⟨rfl, held⟩
  | _ => exact rfl

theorem ends_lookupQueue :
    Ends (lookupQueue label) session
      (fun queue after => after = session ∧ session.host.held.get? label = some (.queue queue))
      (fun _ after => after = session) := by
  apply ends_lookup.bind
  rintro value _ ⟨rfl, held⟩
  cases value with
  | queue queue => exact ⟨rfl, held⟩
  | _ => exact rfl

theorem ends_lookupBundle :
    Ends (lookupBundle label) session
      (fun bundle after => after = session ∧ session.host.held.get? label = some (.bundle bundle))
      (fun _ after => after = session) := by
  apply ends_lookup.bind
  rintro value _ ⟨rfl, held⟩
  cases value with
  | bundle bundle => exact ⟨rfl, held⟩
  | _ => exact rfl

theorem ends_lookupKernel :
    Ends (lookupKernel label) session
      (fun kernel after => after = session ∧ session.host.held.get? label = some (.kernel kernel))
      (fun _ after => after = session) := by
  apply ends_lookup.bind
  rintro value _ ⟨rfl, held⟩
  cases value with
  | kernel kernel => exact ⟨rfl, held⟩
  | _ => exact rfl

theorem ends_lookupBundles {labels : List String} :
    Ends (lookupBundles labels) session
      (fun bundles after => after = session ∧
        ∀ bundle ∈ bundles, .bundle bundle ∈ session.host.held.values)
      (fun _ after => after = session) := by
  induction labels with
  | nil => exact ⟨rfl, fun _ member => absurd member List.not_mem_nil⟩
  | cons label labels ih =>
      apply ends_lookupBundle.bind
      rintro bundle _ ⟨rfl, held⟩
      apply ih.bind
      rintro bundles _ ⟨rfl, areHeld⟩
      rw [ends_pure, List.forall_mem_cons]
      exact ⟨rfl, Ledger.mem_values_of_get? held, areHeld⟩

/-! ## What is obtained through a registry -/

/-- What a command obtains through a registry: the number of the registry, the import, and the kind of
object that it makes.  The objects that the command names have been found. -/
inductive Obtains (held : Ledger String Managed) : {α : Type} → Command → Option Nat → (α → Managed) →
    (Registry → ImportM α) → Prop
  | provider {number backend} :
      Obtains held (.resolve number backend) number .provider fun registry =>
        registry.resolve backend
  | platform {number handle backend} :
      Obtains held (.makePlatform number handle backend) number .platform fun registry =>
        makePlatform registry handle backend
  | device {number handle backend} :
      Obtains held (.makeDevice number handle backend) number .device fun registry =>
        makeDevice registry handle backend
  | context {number handle backend} :
      Obtains held (.makeContext number handle backend) number .context fun registry =>
        makeContext registry handle backend
  | queue {number handle descriptor label named keeps properties backend} {context : Context}
      {given : Option Device} (found : held.get? label = some (.context context))
      (isGiven : Option.Rel (fun label device => held.get? label = some (.device device))
        named given) :
      Obtains held (.makeQueue number handle descriptor label named keeps properties backend)
        number .queue fun registry =>
          makeQueue registry handle descriptor context given keeps properties backend
  | event {number handle label keeps backend} {context : Context}
      (found : held.get? label = some (.context context)) :
      Obtains held (.makeEvent number handle label keeps backend) number .event fun registry =>
        makeEvent registry handle context keeps backend
  | program {number handle label keeps target backend} {context : Context}
      (found : held.get? label = some (.context context)) :
      Obtains held (.importProgram number handle label keeps target backend) number .bundle
        fun registry => importProgram registry handle context keeps target backend
  | kernel {number handle label whole keeps backend} {context : Context} {bundle : KernelBundle}
      (found : held.get? label = some (.context context))
      (isWhole : held.get? whole = some (.bundle bundle)) :
      Obtains held (.importKernel number handle label whole keeps backend) number .kernel
        fun registry => importKernel registry context bundle handle keeps backend
  | loneKernel {number handle label backend} {context : Context}
      (found : held.get? label = some (.context context)) :
      Obtains held (.makeKernel number handle label backend) number .kernel fun registry =>
        makeKernel registry handle context backend

/-- A device that is named for a queue is held. -/
theorem held_of_isGiven {named : Option String} {given : Option Device}
    (isGiven : Option.Rel (fun label device => held.get? label = some (.device device))
      named given) : ∀ device, given = some device → .device device ∈ held.values := by
  rintro device rfl
  cases isGiven with
  | some found => exact Ledger.mem_values_of_get? found

theorem Obtains.onlyCalls {α : Type} {number : Option Nat} {make : α → Managed}
    {body : Registry → ImportM α} (obtains : Obtains held command number make body)
    (registry : Registry) : OnlyCalls (body registry) := by
  cases obtains with
  | provider => exact Uses.resolve registry _
  | platform => exact .of_quiet (Uses.makePlatform (OnlyCalls.within registry) _ _)
  | device => exact .of_quiet (Uses.makeDevice (OnlyCalls.within registry) _ _)
  | context => exact .makeContext registry _ _
  | queue => exact .makeQueue registry _ _ _ _ _ _ _
  | event => exact .makeEvent registry _ _ _ _
  | program => exact .importProgram registry _ _ _ _ _
  | kernel => exact .importKernel registry _ _ _ _ _
  | loneKernel => exact .makeKernel registry _ _ _

/-! ## What the backends of a held object are asked -/

/-- A question is answered, whether or not that succeeds, and then the others are. -/
theorem ends_answerQuestions_cons {queue : Queue} {memory : List (Nat × MemHandle)}
    {question : Question} {questions : List Question} {host : Host}
    {ok : List (Except ImportError Reply) → Host → Prop} {failed : ImportError → Host → Prop} :
    Ends (answerQuestions queue memory (question :: questions)) host ok failed ↔
      Ends (answerQuestion queue memory question) host
        (fun reply after => Ends (answerQuestions queue memory questions) after
          (fun replies => ok (.ok reply :: replies)) failed)
        (fun e after => Ends (answerQuestions queue memory questions) after
          (fun replies => ok (.error e :: replies)) failed) := by
  refine Iff.trans ends_bind ?_
  unfold Ends
  dsimp only
  cases answerQuestion queue memory question host with
  | ok reply after => exact ends_bind
  | error e after => exact ends_bind

/-- What a command asks the backends of a held object, and the object. -/
inductive Inquires (held : Ledger String Managed) : Command → Managed → ImportM Reply → Prop
  | names {label : String} {bundle : KernelBundle}
      (found : held.get? label = some (.bundle bundle)) :
      Inquires held (.kernelNames label) (.bundle bundle) do return .texts (← bundle.kernelNames)
  | imageNames {label : String} {image : DeviceImage}
      (found : held.get? label = some (.image image)) :
      Inquires held (.kernelNames label) (.image image) do return .texts (← image.kernelNames)
  | has {label kernel : String} {bundle : KernelBundle}
      (found : held.get? label = some (.bundle bundle)) :
      Inquires held (.hasKernel label kernel) (.bundle bundle)
        do return .flag (← bundle.hasKernel kernel)
  | imageHas {label kernel : String} {image : DeviceImage}
      (found : held.get? label = some (.image image)) :
      Inquires held (.hasKernel label kernel) (.image image)
        do return .flag (← image.hasKernel kernel)
  | backend {label : String} {platform : Platform}
      (found : held.get? label = some (.platform platform)) :
      Inquires held (.platformBackend label) (.platform platform)
        do return .backend (← platform.reportedBackend)
  | native {label : String} {value : Managed} {accessor : Accessor}
      (found : held.get? label = some value)
      (isAccessor : value.accessor? = some accessor) :
      Inquires held (.nativeHandle label) value accessor.ask
  | questions {label : String} {memory questions} {queue : Queue}
      (found : held.get? label = some (.queue queue)) :
      Inquires held (.access label memory questions) (.queue queue)
        do return .each (← answerQuestions queue memory questions)

section Inquiries

variable {reached : Nat → Prop} {value : Managed}

theorem uses_answerQuestion {queue : Queue}
    (own : reached queue.provider.table.simulator)
    (device : reached queue.device.platform.provider.table.simulator)
    (context : reached queue.context.provider.table.simulator) (memory : List (Nat × MemHandle))
    (question : Question) :
    Uses reached EntryPoint.IsQuiet (answerQuestion queue memory question) := by
  cases question with
  | backend => exact Uses.pure _
  | device => exact Uses.bind (Uses.deviceHandle device) fun _ => Uses.pure _
  | context => exact Uses.bind (Uses.contextHandle context) fun _ => Uses.pure _
  | queue => exact Uses.bind (Uses.queueHandle own) fun _ => Uses.pure _
  | memory requirement =>
      exact Uses.bind (Uses.nativeMem own memory requirement) fun _ => Uses.pure _

theorem uses_answerQuestions {queue : Queue}
    (own : reached queue.provider.table.simulator)
    (device : reached queue.device.platform.provider.table.simulator)
    (context : reached queue.context.provider.table.simulator) (memory : List (Nat × MemHandle))
    (questions : List Question) :
    Uses reached EntryPoint.IsQuiet (answerQuestions queue memory questions) := by
  induction questions with
  | nil => exact Uses.pure _
  | cons question questions ih =>
      refine fun holds respects => ⟨fun host kept => ?_⟩
      have answers := uses_answerQuestion own device context memory question holds respects
      rw [ends_answerQuestions_cons]
      apply (answers.ends host kept).imp
      · exact fun _ after kept => (ih holds respects).ends after kept
      · exact fun _ after kept => (ih holds respects).ends after kept

/-- Asking a value for its native object asks one of the backends that it leads to. -/
theorem uses_ask {accessor : Accessor} (isAccessor : value.accessor? = some accessor)
    (knows : ∀ provider ∈ value.providers, reached provider.table.simulator) :
    Uses reached EntryPoint.IsQuiet accessor.ask := by
  cases value with
  | platform held =>
      obtain rfl := Option.some.inj isAccessor
      exact Uses.bind (Uses.platformHandle (knows _ List.mem_cons_self)) fun _ => Uses.pure _
  | device held =>
      obtain rfl := Option.some.inj isAccessor
      exact Uses.bind (Uses.deviceHandle (knows _ List.mem_cons_self)) fun _ => Uses.pure _
  | context held =>
      obtain rfl := Option.some.inj isAccessor
      exact Uses.bind (Uses.contextHandle (knows _ List.mem_cons_self)) fun _ => Uses.pure _
  | queue held =>
      obtain rfl := Option.some.inj isAccessor
      exact Uses.bind (Uses.queueHandle (knows _ List.mem_cons_self)) fun _ => Uses.pure _
  | event held =>
      obtain rfl := Option.some.inj isAccessor
      exact Uses.bind (Uses.eventHandle (knows _ List.mem_cons_self)) fun _ => Uses.pure _
  | kernel held =>
      obtain rfl := Option.some.inj isAccessor
      exact Uses.bind (Uses.kernelHandle (knows _ List.mem_cons_self)) fun _ => Uses.pure _
  | image | bundle | provider => contradiction

namespace Inquires

variable {body : ImportM Reply} (inquires : Inquires held command value body)

include inquires

theorem isHeld : value ∈ held.values := by
  cases inquires <;> exact Ledger.mem_values_of_get? ‹_›

theorem plain : command.isImport = false := by
  cases inquires <;> rfl

/-- An inquiry asks the backends that the object leads to, and asks them nothing but what there is. -/
theorem uses (knows : ∀ provider ∈ value.providers, reached provider.table.simulator) :
    Uses reached EntryPoint.IsQuiet body := by
  cases inquires with
  | names =>
      refine Uses.bind (Uses.kernelNames fun image member => ?_) fun _ => Uses.pure _
      exact knows _ ((led_image member).2 List.mem_cons_self)
  | imageNames =>
      exact Uses.bind (Uses.imageKernelNames (knows _ List.mem_cons_self)) fun _ => Uses.pure _
  | has =>
      refine Uses.bind (Uses.hasKernel (fun image member => ?_) _) fun _ => Uses.pure _
      exact knows _ ((led_image member).2 List.mem_cons_self)
  | imageHas =>
      exact Uses.bind (Uses.imageHasKernel (knows _ List.mem_cons_self) _) fun _ => Uses.pure _
  | backend =>
      exact Uses.bind (Uses.reportedBackend (knows _ List.mem_cons_self)) fun _ => Uses.pure _
  | native found isAccessor => exact uses_ask isAccessor knows
  | questions =>
      refine Uses.bind (uses_answerQuestions ?_ ?_ ?_ _ _) fun _ => Uses.pure _
      · exact knows _ List.mem_cons_self
      · exact knows _ (List.mem_cons_of_mem _ (List.mem_cons_of_mem _ List.mem_cons_self))
      · exact knows _ (List.mem_cons_of_mem _ List.mem_cons_self)

theorem onlyCalls : OnlyCalls body :=
  .of_quiet (inquires.uses fun _ _ => trivial)

/-- An inquiry brings back no object. -/
theorem ends_plain :
    Ends (managed body) session (fun reply _ => reply.values = []) (fun _ _ => True) := by
  rw [ends_managed]
  cases inquires with
  | native found isAccessor =>
      cases value with
      | image | bundle | provider => contradiction
      | _ =>
          obtain rfl := Option.some.inj isAccessor
          exact Ends.trivial.bind fun _ _ _ => rfl
  | _ => exact Ends.trivial.bind fun _ _ _ => rfl

end Inquires

end Inquiries

/-! ## What a command comes to -/

/-- What a command comes to from a session on, once it has found the objects that it names. -/
inductive ComesTo (held : Ledger String Managed) (name : Option String) : Command → SessionM Reply → Prop
  /-- Something is missing, or does not fit. -/
  | refused {command : Command} (failure : Failure) : ComesTo held name command (throw failure)
  | told {command : Command} {reply : Reply} (plain : command.isImport = false)
      (bare : reply.isBare = true) : ComesTo held name command (pure reply)
  | shown {command : Command} {value : Managed} (plain : command.isImport = false)
      (derived : value.DerivedFrom held.values) :
      ComesTo held name command (pure (.object value))
  | kept {command : Command} {value : Managed} (plain : command.isImport = false)
      (derived : value.DerivedFrom held.values) :
      ComesTo held name command (keep name value)
  | asked {command : Command} {value : Managed} {body : ImportM Reply}
      (inquires : Inquires held command value body) :
      ComesTo held name command (managed body)
  | obtained {α : Type} {command : Command} {number : Option Nat} {make : α → Managed}
      {body : Registry → ImportM α} (obtains : Obtains held command number make body) :
      ComesTo held name command do
        let registry ← lookupRegistry number
        keep name (make (← managed (body registry)))
  | found {label : String} {platform : Platform} {handle : DeviceHandle}
      (isHeld : held.get? label = some (.platform platform)) :
      ComesTo held name (.deviceOfPlatform label handle)
        do keep name (.device (← managed (findOrMakeDevice platform handle [])))
  | dropped {label : String} :
      ComesTo held name (.drop label) do
        modify (forget label)
        return .nothing
  | inspected {number : Option Nat} :
      ComesTo held name (.inspectRegistry number) do return .registry (← lookupRegistry number)
  | installed {number : Nat} : ComesTo held name (.install number) (install number)
  | printed {command : Command} {body : SetupM Filter Unit} {reply : Session → Reply}
      (plain : command.isImport = false) (bare : ∀ after, (reply after).isBare = true) :
      ComesTo held name command do
        setup body
        return reply (← get)
  | acted {number : Nat} {action : CallerAction} :
      ComesTo held name (.caller number action) do
        checkSimulator number
        table (onSimulator number (act action))
  | asksTable {target : TableTarget} {request : TableRequest} :
      ComesTo held name (.ask target request) (ask target request)

theorem managed_reply {α : Type} {body : ImportM α} (reply : α → Reply) :
    (do return reply (← managed body)) = managed (do return reply (← body)) := by
  funext session
  rw [bind_apply, managed, managed, bind_apply]
  cases body session.host <;> rfl

/-- A name is asked for the native object behind what is held under it. -/
theorem nativeHandle_eq (name : String) :
    nativeHandle name = (lookup name >>= fun value =>
      match value.accessor? with
      | some accessor => managed accessor.ask
      | none => throw (.missing name)) := by
  unfold nativeHandle
  apply congrArg (lookup name >>= ·)
  funext value
  cases value with
  | platform | device | context | event | kernel => exact managed_reply _
  | queue queue => exact managed_reply fun answer : NativeHandle × Int32 => .queue answer.1 answer.2
  | image | bundle | provider => rfl

section Execution

variable {ok : Reply → Session → Prop} {failed : Failure → Session → Prop}

/-- What is looked for is found, and nothing has changed, or a command is refused. -/
theorem ends_find {α : Type} {find : SessionM α} {next : α → SessionM Reply} {isFound : α → Prop}
    (found : Ends find session (fun a after => after = session ∧ isFound a)
      (fun _ after => after = session))
    (tasks : ∀ task, ComesTo session.host.held name command task → Ends task session ok failed)
    (rest : ∀ a, isFound a → Ends (next a) session ok failed) :
    Ends (find >>= next) session ok failed := by
  rw [ends_bind]
  apply found.imp
  · rintro a _ ⟨rfl, isFound⟩
    exact rest a isFound
  · rintro failure _ rfl
    exact tasks _ (.refused failure)

/-- A command ends where the tasks end that it may come to. -/
theorem ends_execute
    (tasks : ∀ task, ComesTo session.host.held name command task → Ends task session ok failed) :
    Ends (execute name command) session ok failed := by
  have shows : ∀ {α : Type} {value : Managed} {body : ImportM α} {reply : α → Reply},
      Inquires session.host.held command value (do return reply (← body)) →
      Ends (do return reply (← managed body)) session ok failed := by
    intro α value body reply inquires
    rw [managed_reply]
    exact tasks _ (.asked inquires)
  have whole : ∀ {label : String} {value : Managed}, session.host.held.get? label = some value →
      value.DerivedFrom session.host.held.values := fun found => .whole (Ledger.mem_values_of_get? found)
  cases command with
  | caller number action => exact tasks _ .acted
  | ask target request => exact tasks _ .asksTable
  | resolve number backend => exact tasks _ (.obtained .provider)
  | inspectRegistry number => exact tasks _ .inspected
  | install number => exact tasks _ .installed
  | makePlatform number handle backend => exact tasks _ (.obtained .platform)
  | makeDevice number handle backend => exact tasks _ (.obtained .device)
  | makeContext number handle backend => exact tasks _ (.obtained .context)
  | makeQueue number handle descriptor context device keeps properties backend =>
      apply ends_find ends_lookupContext tasks
      intro context found
      cases device with
      | none =>
          rw [ends_bind, ends_pure]
          exact tasks _ (.obtained (.queue found .none))
      | some device =>
          dsimp only
          rw [map_eq_pure_bind, bind_assoc]
          apply ends_find ends_lookupDevice tasks
          intro device isDevice
          rw [pure_bind]
          exact tasks _ (.obtained (.queue found (.some isDevice)))
  | makeEvent number handle context keeps backend =>
      apply ends_find ends_lookupContext tasks
      exact fun context found => tasks _ (.obtained (.event found))
  | importProgram number handle context keeps target backend =>
      apply ends_find ends_lookupContext tasks
      exact fun context found => tasks _ (.obtained (.program found))
  | importKernel number handle context bundle keeps backend =>
      apply ends_find ends_lookupContext tasks
      intro context found
      apply ends_find ends_lookupBundle tasks
      exact fun bundle isWhole => tasks _ (.obtained (.kernel found isWhole))
  | makeKernel number handle context backend =>
      apply ends_find ends_lookupContext tasks
      exact fun context found => tasks _ (.obtained (.loneKernel found))
  | emptyBundle context state =>
      apply ends_find ends_lookupContext tasks
      exact fun context found => tasks _ (.kept rfl (.empty (Ledger.mem_values_of_get? found)))
  | join bundles =>
      apply ends_find ends_lookupBundles tasks
      intro bundles areHeld
      cases joined : KernelBundle.join bundles with
      | error e => exact tasks _ (.refused (.managed e))
      | ok bundle => exact tasks _ (.kept rfl (.join areHeld joined))
  | image bundle index =>
      apply ends_find ends_lookupBundle tasks
      intro bundle isHeld
      cases found : bundle.images[index]? with
      | none => exact tasks _ (.refused (.missing "image"))
      | some image =>
          exact tasks _ (.kept rfl (.image (Ledger.mem_values_of_get? isHeld)
            (List.mem_of_getElem? found)))
  | kernelNames value =>
      apply ends_find ends_lookup tasks
      intro held isHeld
      cases held with
      | bundle bundle => exact shows (.names isHeld)
      | image image => exact shows (.imageNames isHeld)
      | _ => exact tasks _ (.refused (.missing value))
  | hasKernel value kernel =>
      apply ends_find ends_lookup tasks
      intro held isHeld
      cases held with
      | bundle bundle => exact shows (.has isHeld)
      | image image => exact shows (.imageHas isHeld)
      | _ => exact tasks _ (.refused (.missing value))
  | part value part =>
      apply ends_find ends_lookup tasks
      intro whole isHeld
      cases found : part? part whole with
      | none => exact tasks _ (.refused (.missing part.name))
      | some value => exact tasks _ (.kept rfl (.part (Ledger.mem_values_of_get? isHeld) found))
  | deviceOfPlatform platform device =>
      apply ends_find ends_lookupPlatform tasks
      exact fun platform isHeld => tasks _ (.found isHeld)
  | platformBackend platform =>
      apply ends_find ends_lookupPlatform tasks
      exact fun platform isHeld => shows (.backend isHeld)
  | nativeHandle value =>
      unfold execute
      dsimp only
      rw [nativeHandle_eq]
      apply ends_find ends_lookup tasks
      intro held isHeld
      cases isAccessor : held.accessor? with
      | none => exact tasks _ (.refused (.missing value))
      | some accessor => exact tasks _ (.asked (.native isHeld isAccessor))
  | describe value =>
      apply ends_find ends_lookup tasks
      exact fun value isHeld => tasks _ (.shown rfl (whole isHeld))
  | bundleOf kernel =>
      apply ends_find ends_lookupKernel tasks
      intro kernel isHeld
      have isPart : part? .bundle (.kernel kernel) = some (.bundle kernel.bundle) := rfl
      exact tasks _ (.shown rfl (.part (Ledger.mem_values_of_get? isHeld) isPart))
  | inspect value spread =>
      apply ends_find ends_lookup tasks
      intro value _
      rw [ends_bind, ends_get]
      exact tasks _ (.told rfl rfl)
  | same first second =>
      apply ends_find ends_lookup tasks
      intro first _
      apply ends_find ends_lookup tasks
      intro second _
      cases same? first second with
      | none => exact tasks _ (.refused (.missing "eq"))
      | some same => exact tasks _ (.told rfl rfl)
  | copy value =>
      apply ends_find ends_lookup tasks
      exact fun value isHeld => tasks _ (.kept rfl (whole isHeld))
  | drop value =>
      apply ends_find ends_lookup tasks
      exact fun _ _ => tasks _ .dropped
  | access queue memory questions =>
      apply ends_find ends_lookupQueue tasks
      exact fun queue isHeld => shows (.questions isHeld)
  | setThreshold limit => exact tasks _ (.printed rfl fun _ => rfl)
  | getThreshold =>
      unfold execute
      rw [ends_bind, ends_get]
      exact tasks _ (.told rfl rfl)
  | initialiseJournal settings =>
      unfold execute
      rw [ends_bind, ends_get]
      exact tasks _ (.printed rfl fun _ => rfl)
  | initialiseTestJournal =>
      unfold execute
      rw [ends_bind, ends_get]
      have prints : ComesTo session.host.held name .initialiseTestJournal do
          setup (JournalEngine.standard.initialiseForTests session.environment)
          let _ ← get
          return .nothing := .printed rfl fun _ => rfl
      exact tasks _ prints
  | emit event =>
      unfold execute
      rw [ends_bind, ends_get]
      exact tasks _ (.told rfl rfl)

end Execution

end Session

end ComputeImport
