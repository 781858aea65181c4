import ComputeImport.Proofs.Import.KernelNames
import ComputeImport.Proofs.Import.Listing
import ComputeImport.Proofs.Session.Release

/-!
# What is upheld of all that is alive

A command looks values up, imports others with them, takes them apart, joins them, and holds what it
has made or lets it go.  So what is upheld of the values that are alive by each of these steps is
upheld by every command, of what is held and of what the command shows.  `Upheld` lists the steps.
-/

namespace ComputeImport

/-- The images that a value leads to. -/
def Managed.images : Managed → List DeviceImage
  | image held => [held]
  | bundle held => held.images
  | kernel held => held.bundle.images
  | _ => []

/-- Whether a value leads to no image, no platform and no device. -/
def Managed.isBare : Managed → Bool
  | context _ | event _ | provider _ => true
  | _ => false

/-- What holds of what is held, while that stays as it is. -/
def Over (inv : List Managed → Host → Prop) (held : Ledger String Managed) (host : Host) : Prop :=
  inv held.values host ∧ host.held = held

theorem Overlooks.over {inv : List Managed → Host → Prop} (overlooks : ∀ values, Overlooks (inv values))
    (held : Ledger String Managed) : Overlooks (Over inv held) :=
  (overlooks held.values).and (overlooks_held held)

/-- What is sustained of values together with a host: by whatever does not list kernels, for what is
held meanwhile, by what is let go, when fewer values or a part of one are looked at, and for each value
that is made while something is held. -/
structure Sustained (held : Ledger String Managed) (inv : List Managed → Host → Prop) : Prop where
  fewer : ∀ {values fewer host}, inv values host → fewer ⊆ values → inv fewer host
  overlooks : ∀ held, Overlooks (Over inv held)
  letGo : ∀ {values host} value, inv values host → inv values (host.letGo value)
  hold : ∀ {values host} held, inv values host → inv values { host with held }
  bare : ∀ {values host value}, inv values host → value.isBare = true → inv (value :: values) host
  part : ∀ {values host part whole value}, inv values host → whole ∈ values →
    Session.part? part whole = some value → inv (value :: values) host
  image : ∀ {values host bundle image}, inv values host → .bundle bundle ∈ values →
    image ∈ bundle.images → inv (.image image :: values) host
  empty : ∀ {values host context state}, inv values host → .context context ∈ values →
    inv (.bundle (.empty context state) :: values) host
  join : ∀ {values host bundles joined}, inv values host →
    (∀ bundle ∈ bundles, .bundle bundle ∈ values) → KernelBundle.join bundles = .ok joined →
    inv (.bundle joined :: values) host
  platform : ∀ {host registry native backend}, host.held = held → inv held.values host →
    Ends (makePlatform registry native backend) host
      (fun made after => inv (.platform made :: held.values) after) (fun _ _ => True)
  device : ∀ {host registry native backend}, host.held = held → inv held.values host →
    Ends (makeDevice registry native backend) host
      (fun made after => inv (.device made :: held.values) after) (fun _ _ => True)
  found : ∀ {host platform handle}, host.held = held → inv held.values host →
    .platform platform ∈ held.values →
    Ends (findOrMakeDevice platform handle [] : ImportM Device) host
      (fun made after => inv (.device made :: held.values) after) (fun _ _ => True)
  queue : ∀ {host registry native descriptor context device keeps properties backend},
    host.held = held → inv held.values host → .context context ∈ held.values →
    (∀ given, device = some given → .device given ∈ held.values) →
    Ends (makeQueue registry native descriptor context device keeps properties backend) host
      (fun made after => inv (.queue made :: held.values) after) (fun _ _ => True)
  program : ∀ {host registry native context keeps target backend}, host.held = held →
    inv held.values host → .context context ∈ held.values →
    Ends (importProgram registry native context keeps target backend) host
      (fun made after => inv (.bundle made :: held.values) after) (fun _ _ => True)
  kernel : ∀ {host registry context bundle native keeps backend}, host.held = held →
    inv held.values host → .context context ∈ held.values →
    (.bundle bundle ∈ held.values ∨ bundle = .empty context .executable) →
    Ends (importKernel registry context bundle native keeps backend) host
      (fun made after => inv (.kernel made :: held.values) after) (fun _ _ => True)
  names : ∀ {held host value image}, Over inv held host → value ∈ held.values → image ∈ value.images →
    Ends image.kernelNames host (fun _ => inv held.values) (fun _ => inv held.values)

/-- What is sustained is upheld where it is when a backend is set up, too. -/
structure Upheld (held : Ledger String Managed) (inv : List Managed → Host → Prop) : Prop
    extends Sustained held inv where
  setUp : ∀ {values host} config, inv values host →
    inv values { host with simulators := host.simulators.set host.simulators.size { config } }

namespace Session

variable {inv : List Managed → Host → Prop} {session : Session} {name : Option String}
  {value : Managed} {α : Type}

/-- Something is upheld of what is held. -/
def Maintains (inv : List Managed → Host → Prop) (session : Session) : Prop :=
  inv session.host.held.values session.host

/-- A program of a session upholds something, of what it shows too. -/
def Upholds (inv : List Managed → Host → Prop) (body : SessionM Reply) (session : Session) : Prop :=
  Ends body session (fun reply after => inv (reply.values ++ after.host.held.values) after.host)
    (fun _ after => after.Maintains inv)

theorem unlisting_answerQuestions (queue : Queue) (memory : List (Nat × MemHandle))
    (questions : List Question) : Unlisting (answerQuestions queue memory questions) := by
  induction questions with
  | nil => exact Unlisting.pure _
  | cons question questions ih =>
      have answers : Unlisting (answerQuestion queue memory question) := by
        cases question with
        | backend => exact Unlisting.pure _
        | device => exact Unlisting.bind (Unlisting.deviceHandle _) fun _ => Unlisting.pure _
        | context => exact Unlisting.bind (Unlisting.contextHandle _) fun _ => Unlisting.pure _
        | queue => exact Unlisting.bind (Unlisting.queueHandle _) fun _ => Unlisting.pure _
        | memory requirement =>
            exact Unlisting.bind (Unlisting.nativeMem queue memory requirement) fun _ =>
              Unlisting.pure _
      refine fun holds overlooks => ⟨fun host kept => ?_⟩
      rw [ends_answerQuestions_cons]
      apply ((answers holds overlooks).ends host kept).imp
      · exact fun _ after kept => (ih holds overlooks).ends after kept
      · exact fun _ after kept => (ih holds overlooks).ends after kept

theorem unlisting_ask {accessor : Accessor} (isAccessor : value.accessor? = some accessor) :
    Unlisting accessor.ask := by
  cases value with
  | platform held =>
      obtain rfl := Option.some.inj isAccessor
      exact Unlisting.bind (Unlisting.platformHandle held) fun _ => Unlisting.pure _
  | device held =>
      obtain rfl := Option.some.inj isAccessor
      exact Unlisting.bind (Unlisting.deviceHandle held) fun _ => Unlisting.pure _
  | context held =>
      obtain rfl := Option.some.inj isAccessor
      exact Unlisting.bind (Unlisting.contextHandle held) fun _ => Unlisting.pure _
  | queue held =>
      obtain rfl := Option.some.inj isAccessor
      exact Unlisting.bind (Unlisting.queueHandle held) fun _ => Unlisting.pure _
  | event held =>
      obtain rfl := Option.some.inj isAccessor
      exact Unlisting.bind (Unlisting.eventHandle held) fun _ => Unlisting.pure _
  | kernel held =>
      obtain rfl := Option.some.inj isAccessor
      exact Unlisting.bind (Unlisting.kernelHandle held) fun _ => Unlisting.pure _
  | image | bundle | provider => contradiction

end Session

namespace Upheld

open Session

variable {inv : List Managed → Host → Prop} {session : Session} {name : Option String}
  {value whole : Managed} {values : List Managed} {start held : Ledger String Managed} {host : Host}
  {α ε : Type}

/-! ## Setting backends up -/

theorem keeps_registerAll (upheld : Upheld start inv) (registry : Registry)
    (registrations : List Registration) :
    Keeps (Over inv held) (registerAll registry registrations : EStateM ε Host Registry) := by
  have overlooks : Overlooks (Over inv held) := upheld.overlooks held
  induction registrations generalizing registry with
  | nil => exact Keeps.pure registry
  | cons registration registrations ih =>
      apply Keeps.bind (Unlisting.freshIdentity _ overlooks)
      intro identity
      dsimp only
      split
      · exact Keeps.bind (Unlisting.notify _ _ overlooks) fun _ => ih _
      · exact ih _

theorem keeps_setUpReferences (upheld : Upheld start inv) (backends : List Backend) :
    Keeps (Over inv held)
      (setUpReferences backends : EStateM ε Host (List Registration)) := by
  induction backends with
  | nil => exact Keeps.pure _
  | cons backend backends ih =>
      unfold setUpReferences
      split
      · rename_i config _
        have sets : Keeps (Over inv held) (ComputeImport.setUp config : EStateM ε Host Nat) :=
          ⟨fun host kept => ⟨upheld.setUp config kept.1, kept.2⟩⟩
        exact Keeps.bind sets fun _ => Keeps.bind ih fun _ => Keeps.pure _
      · exact ih

theorem keeps_referenceRegistry (upheld : Upheld start inv) (environment : Text.Environment) :
    Keeps (Over inv held) (referenceRegistry environment : EStateM ε Host Registry) :=
  Keeps.bind (upheld.keeps_setUpReferences _) fun _ => upheld.keeps_registerAll _ _

/-! ## The parts of a command -/

theorem only {body : ImportM α} (upheld : Upheld start inv) (maintains : session.Maintains inv)
    (unlisting : Unlisting body) :
    Ends (managed body) session (fun _ after => after.Maintains inv)
      (fun _ after => after.Maintains inv) := by
  have kept : Keeps (Over inv session.host.held) body :=
    unlisting _ (upheld.overlooks _)
  apply ends_managed.mpr
  apply (kept.ends session.host ⟨maintains, rfl⟩).imp
  · rintro _ after ⟨kept, held⟩
    rw [Maintains, held]
    exact kept
  · rintro _ after ⟨kept, held⟩
    rw [Maintains, held]
    exact kept

/-- A value that something is upheld of is held, or let go. -/
theorem keep (upheld : Upheld start inv)
    (holds : inv (value :: session.host.held.values) session.host) :
    Upholds inv (Session.keep name value) session := by
  cases name with
  | none =>
      show inv (value :: (session.host.letGo value).held.values) (session.host.letGo value)
      rw [held_letGo]
      exact upheld.letGo value holds
  | some name =>
      let after : Host := { session.host with held := session.host.held.set name value }
      have held : inv (value :: after.held.values) after := by
        apply upheld.hold
        apply upheld.fewer holds
        intro other member
        rcases List.mem_cons.mp member with rfl | member
        · exact List.mem_cons_self
        · exact List.mem_cons.mpr (Ledger.eq_or_mem_of_mem_set member)
      unfold Upholds Session.keep
      dsimp only
      rw [ends_bind, ends_get, ends_bind, ends_modify]
      cases session.host.held.get? name with
      | none => exact held
      | some old =>
          show inv (value :: (after.letGo old).held.values) (after.letGo old)
          rw [held_letGo]
          exact upheld.letGo old held

/-- What is derived from what is held is good to be held, too. -/
theorem derived (upheld : Upheld start inv) (maintains : session.Maintains inv)
    (derived : value.DerivedFrom session.host.held.values) :
    inv (value :: session.host.held.values) session.host := by
  cases derived with
  | whole isHeld => exact upheld.fewer maintains (List.cons_subset.mpr ⟨isHeld, List.Subset.refl _⟩)
  | part isHeld found => exact upheld.part maintains isHeld found
  | image isHeld isImage => exact upheld.image maintains isHeld isImage
  | empty isHeld => exact upheld.empty maintains isHeld
  | join areHeld isJoined => exact upheld.join maintains areHeld isJoined

theorem forget (upheld : Upheld start inv) (maintains : session.Maintains inv) (name : String) :
    (session.forget name).Maintains inv := by
  unfold Session.forget
  split
  · rename_i value known
    let rest : Host := { session.host with held := session.host.held.erase name }
    have held : inv rest.held.values rest := by
      apply upheld.hold
      exact upheld.fewer maintains fun _ member => Ledger.mem_of_mem_erase member
    show inv (rest.letGo value).held.values (rest.letGo value)
    rw [held_letGo]
    exact upheld.letGo value held
  · exact maintains

/-- What an import brings back is held, or let go. -/
theorem make {body : ImportM α} {make : α → Managed} (upheld : Upheld session.host.held inv)
    (maintains : session.Maintains inv) (unlisting : Unlisting body)
    (made : inv session.host.held.values session.host → Ends body session.host
      (fun a after => inv (make a :: session.host.held.values) after) (fun _ _ => True)) :
    Upholds inv (do Session.keep name (make (← managed body))) session := by
  have kept : Keeps (Over inv session.host.held) body :=
    unlisting _ (upheld.overlooks _)
  unfold Upholds
  rw [ends_bind, ends_managed]
  apply (Ends.and (made maintains) (kept.ends session.host ⟨maintains, rfl⟩)).imp
  · rintro a after ⟨made, -, held⟩
    apply upheld.keep
    rw [held]
    exact made
  · rintro _ after ⟨-, kept, held⟩
    rw [Maintains, held]
    exact kept

/-- An import of something that leads to no image, no platform and no device. -/
theorem makeBare {body : ImportM α} {make : α → Managed} (upheld : Upheld start inv)
    (maintains : session.Maintains inv) (unlisting : Unlisting body)
    (bare : ∀ a, (make a).isBare = true) :
    Upholds inv (do Session.keep name (make (← managed body))) session := by
  have kept : Keeps (Over inv session.host.held) body :=
    unlisting _ (upheld.overlooks _)
  unfold Upholds
  rw [ends_bind, ends_managed]
  apply (kept.ends session.host ⟨maintains, rfl⟩).imp
  · rintro a after ⟨kept, held⟩
    apply upheld.keep
    rw [held]
    exact upheld.bare kept (bare a)
  · rintro _ after ⟨kept, held⟩
    rw [Maintains, held]
    exact kept

theorem ends_lookupRegistry (upheld : Upheld start inv) (maintains : session.Maintains inv)
    (number : Option Nat) :
    Ends (lookupRegistry number) session
      (fun _ after => after.Maintains inv ∧ after.host.held = session.host.held)
      (fun _ after => after.Maintains inv) := by
  cases number with
  | some number =>
      apply ends_lookupNumbered.imp
      · rintro _ _ ⟨rfl, -⟩
        exact ⟨maintains, rfl⟩
      · rintro _ _ rfl
        exact maintains
  | none =>
      -- The registry of reference backends is not to be evaluated.
      have makes : ∀ environment, Keeps (Over inv session.host.held)
          (referenceRegistry environment : ImportM Registry) := upheld.keeps_referenceRegistry
      unfold lookupRegistry processWideRegistry
      rw [ends_bind, ends_get]
      cases session.processWide with
      | some registry => exact ⟨maintains, rfl⟩
      | none =>
          have noticed : Over inv session.host.held
              (session.host.notify .registryInitialised) :=
            (upheld.overlooks _).notify _ ⟨maintains, rfl⟩
          dsimp only
          rw [ends_bind, ends_get, ends_bind, ends_managed, ends_bind, ends_notify]
          generalize (referenceRegistry : Text.Environment → ImportM Registry) = making at makes ⊢
          apply ((makes _).ends _ noticed).imp
          · rintro registry after ⟨kept, held⟩
            rw [ends_bind, ends_modify, ends_pure, Maintains]
            exact ⟨held ▸ kept, held⟩
          · rintro _ after ⟨kept, held⟩
            rw [Maintains, held]
            exact kept

theorem lookRegistry {number : Option Nat} {next : Registry → SessionM Reply}
    (upheld : Upheld start inv) (maintains : session.Maintains inv)
    (rest : ∀ registry after, after.Maintains inv → after.host.held = session.host.held →
      Upholds inv (next registry) after) :
    Upholds inv (lookupRegistry number >>= next) session := by
  apply (upheld.ends_lookupRegistry maintains number).bind
  rintro registry after ⟨maintains, held⟩
  exact rest registry after maintains held

theorem ends_targetTable (upheld : Upheld start inv) (maintains : session.Maintains inv)
    (target : TableTarget) :
    Ends (targetTable target) session (fun _ after => after.Maintains inv)
      (fun _ after => after.Maintains inv) := by
  cases target with
  | simulator number =>
      exact Keeps.ends (Keeps.bind (keeps_checkSimulator number) fun _ => Keeps.pure _) session
        maintains
  | registered registry backend =>
      apply (upheld.ends_lookupRegistry maintains registry).bind
      rintro registry middle ⟨maintains, -⟩
      rw [ends_bind]
      exact upheld.only maintains (Unlisting.resolve registry backend)

/-- Setting up what is printed touches no object. -/
theorem setup {body : SetupM Filter α} {rest : α → SessionM Reply} (upheld : Upheld start inv)
    (maintains : session.Maintains inv)
    (followed : ∀ a after, after.Maintains inv → Upholds inv (rest a) after) :
    Upholds inv (Session.setup body >>= rest) session := by
  have prints : ∀ output, Maintains inv
      { session with host := { session.host with output } } :=
    fun output => ((upheld.overlooks session.host.held).other session.host
      { session.host with output } rfl rfl rfl rfl (Nat.le_refl _) ⟨maintains, rfl⟩).1
  exact (ends_setup prints).bind followed

theorem install (maintains : session.Maintains inv) (number : Nat) :
    Upholds inv (Session.install number) session := by
  unfold Upholds Session.install
  rw [ends_bind, ends_get]
  cases session.registries.get? number with
  | none => exact maintains
  | some registry =>
      dsimp only
      rw [ends_bind, ends_modify, ends_bind, ends_get]
      cases session.processWide with
      | some wide => exact maintains
      | none => exact maintains

/-! ## Asking -/

theorem keeps_kernelNames {image : DeviceImage} (upheld : Upheld start inv)
    (isHeld : value ∈ held.values) (isImage : image ∈ value.images) :
    Keeps (Over inv held) image.kernelNames := by
  have asks : OnlyCalls image.kernelNames := .of_quiet (Uses.imageKernelNames trivial)
  refine ⟨fun host kept => ?_⟩
  exact (upheld.names kept isHeld isImage).and ((asks _ (respects_held held)).ends host kept.2)

/-- What asks for the names of kernels lists them, and nothing else that is asked does. -/
theorem keeps_inquires {command : Command} {body : ImportM Reply} (upheld : Upheld start inv)
    (inquires : Inquires held command value body) : Keeps (Over inv held) body := by
  have isHeld := inquires.isHeld
  have overlooks := upheld.overlooks held
  cases inquires with
  | names =>
      have lists := keeps_imageKernelNames fun image member =>
        upheld.keeps_kernelNames isHeld member
      exact Keeps.bind (Keeps.bind lists fun _ => Keeps.pure _) fun _ => Keeps.pure _
  | imageNames =>
      exact Keeps.bind (upheld.keeps_kernelNames isHeld List.mem_cons_self) fun _ => Keeps.pure _
  | has =>
      refine Keeps.bind (keeps_imagesHaveKernel fun image member => ?_) fun _ => Keeps.pure _
      exact upheld.keeps_kernelNames isHeld member
  | imageHas =>
      have lists := upheld.keeps_kernelNames isHeld List.mem_cons_self
      exact Keeps.bind (Keeps.bind lists fun _ => Keeps.pure _) fun _ => Keeps.pure _
  | backend => exact Keeps.bind (Unlisting.reportedBackend _ _ overlooks) fun _ => Keeps.pure _
  | native _ isAccessor => exact unlisting_ask isAccessor _ overlooks
  | questions =>
      exact Keeps.bind (unlisting_answerQuestions _ _ _ _ overlooks) fun _ => Keeps.pure _

/-- Asking leaves what is held as it is. -/
theorem asked {command : Command} {body : ImportM Reply} (upheld : Upheld start inv)
    (maintains : session.Maintains inv)
    (inquires : Inquires session.host.held command value body) :
    Upholds inv (managed body) session := by
  have keeps := (upheld.keeps_inquires inquires).ends session.host ⟨maintains, rfl⟩
  have asks : Ends (managed body) session (fun _ after => after.Maintains inv)
      (fun _ after => after.Maintains inv) := by
    apply ends_managed.mpr
    apply keeps.imp
    · rintro reply after ⟨kept, held⟩
      rw [Maintains, held]
      exact kept
    · rintro failure after ⟨kept, held⟩
      rw [Maintains, held]
      exact kept
  apply (asks.and inquires.ends_plain).imp
  · rintro reply after ⟨maintains, plain⟩
    rw [plain]
    exact maintains
  · exact fun _ _ ended => ended.1

/-! ## Commands -/

/-- What is obtained through a registry is upheld together with what is held. -/
theorem obtained {command : Command} {number : Option Nat} {make : α → Managed}
    {body : Registry → ImportM α} {registry : Registry} (upheld : Upheld session.host.held inv)
    (maintains : session.Maintains inv)
    (obtains : Obtains session.host.held command number make body) :
    Upholds inv (do Session.keep name (make (← managed (body registry)))) session := by
  have isHeld : ∀ {label : String} {value : Managed}, session.host.held.get? label = some value →
      value ∈ session.host.held.values := Ledger.mem_values_of_get?
  cases obtains with
  | provider => exact upheld.makeBare maintains (Unlisting.resolve registry _) fun _ => rfl
  | platform =>
      exact upheld.make maintains (Unlisting.makePlatform registry _ _) (upheld.platform rfl)
  | device => exact upheld.make maintains (Unlisting.makeDevice registry _ _) (upheld.device rfl)
  | context =>
      exact upheld.makeBare maintains (Unlisting.makeContext registry _ _) fun _ => rfl
  | queue found isGiven =>
      exact upheld.make maintains (Unlisting.makeQueue registry _ _ _ _ _ _ _) fun holds =>
        upheld.queue rfl holds (isHeld found) (held_of_isGiven isGiven)
  | event => exact upheld.makeBare maintains (Unlisting.makeEvent registry _ _ _ _) fun _ => rfl
  | program found =>
      exact upheld.make maintains (Unlisting.importProgram registry _ _ _ _ _) fun holds =>
        upheld.program rfl holds (isHeld found)
  | kernel found isWhole =>
      exact upheld.make maintains (Unlisting.importKernel registry _ _ _ _ _) fun holds =>
        upheld.kernel rfl holds (isHeld found) (Or.inl (isHeld isWhole))
  | loneKernel found =>
      exact upheld.make maintains (Unlisting.importKernel registry _ _ _ _ _) fun holds =>
        upheld.kernel rfl holds (isHeld found) (Or.inr rfl)

/-- A command that makes no call of a backend directly upholds what its parts do. -/
theorem execute (upheld : Upheld session.host.held inv) (maintains : session.Maintains inv)
    {command : Command} (indirect : command.isDirect = false) :
    Upholds inv (Session.execute name command) session := by
  apply ends_execute
  intro task comes
  have plain : ∀ {reply : Reply} {after : Session}, after.Maintains inv → reply.isBare = true →
      inv (reply.values ++ after.host.held.values) after.host := by
    intro reply after maintains bare
    rw [Reply.values_of_isBare bare]
    exact maintains
  cases comes with
  | refused failure => exact maintains
  | told _ bare => exact plain maintains bare
  | shown _ derived => exact upheld.derived maintains derived
  | kept _ derived => exact upheld.keep (upheld.derived maintains derived)
  | asked inquires => exact upheld.asked maintains inquires
  | obtained obtains =>
      apply upheld.lookRegistry maintains
      intro registry after maintains same
      rw [← same] at upheld obtains
      exact upheld.obtained maintains obtains
  | found isHeld =>
      exact upheld.make maintains (Unlisting.findOrMakeDevice _ _ []) fun holds =>
        upheld.found rfl holds (Ledger.mem_values_of_get? isHeld)
  | dropped => exact upheld.forget maintains _
  | inspected => exact upheld.lookRegistry maintains fun _ _ maintains _ => maintains
  | installed => exact Upheld.install maintains _
  | printed _ bare =>
      exact upheld.setup maintains fun _ after maintains => plain maintains (bare after)
  | acted => contradiction
  | @asksTable target request =>
      cases request with
      | call call => contradiction
      | name =>
          exact (upheld.ends_targetTable maintains target).bind fun _ _ maintains => maintains

/-! ## Direct calls -/

/-- What holds of a host whatever a backend does. -/
def Withstands (holds : Host → Prop) : Prop :=
  ∀ host number operation, holds host →
    holds (host.advance number ((host.simulator number).after operation))

/-- What holds of a host whatever call a backend answers. -/
def WithstandsCalls (holds : Host → Prop) : Prop :=
  ∀ host number call, holds host →
    holds (host.advance number ((host.simulator number).after (.call call)))

/-- A table answers any call by a call of its backend, or by none. -/
theorem keeps_answer {holds : Host → Prop} (withstands : WithstandsCalls holds) (asked : Table)
    (call : Call) : Keeps holds (asked.answer call) := by
  have keeps : ∀ {α : Type} {step : Native α} {call : Call}, IsCall step call →
      Keeps holds (asked.call step) := by
    intro α step call isCall
    refine ⟨fun host kept => ends_call.mpr (ends_stateAfter.mpr ?_)⟩
    rw [isCall]
    exact withstands host asked.simulator call kept
  have keepsFor : ∀ {α : Type} {step : Native α} {call : Call} {entryPoint : String},
      IsCall step call → Keeps holds (asked.callFor entryPoint step) := by
    intro α step call entryPoint isCall
    unfold Table.callFor
    cases asked.delegation with
    | some _ => exact Keeps.throw _
    | none => exact keeps isCall
  cases call with
  | programCompileFor program devices options =>
      exact Keeps.bind (keepsFor (.of_done (.programCompileFor program devices options) rfl))
        fun _ => Keeps.pure _
  | programBuildFor program devices options =>
      exact Keeps.bind (keepsFor (.of_done (.programBuildFor program devices options) rfl))
        fun _ => Keeps.pure _
  | programLinkFor context devices programs options =>
      exact Keeps.bind (keepsFor (.of_answer (.programLinkFor context devices programs options) rfl))
        fun _ => Keeps.pure _
  | programNumDevices program =>
      exact Keeps.bind (Keeps.bind (keeps (.of_answer (.programNumDevices program) rfl))
        fun _ => Keeps.pure _) fun _ => Keeps.pure _
  | _ => exact keeps fun _ => rfl

/-- So does a command that asks a table directly, where what is upheld withstands calls. -/
theorem executeAsk (upheld : Upheld start inv) (withstands : ∀ values, WithstandsCalls (inv values))
    (maintains : session.Maintains inv) (target : TableTarget) (call : Call) :
    Upholds inv (Session.execute name (.ask target (.call call))) session := by
  apply (upheld.ends_targetTable maintains target).bind
  intro asked session maintains
  have stands : WithstandsCalls (Over inv session.host.held) :=
    fun host number call kept => ⟨withstands _ host number call kept.1, kept.2⟩
  have answers := (keeps_answer stands asked call).ends session.host ⟨maintains, rfl⟩
  apply Ends.bind (ends_table.mpr (answers.imp ?_ ?_))
  · exact fun _ _ maintains => maintains
  · rintro _ after ⟨kept, held⟩
    show inv after.held.values after
    rw [held]
    exact kept
  · rintro _ after ⟨kept, held⟩
    rw [Maintains, held]
    exact kept

/-- So does what the caller does with a backend, where what is upheld withstands that, too. -/
theorem executeDirect (upheld : Upheld start inv) (withstands : ∀ values, Withstands (inv values))
    (maintains : session.Maintains inv) {command : Command} (direct : command.isDirect = true) :
    Upholds inv (Session.execute name command) session := by
  cases command with
  | caller number action =>
      have checked : Ends (checkSimulator number) session (fun _ after => after.Maintains inv)
          (fun _ after => after.Maintains inv) :=
        (keeps_checkSimulator number).ends session maintains
      apply checked.bind
      intro _ session maintains
      apply ends_table.mpr
      apply ends_onSimulator.mpr
      have advanced := withstands _ session.host number (.caller action) maintains
      apply (Ends.and (ends_same (act action) _) (ends_act_bare action _)).imp
      · rintro reply after ⟨rfl, bare⟩
        rw [Reply.values_of_isBare bare]
        exact advanced
      · rintro e after ⟨rfl, -⟩
        exact advanced
  | ask target request =>
      cases request with
      | name => contradiction
      | call call =>
          have withstandsCalls : ∀ values, WithstandsCalls (inv values) :=
            fun values host number call => withstands values host number (.call call)
          exact upheld.executeAsk withstandsCalls maintains target call
  | _ => contradiction

/-! ## Runs -/

theorem step (upheld : Upheld session.host.held inv) (maintains : session.Maintains inv) {next : Step}
    (indirect : next.command.isDirect = false) :
    inv (shownValues (session.step next).1 ++ (session.step next).2.host.held.values)
      (session.step next).2.host :=
  @step_of_ends session next
    (fun outcome after => inv (shownValues outcome ++ after.host.held.values) after.host)
    (upheld.execute maintains indirect)

theorem stepAsk (upheld : Upheld start inv) (withstands : ∀ values, WithstandsCalls (inv values))
    (maintains : session.Maintains inv) {target : TableTarget} {call : Call} :
    inv (shownValues (session.step ⟨.ask target (.call call), name⟩).1 ++
        (session.step ⟨.ask target (.call call), name⟩).2.host.held.values)
      (session.step ⟨.ask target (.call call), name⟩).2.host :=
  @step_of_ends session ⟨.ask target (.call call), name⟩
    (fun outcome after => inv (shownValues outcome ++ after.host.held.values) after.host)
    (upheld.executeAsk withstands maintains target call)

theorem stepAny (upheld : ∀ held, Upheld held inv) (withstands : ∀ values, Withstands (inv values))
    (maintains : session.Maintains inv) (next : Step) :
    inv (shownValues (session.step next).1 ++ (session.step next).2.host.held.values)
      (session.step next).2.host := by
  cases direct : next.command.isDirect with
  | false => exact (upheld _).step maintains direct
  | true =>
      exact @step_of_ends session next
        (fun outcome after => inv (shownValues outcome ++ after.host.held.values) after.host)
        ((upheld session.host.held).executeDirect withstands maintains direct)

/-- What every command upholds, every run does. -/
theorem run (upheld : ∀ held, Upheld held inv) (withstands : ∀ values, Withstands (inv values))
    (maintains : session.Maintains inv) (steps : List Step) :
    (session.run steps).2.Maintains inv := by
  induction steps generalizing session with
  | nil => exact maintains
  | cons next steps ih =>
      apply ih
      exact (upheld session.host.held).fewer (stepAny upheld withstands maintains next)
        (List.subset_append_right _ _)

end Upheld

/-! ## Values by themselves -/

/-- The bundle that a value is or keeps. -/
def Managed.bundle? : Managed → Option KernelBundle
  | bundle held => some held
  | kernel held => some held.bundle
  | _ => none

/-- What is good of values by themselves, whichever way their bundles are made while something is
held. -/
structure Managed.Closed (held : Ledger String Managed) (good : Managed → Prop) : Prop where
  plain : ∀ value, value.bundle? = none → good value
  empty : ∀ context state, good (.bundle (.empty context state))
  program : ∀ context image, good (.bundle ⟨context, image.devices, image.state, [image]⟩)
  join : ∀ {bundles joined}, (∀ bundle ∈ bundles, good (.bundle bundle)) →
    KernelBundle.join bundles = .ok joined → good (.bundle joined)
  kernel : ∀ kernel, .context kernel.context ∈ held.values →
    (.bundle kernel.bundle ∈ held.values ∧ good (.bundle kernel.bundle) ∨
      kernel.bundle = .empty kernel.context .executable) → good (.kernel kernel)
  bundleOf : ∀ kernel, good (.kernel kernel) → good (.bundle kernel.bundle)

/-- An imported program is the only image of its bundle. -/
theorem ends_importProgram_single {registry : Registry} {handle : NativeHandle} {context : Context}
    {keeps : Bool} {target : BundleState} {backend : Backend} {host : Host} :
    Ends (importProgram registry handle context keeps target backend) host
      (fun bundle _ => ∃ image, bundle = ⟨context, image.devices, image.state, [image]⟩)
      (fun _ _ => True) := by
  unfold importProgram
  rw [ends_bind, ends_notify]
  refine Ends.timed ?_ (fun _ _ _ isSingle => isSingle) fun _ _ _ _ => trivial
  refine Ends.trivial.bind fun provider _ _ => ?_
  refine Ends.trivial.bind fun wrapper _ _ => ?_
  refine Ends.trivial.bind fun _ _ _ => ?_
  refine Ends.trivial.bind fun handles _ _ => ?_
  refine Ends.trivial.bind fun _ _ _ => ?_
  refine Ends.trivial.bind fun built _ _ => ?_
  refine Ends.trivial.bind fun devices _ _ => ?_
  rw [ends_bind, ends_freshIdentity]
  exact ⟨⟨_, built.current, built.superseded, devices, target⟩, rfl⟩

/-- An imported kernel keeps the context and the bundle that it was imported against. -/
theorem ends_importKernel_keeps {registry : Registry} {context : Context} {bundle : KernelBundle}
    {handle : NativeHandle} {keeps : Bool} {backend : Backend} {host : Host} :
    Ends (importKernel registry context bundle handle keeps backend) host
      (fun kernel _ => kernel.context = context ∧ kernel.bundle = bundle) (fun _ _ => True) := by
  unfold importKernel
  rw [ends_bind, ends_notify]
  refine Ends.timed ?_ (fun _ _ _ same => same) fun _ _ _ _ => trivial
  refine Ends.trivial.bind fun provider _ _ => ?_
  split
  · trivial
  refine Ends.trivial.bind fun program _ _ => ?_
  refine Ends.trivial.bind fun wrapper _ _ => ?_
  refine Ends.trivial.bind fun _ _ _ => ?_
  refine Ends.trivial.bind fun _ _ _ => ?_
  rw [ends_bind, ends_freshIdentity]
  exact ⟨rfl, rfl⟩

/-- Where all values are good that are alive, they stay so. -/
theorem Managed.Closed.sustained {held : Ledger String Managed} {good : Managed → Prop}
    (closed : Managed.Closed held good) :
    Sustained held fun values _ => ∀ value ∈ values, good value := by
  have plain : ∀ {values : List Managed} {value : Managed}, (∀ other ∈ values, good other) →
      value.bundle? = none → ∀ other ∈ value :: values, good other :=
    fun all none => List.forall_mem_cons.mpr ⟨closed.plain _ none, all⟩
  have made : ∀ {α : Type} {body : ImportM α} {make : α → Managed} {values : List Managed}
      {host : Host}, (∀ other ∈ values, good other) → (∀ a, (make a).bundle? = none) →
      Ends body host (fun a _ => ∀ other ∈ make a :: values, good other) (fun _ _ => True) :=
    fun all none => Ends.trivial.imp (fun a _ _ => plain all (none a)) fun _ _ _ => trivial
  constructor
  case fewer => exact fun all fewer value member => all value (fewer member)
  case overlooks =>
    exact Overlooks.over fun _ => ⟨fun _ _ _ _ all => all, fun _ _ _ all => all,
      fun _ _ _ _ _ _ _ all => all⟩
  case letGo => exact fun _ all => all
  case hold => exact fun _ all => all
  case bare =>
    intro values host value all bare
    apply plain all
    cases value with
    | context | event | provider => rfl
    | _ => contradiction
  case part =>
    intro values host part whole value all member isPart
    refine List.forall_mem_cons.mpr ⟨?_, all⟩
    unfold Session.part? at isPart
    split at isPart
    case h_5 | h_6 =>
      obtain ⟨device, -, rfl⟩ := Option.map_eq_some_iff.mp isPart
      exact closed.plain _ rfl
    case h_11 =>
      obtain rfl := Option.some.inj isPart
      exact closed.bundleOf _ (all _ member)
    case h_12 => contradiction
    all_goals
      obtain rfl := Option.some.inj isPart
      exact closed.plain _ rfl
  case image => exact fun all _ _ => plain all rfl
  case empty => exact fun all _ => List.forall_mem_cons.mpr ⟨closed.empty _ _, all⟩
  case join =>
    exact fun all isHeld joined =>
      List.forall_mem_cons.mpr ⟨closed.join (fun bundle member => all _ (isHeld bundle member)) joined,
        all⟩
  case platform | device => exact fun _ all => made all fun _ => rfl
  case found => exact fun _ all _ => made all fun _ => rfl
  case queue => exact fun _ all _ _ => made all fun _ => rfl
  case program =>
    intro host registry native context keeps target backend _ all _
    apply ends_importProgram_single.imp
    · rintro _ _ ⟨image, rfl⟩
      exact List.forall_mem_cons.mpr ⟨closed.program context image, all⟩
    · exact fun _ _ _ => trivial
  case kernel =>
    intro host registry context bundle native keeps backend _ all isContext isBundle
    apply ends_importKernel_keeps.imp
    · rintro kernel _ ⟨rfl, rfl⟩
      refine List.forall_mem_cons.mpr ⟨closed.kernel kernel isContext ?_, all⟩
      exact isBundle.imp_left fun isHeld => ⟨isHeld, all _ isHeld⟩
    · exact fun _ _ _ => trivial
  case names => exact fun kept _ _ => Ends.trivial.imp (fun _ _ _ => kept.1) fun _ _ _ => kept.1

theorem Managed.Closed.upheld {held : Ledger String Managed} {good : Managed → Prop}
    (closed : Managed.Closed held good) :
    Upheld held fun values _ => ∀ value ∈ values, good value :=
  ⟨closed.sustained, fun _ all => all⟩

/-- What is good of values by themselves is so of all that a session holds. -/
theorem Managed.Closed.held {good : Managed → Prop} (closed : ∀ held, Managed.Closed held good)
    {session : Session} (reachable : session.Reachable) :
    ∀ value ∈ session.host.held.values, good value := by
  obtain ⟨configs, plans, environment, steps, rfl⟩ := reachable
  have opened : (Session.opening configs plans environment).Maintains
      fun values _ => ∀ value ∈ values, good value := by
    intro value member
    rw [Session.held_opening] at member
    contradiction
  exact Upheld.run (fun held => (closed held).upheld) (fun _ _ _ _ all => all) opened steps

/-- It is so of all that is alive after any step. -/
theorem Managed.Closed.alive {good : Managed → Prop} (closed : ∀ held, Managed.Closed held good)
    {session : Session} (reachable : session.Reachable) (next : Step) :
    ∀ value ∈ Session.shownValues (session.step next).1 ++ (session.step next).2.host.held.values,
      good value := by
  have withstands : ∀ values : List Managed,
      Upheld.Withstands fun _ => ∀ value ∈ values, good value := fun _ _ _ _ all => all
  exact Upheld.stepAny (fun held => (closed held).upheld) withstands
    (Managed.Closed.held closed reachable) next

end ComputeImport
