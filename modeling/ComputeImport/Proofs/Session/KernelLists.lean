import ComputeImport.Proofs.Session.Bundles
import ComputeImport.Proofs.Session.Listings

/-!
# Listing the kernels of bundles, in sessions

Whatever the steps of a session, what is remembered of the kernels of an image is what its program
has been created with, and its backend has told it once.  It is remembered from then on, so that a
bundle that has been listed is listed in the same way ever after, without a call.
-/

namespace ComputeImport

/-! ## What depends on images alone -/

/-- What is sustained of images is sustained of the values that lead to them. -/
theorem Sustained.of_images {held : Ledger String Managed} {inv : List DeviceImage → Host → Prop}
    (fewer : ∀ {images part host}, inv images host → part ⊆ images → inv part host)
    (overlooks : ∀ images, Overlooks (inv images))
    (hold : ∀ {images host} held, inv images host → inv images { host with held })
    (program : ∀ {host registry native context keeps target backend},
      inv (imagesOf held.values) host →
      Ends (importProgram registry native context keeps target backend) host
        (fun made after => inv (made.images ++ imagesOf held.values) after) (fun _ _ => True))
    (names : ∀ {images host image}, inv images host → image ∈ images →
      Ends image.kernelNames host (fun _ => inv images) (fun _ => inv images)) :
    Sustained held fun values => inv (imagesOf values) := by
  -- One more value that leads to no other images.
  have cons : ∀ {values : List Managed} {value : Managed} {host : Host}, inv (imagesOf values) host →
      value.images ⊆ imagesOf values → inv (imagesOf (value :: values)) host :=
    fun kept images => fewer kept (List.append_subset.mpr ⟨images, List.Subset.refl _⟩)
  have made : ∀ {α : Type} {body : ImportM α} {make : α → Managed} {values : List Managed}
      {host : Host}, Unlisting body → (∀ a, (make a).images = []) → inv (imagesOf values) host →
      Ends body host (fun a after => inv (imagesOf (make a :: values)) after) (fun _ _ => True) := by
    intro α body make values host unlisting none kept
    apply ((unlisting _ (overlooks _)).ends host kept).imp
    · intro a after kept
      apply cons kept
      rw [none]
      exact List.nil_subset _
    · exact fun _ _ _ => trivial
  constructor
  case fewer => exact fun kept subset => fewer kept (Shares.flatMap_subset subset)
  case overlooks => exact Overlooks.over fun _ => overlooks _
  case letGo => exact fun value kept => Unlisting.steps_letGo value _ (overlooks _) _ kept
  case hold => exact fun held kept => hold held kept
  case bare =>
    intro values host value kept bare
    apply cons kept
    cases value with
    | context | event | provider => exact List.nil_subset _
    | _ => contradiction
  case part =>
    exact fun kept isAlive isPart =>
      cons kept (List.Subset.trans (Session.images_part isPart) (Shares.subset_of_mem isAlive))
  case image =>
    exact fun kept isAlive isImage =>
      cons kept (List.cons_subset.mpr ⟨Shares.subset_of_mem isAlive isImage, List.nil_subset _⟩)
  case empty => exact fun kept _ => cons kept (List.nil_subset _)
  case join =>
    intro values host bundles joined kept areAlive isJoined
    apply cons kept
    intro image isImage
    obtain ⟨bundle, isBundle, isImage⟩ := Session.images_join isJoined isImage
    exact Shares.subset_of_mem (areAlive bundle isBundle) isImage
  case platform => exact fun _ kept => made (Unlisting.makePlatform _ _ _) (fun _ => rfl) kept
  case device => exact fun _ kept => made (Unlisting.makeDevice _ _ _) (fun _ => rfl) kept
  case found => exact fun _ kept _ => made (Unlisting.findOrMakeDevice _ _ _) (fun _ => rfl) kept
  case queue =>
    exact fun _ kept _ _ => made (Unlisting.makeQueue _ _ _ _ _ _ _ _) (fun _ => rfl) kept
  case program => exact fun _ kept _ => program kept
  case kernel =>
    intro host registry context bundle native keeps backend _ kept _ isBundle
    have imports := ((Unlisting.importKernel registry context bundle native keeps backend) _
      (overlooks (imagesOf held.values))).ends host kept
    apply (imports.and ends_importKernel_keeps).imp
    · rintro kernel after ⟨kept, -, rfl⟩
      apply cons kept
      rcases isBundle with isAlive | isEmpty
      · exact fun image isImage => List.mem_flatMap.mpr ⟨_, isAlive, isImage⟩
      · rw [Managed.images, isEmpty]
        exact List.nil_subset _
    · exact fun _ _ _ => trivial
  case names =>
    exact fun kept isAlive isImage => names kept.1 (List.mem_flatMap.mpr ⟨_, isAlive, isImage⟩)

/-! ## While a command is at work -/

/-- What is known of kernels after more calls than there were at the start. -/
def ListedSince (past : Marked) (start : Nat → List Call) (isMarked : Bool) (bound : Nat → Nat)
    (images : List DeviceImage) (host : Host) : Prop :=
  ∃ made : Nat → List Call,
    (∀ number, (host.simulator number).calls = start number ++ made number) ∧
    Listings (fun number => past number ++ (made number).map fun call => (isMarked, .call call))
      bound images host

namespace ListedSince

variable {past : Marked} {start : Nat → List Call} {isMarked : Bool} {images part : List DeviceImage}
  {host after : Host} {made : Nat → List Call} {bound : Nat → Nat} {number : Nat} {call : Call}

theorem fewer (since : ListedSince past start isMarked bound images host) (subset : part ⊆ images) :
    ListedSince past start isMarked bound part host := by
  obtain ⟨made, calls, listings⟩ := since
  exact ⟨made, calls, listings.fewer subset⟩

theorem other (since : ListedSince past start isMarked bound images host)
    (same : after.simulators = host.simulators) (lists : after.kernelLists = host.kernelLists)
    (le : host.nextIdentity ≤ after.nextIdentity) :
    ListedSince past start isMarked bound images after := by
  obtain ⟨made, calls, listings⟩ := since
  refine ⟨made, fun number => ?_, listings.other same lists le⟩
  rw [Host.simulator_of_simulators same]
  exact calls number

/-- One more call that a backend has answered. -/
theorem called (calls : ∀ number, (host.simulator number).calls = start number ++ made number)
    (same : after.simulators =
      (host.advance number ((host.simulator number).after (.call call))).simulators)
    (listings : Listings (Marked.add
      (fun number => past number ++ (made number).map fun call => (isMarked, .call call))
      number isMarked (.call call)) bound images after) :
    ListedSince past start isMarked bound images after := by
  refine ⟨fun other => made other ++ if number = other then [call] else [], fun other => ?_, ?_⟩
  · have isAfter : after.simulator other = (host.advance number
        ((host.simulator number).after (.call call))).simulator other :=
      Host.simulator_of_simulators same other
    dsimp only
    rw [isAfter, Host.simulator_advance, ← List.append_assoc, ← calls]
    split
    · rename_i isOther
      subst isOther
      exact (Simulator.recorded_answer call).calls
    · exact (List.append_nil _).symm
  · convert listings using 1
    funext other
    rw [Marked.add, List.map_append, List.append_assoc]
    split <;> rfl

theorem overlooks (images : List DeviceImage) :
    Overlooks (ListedSince past start isMarked bound images) := by
  apply Overlooks.uncached
  case call =>
    rintro host number call unlisting ⟨made, calls, listings⟩
    refine called calls rfl (listings.advance fun _ program => ?_)
    apply Simulator.tells_of_not_asks
    cases call with
    | programKernelNames => exact absurd rfl unlisting
    | _ => rfl
  case other => exact fun _ _ same _ lists le since => since.other same lists le

/-- A call that counts for no managed object may tell anything. -/
theorem unmarked (since : ListedSince past start false bound images host) :
    ListedSince past start false bound images
      (host.advance number ((host.simulator number).after (.call call))) := by
  obtain ⟨made, calls, listings⟩ := since
  exact called calls rfl (listings.advance fun marks => absurd marks Bool.false_ne_true)

/-- Nothing has been told of the program that an import creates, since the import tells nothing. -/
theorem program {registry : Registry} {native : NativeHandle} {context : Context} {keeps : Bool}
    {target : BundleState} {backend : Backend}
    (since : ListedSince past start isMarked bound images host) :
    Ends (importProgram registry native context keeps target backend) host
      (fun imported after => ∃ bound,
        ListedSince past start isMarked bound (imported.images ++ images) after)
      (fun _ _ => True) := by
  obtain ⟨made, calls, listings⟩ := since
  have raised : ListedSince past start isMarked
      (fun number => (host.simulator number).store.nextWrapper) images host :=
    ⟨made, calls, listings.raise⟩
  have imports : Unlisting (importProgram registry native context keeps target backend) :=
    Unlisting.importProgram _ _ _ _ _ _
  have kept := ((imports _ (overlooks images)).ends host raised).and
    ((imports _ (overlooks_kernelLists host.kernelLists)).ends host rfl)
  apply (kept.and (ends_importProgram_new listings.recalls.formed)).imp
  · rintro _ after ⟨⟨⟨made, calls, kept⟩, same⟩, image, rfl, above, below, creates⟩
    exact ⟨_, made, calls, kept.cons listings.apart (fun _ => Nat.le_refl _) creates above below same⟩
  · exact fun _ _ _ => trivial

theorem names {image : DeviceImage} (since : ListedSince past start isMarked bound images host)
    (isPart : image ∈ images) :
    Ends image.kernelNames host
      (fun _ after => ∃ bound, ListedSince past start isMarked bound images after)
      (fun _ after => ∃ bound, ListedSince past start isMarked bound images after) := by
  obtain ⟨made, calls, listings⟩ := since
  apply (listings.ends_kernelNames isPart isMarked).imp
  · rintro _ after ⟨_, bound, ⟨rfl, same⟩ | ⟨rfl, same⟩, listings⟩
    · refine ⟨bound, made, fun number => ?_, listings⟩
      rw [Host.simulator_of_simulators same]
      exact calls number
    · exact ⟨bound, called calls same listings⟩
  · rintro e after ⟨same, listings⟩
    exact ⟨bound, called calls same listings⟩

/-- A backend that is set up with a new number has been called by nobody. -/
theorem setUp (since : ListedSince past start isMarked bound images host)
    (isNew : number ∉ host.simulators.keys) (config : SimulatorConfig) :
    ListedSince past start isMarked bound images (Session.withBackend host number config) := by
  obtain ⟨made, calls, listings⟩ := since
  refine ⟨made, fun other => ?_, listings.setUp isNew config⟩
  rw [Session.simulator_withBackend]
  split
  · rename_i same
    rw [← same, ← calls, Host.simulator, Ledger.get?_eq_none_of_not_mem isNew]
    rfl
  · exact calls other

/-- While backends are numbered, what is known of kernels is upheld by every command. -/
theorem upheld (held : Ledger String Managed) :
    Upheld held fun values host =>
      host.Numbered → ∃ bound, ListedSince past start isMarked bound (imagesOf values) host := by
  have sustained : Sustained held fun values host =>
      ∃ bound, ListedSince past start isMarked bound (imagesOf values) host := by
    apply @Sustained.of_images held fun images host =>
      ∃ bound, ListedSince past start isMarked bound images host
    case fewer => exact fun ⟨bound, since⟩ subset => ⟨bound, since.fewer subset⟩
    case overlooks =>
      intro images
      apply Overlooks.uncached
      case call =>
        exact fun host number call unlisting ⟨bound, since⟩ =>
          ⟨bound, (overlooks images).call host number call unlisting since⟩
      case other =>
        exact fun _ _ same _ lists le ⟨bound, since⟩ => ⟨bound, since.other same lists le⟩
    case hold => exact fun _ ⟨bound, since⟩ => ⟨bound, since.other rfl rfl (Nat.le_refl _)⟩
    case program => exact fun ⟨_, since⟩ => since.program
    case names => exact fun ⟨_, since⟩ isPart => since.names isPart
  exact sustained.whileNumbered fun config isNew ⟨bound, since⟩ => ⟨bound, since.setUp isNew config⟩

end ListedSince

namespace Session

variable {session : Session} {next : Step} {past : Marked} {number : Nat}

/-! ## Steps -/

/-- The operations of a step, which are marked unless its command calls a backend directly. -/
def markedOperations (session : Session) (next : Step) : Marked := fun number =>
  (session.operations number next).map fun operation => (!next.command.isDirect, operation)

/-- The operations of several steps on each backend, oldest first, marked where managed objects have
asked for them. -/
def marked (session : Session) : List Step → Marked
  | [], _ => []
  | next :: steps, number =>
      session.markedOperations next number ++ (session.step next).2.marked steps number

/-- The marks apart, these are the histories of the backends. -/
theorem plain_marked {steps : List Step} :
    (session.marked steps).plain = fun number => session.history number steps := by
  funext number
  induction steps generalizing session with
  | nil => rfl
  | cons next steps ih =>
      have rest : ((session.step next).2.marked steps number).map Prod.snd = _ := ih
      have first : (session.markedOperations next number).map Prod.snd =
          session.operations number next := by
        rw [markedOperations, List.map_map]
        exact List.map_id _
      rw [Marked.plain, marked, List.map_append, first, rest, history]

/-- The calls of a step are its operations, unless the caller acts directly. -/
theorem operations_of_calls (indirect : ∀ number action, next.command ≠ .caller number action) :
    session.operations number next = (((session.step next).2.host.simulator number).calls.drop
      (session.host.simulator number).calls.length).map .call := by
  obtain ⟨command, name⟩ := next
  cases command with
  | caller number action => exact absurd rfl (indirect number action)
  | _ => rfl

/-- What is known of kernels with a history. -/
def Knows (past : Marked) (session : Session) : Prop :=
  session.host.Numbered → ∃ bound, Listings past bound (imagesOf session.host.held.values) session.host

/-- What a step has been seen to do becomes part of the history. -/
theorem knows_of_since {isMarked : Bool}
    (indirect : ∀ number action, next.command ≠ .caller number action)
    (marks : next.command.isDirect = !isMarked)
    (since : (session.step next).2.host.Numbered → ∃ bound, ListedSince past
      (fun number => (session.host.simulator number).calls) isMarked bound
      (imagesOf (shownValues (session.step next).1 ++ (session.step next).2.host.held.values))
      (session.step next).2.host) :
    (session.step next).2.Knows fun number => past number ++ session.markedOperations next number := by
  intro numbered
  obtain ⟨bound, made, calls, listings⟩ := since numbered
  refine ⟨bound, ?_⟩
  have isMade : (fun number => past number ++ session.markedOperations next number) =
      fun number => past number ++ (made number).map fun call => (isMarked, .call call) := by
    funext number
    rw [markedOperations, operations_of_calls indirect, calls, List.drop_left, List.map_map, marks,
      Bool.not_not]
    rfl
  rw [isMade]
  exact listings.fewer (Shares.flatMap_subset (List.subset_append_right _ _))

/-- What the caller does directly tells no managed object anything. -/
theorem knows_caller (knows : session.Knows past) {action : CallerAction} {name : Option String} :
    (session.step ⟨.caller number action, name⟩).2.Knows fun other =>
      past other ++ session.markedOperations ⟨.caller number action, name⟩ other := by
  intro numbered
  rw [caller_after] at numbered ⊢
  simp only [markedOperations, operations_caller]
  by_cases isGiven : number < session.given
  · rw [if_pos isGiven] at numbered ⊢
    obtain ⟨bound, listings⟩ := knows numbered.of_advance
    have isMade : past.add number false (.caller action) = fun other => past other ++
        (if number = other ∧ number < session.given then [.caller action] else []).map
          fun operation => (!(Command.caller number action).isDirect, operation) := by
      funext other
      by_cases same : number = other
      · rw [Marked.add, if_pos same, if_pos ⟨same, isGiven⟩]
        rfl
      · rw [Marked.add, if_neg same, if_neg fun both => same both.1]
        rfl
    rw [← isMade]
    exact ⟨bound, listings.advance fun marks => absurd marks Bool.false_ne_true⟩
  · rw [if_neg isGiven] at numbered ⊢
    simp only [isGiven, and_false, if_false, List.map_nil, List.append_nil]
    exact knows numbered

/-- Every step adds its operations to the history, and what is known stays right. -/
theorem knows_step (knows : session.Knows past) (next : Step) :
    (session.step next).2.Knows fun number => past number ++ session.markedOperations next number := by
  have begins : ∀ isMarked, session.Maintains fun values host => host.Numbered → ∃ bound,
      ListedSince past (fun number => (session.host.simulator number).calls) isMarked bound
        (imagesOf values) host := by
    intro isMarked numbered
    obtain ⟨bound, listings⟩ := knows numbered
    refine ⟨bound, fun _ => [], fun _ => (List.append_nil _).symm, ?_⟩
    simp only [List.map_nil, List.append_nil]
    exact listings
  obtain ⟨command, name⟩ := next
  cases direct : command.isDirect with
  | false =>
      have indirect : ∀ number action, command ≠ .caller number action := by
        rintro number action rfl
        contradiction
      exact @knows_of_since session ⟨command, name⟩ past true indirect direct
        ((ListedSince.upheld _).step (begins true) direct)
  | true =>
      cases command with
      | caller number action => exact knows_caller knows
      | ask target request =>
          cases request with
          | name => contradiction
          | call call =>
              refine @knows_of_since session ⟨.ask target (.call call), name⟩ past false
                (fun _ _ => nofun) rfl
                ((ListedSince.upheld session.host.held).stepAsk (fun values => ?_) (begins false))
              exact fun host number call kept numbered =>
                let ⟨bound, since⟩ := kept numbered.of_advance
                ⟨bound, since.unmarked⟩
      | _ => contradiction

/-- So does every run. -/
theorem knows_run (knows : session.Knows past) (steps : List Step) :
    (session.run steps).2.Knows fun number => past number ++ session.marked steps number := by
  induction steps generalizing session past with
  | nil =>
      intro numbered
      simp only [marked, List.append_nil]
      exact knows numbered
  | cons next steps ih =>
      have rest := ih (knows_step knows next)
      simp only [marked, ← List.append_assoc]
      exact rest

/-- Nothing is remembered where a session is opened, and nothing has been done with its backends. -/
theorem knows_opening (configs : List SimulatorConfig) (plans : List RegistryPlan)
    (environment : Text.Environment) : (opening configs plans environment).Knows fun _ => [] := by
  intro _
  have begins : Host.Begins fun host => host.kernelLists = {} :=
    ⟨fun _ _ none => none, fun _ _ _ _ _ same none => same.trans none⟩
  have unlisted : (opening configs plans environment).host.kernelLists = {} :=
    begins.opening rfl configs plans environment
  have fresh := fresh_opening configs plans environment
  have recalls : (opening configs plans environment).host.Recalls fun _ => [] := by
    refine ⟨fun number => ?_, fun _ _ => rfl⟩
    obtain ⟨config, isFresh⟩ := fresh number
    rw [Host.beginning, isFresh]
    rfl
  rw [held_opening]
  refine ⟨fun _ => 0, ?_⟩
  constructor
  case recalls => exact recalls
  case apart =>
    refine ⟨List.forall_mem_nil _, List.forall_mem_nil _, fun id known => ?_, List.forall_mem_nil _,
      List.forall_mem_nil _⟩
    rw [unlisted] at known
    exact absurd rfl known
  case right => exact List.forall_mem_nil _
  case tells =>
    exact ⟨fun _ _ => Nat.zero_le 1, fun _ _ isTold => absurd rfl isTold, List.forall_mem_nil _⟩
  case bound_le => exact fun _ => Nat.zero_le _

/-! ## What is remembered stays so -/

/-- Kernels that are remembered are so after every run. -/
theorem remembers_run {id : Nat} {names : List String}
    (known : session.host.kernelLists.get? id = some names) (steps : List Step) :
    (session.run steps).2.host.kernelLists.get? id = some names := by
  have upheld : ∀ held, Upheld held fun _ host => host.kernelLists.get? id = some names := by
    intro held
    refine ⟨?_, fun _ known => known⟩
    have overlooks : Overlooks fun host => host.kernelLists.get? id = some names := by
      apply Overlooks.uncached
      case call => exact fun _ _ _ _ known => known
      case other => exact fun _ _ _ _ same _ known => same ▸ known
    apply @Sustained.of_images held fun _ host => host.kernelLists.get? id = some names
    case fewer => exact fun known _ => known
    case overlooks => exact fun _ => overlooks
    case hold => exact fun _ known => known
    case program =>
      exact fun known => ((Unlisting.importProgram _ _ _ _ _ _ _ overlooks).ends _ known).imp
        (fun _ _ known => known) fun _ _ _ => trivial
    case names =>
      exact fun {_ _ image} known _ => (image.keeps_remembered id names).ends _ known
  exact Upheld.run upheld (fun _ _ _ _ known => known) known steps

/-- The names increase by their bytes, and are those that the programs of the images have been created
with, if the bundle is executable. -/
structure KernelsOf (bundle : KernelBundle) (begins : Nat → Simulator)
    (history : Nat → List Simulator.Operation) (names : List String) : Prop where
  increasing : names.Pairwise fun name other => Text.bytes name < Text.bytes other
  created : bundle.state = .executable → ∀ image ∈ bundle.images,
    (begins image.number).kernelsOf image.program.handle (history image.number) ≠ none
  mem_iff : ∀ name, name ∈ names ↔ bundle.state = .executable ∧ ∃ image ∈ bundle.images, ∃ created,
    (begins image.number).kernelsOf image.program.handle (history image.number) = some created ∧
      name ∈ created

/-- What is told of the kernels of a bundle: by a list, ever after it, and where a call fails. -/
structure Lists (history : Nat → List Simulator.Operation) (session : Session)
    (bundle : KernelBundle) : Prop where
  right : ∀ names after, bundle.kernelNames session.host = .ok names after →
    KernelsOf bundle session.host.beginning history names
  /-- From then on they are told without a call, as nothing of the host changes. -/
  lasting : ∀ names after, bundle.kernelNames session.host = .ok names after → ∀ steps,
    let later := (run { session with host := after } steps).2.host
    bundle.kernelNames later = .ok names later ∧
      ∀ name, bundle.hasKernel name later = .ok (decide (name ∈ names)) later
  /-- Where the list fails, nothing is remembered of the image whose backend has not answered, and its
  backend is asked again. -/
  unlisted : ∀ e after, bundle.kernelNames session.host = .error e after →
    ∃ image ∈ bundle.images, (∃ before, image.Unanswered before e after) ∧
      after.kernelLists.get? image.identity = none ∧
      ∀ steps, let later := (run { session with host := after } steps).2.host
        later.kernelLists.get? image.identity = none → bundle.AsksAgain image later
  /-- So it is where a search fails, by the same search, too. -/
  unfound : ∀ name e after, bundle.hasKernel name session.host = .error e after →
    ∃ image ∈ bundle.images, (∃ before, image.Unanswered before e after) ∧
      after.kernelLists.get? image.identity = none ∧
      ∀ steps, let later := (run { session with host := after } steps).2.host
        later.kernelLists.get? image.identity = none → bundle.AsksAgain image later ∧
          Ends (bundle.hasKernel name) later (fun _ => later.Queries image)
            (fun _ => later.Queries image)

section Lists

variable {history : Nat → List Simulator.Operation} {images : List DeviceImage}
  {bundle : KernelBundle} {after : Host} {names : List String}

/-- The names that a list tells are those that are remembered, and these are right. -/
theorem right_of_trusts (trusts : session.host.Trusts history images) (subset : bundle.images ⊆ images)
    (consistent : bundle.Consistent) (told : bundle.kernelNames session.host = .ok names after) :
    KernelsOf bundle session.host.beginning history names := by
  have keeps : Keeps (fun host => host.Trusts history images ∧
      host.beginning = session.host.beginning) bundle.kernelNames :=
    (keeps_imageKernelNames fun image isPart =>
      Host.Trusts.keeps_kernelNames (subset isPart)).bind fun _ => Keeps.pure _
  have ended := (bundle.ends_kernelNames session.host).and (keeps.ends _ ⟨trusts, rfl⟩)
  obtain ⟨⟨lists, remembers, rfl⟩, trusts, begins⟩ := ended.of_ok told
  have offers : ∀ image ∈ bundle.images, ∀ created,
      after.kernelLists.get? image.identity = some created →
      image.Offers session.host.beginning history created := by
    intro image isPart created known
    rw [← begins]
    exact trusts.right image (subset isPart) created known
  constructor
  case increasing => exact pairwise_bytes_sortNames _
  case created =>
    intro executable image isPart
    obtain ⟨created, known⟩ := remembers.exists_names isPart
    have offered := offers image isPart created known
    rw [DeviceImage.Offers, consistent.state image isPart, if_pos executable] at offered
    rw [offered]
    exact Option.some_ne_none _
  case mem_iff =>
    intro name
    rw [mem_sortNames, remembers.mem_flatten]
    constructor
    · rintro ⟨image, isPart, created, known, isCreated⟩
      have offered := offers image isPart created known
      rw [DeviceImage.Offers, consistent.state image isPart] at offered
      split at offered
      · rename_i executable
        exact ⟨executable, image, isPart, created, offered, isCreated⟩
      · rw [offered] at isCreated
        contradiction
    · rintro ⟨executable, image, isPart, created, isMade, isCreated⟩
      obtain ⟨remembered, known⟩ := remembers.exists_names isPart
      have offered := offers image isPart remembered known
      rw [DeviceImage.Offers, consistent.state image isPart, if_pos executable, isMade] at offered
      obtain rfl := Option.some.inj offered
      exact ⟨image, isPart, created, known, isCreated⟩

theorem lists_of_trusts (trusts : session.host.Trusts history images)
    (subset : bundle.images ⊆ images) (consistent : bundle.Consistent) :
    session.Lists history bundle := by
  constructor
  case right => exact fun names after told => right_of_trusts trusts subset consistent told
  case lasting =>
    intro names after told steps
    obtain ⟨lists, remembers, rfl⟩ := (bundle.ends_kernelNames session.host).of_ok told
    have remembersLater : (run { session with host := after } steps).2.host.Remembers
        bundle.images lists :=
      remembers.imp fun image names known =>
        @remembers_run { session with host := after } _ _ known steps
    exact ⟨KernelBundle.kernelNames_of_remembers remembersLater,
      fun name => KernelBundle.hasKernel_of_remembers remembersLater⟩
  case unlisted =>
    intro e after refused
    obtain ⟨image, halts⟩ := (bundle.ends_kernelNames session.host).of_error refused
    obtain ⟨before, unanswered⟩ := halts.unanswered
    refine ⟨image, halts.mem, ⟨before, unanswered⟩, unanswered.unknown_after, fun steps unknown => ?_⟩
    exact KernelBundle.asksAgain_of_halts halts
      (fun _ _ known => @remembers_run { session with host := after } _ _ known steps) unknown
  case unfound =>
    intro name e after refused
    obtain ⟨image, halts⟩ := (ends_imagesHaveKernel bundle.images name session.host).of_error refused
    obtain ⟨before, unanswered⟩ := halts.unanswered
    have recalls : ∀ steps, ∀ id names, after.kernelLists.get? id = some names →
        (run { session with host := after } steps).2.host.kernelLists.get? id = some names :=
      fun steps _ _ known => @remembers_run { session with host := after } _ _ known steps
    refine ⟨image, halts.mem, ⟨before, unanswered⟩, unanswered.unknown_after, fun steps unknown => ?_⟩
    exact ⟨KernelBundle.asksAgain_of_halts halts (recalls steps) unknown,
      KernelBundle.ends_hasKernel_of_halts halts (recalls steps) unknown⟩

end Lists

/-- The kernels of a bundle are told rightly, and once they are told they are remembered; each backend
has told those of a program to managed objects once at most. -/
theorem kernels_told_once {configs : List SimulatorConfig} {plans : List RegistryPlan}
    (environment : Text.Environment) (reaches : ∀ plan ∈ plans, plan.Reaches configs.length)
    (steps : List Step) :
    let opened := opening configs plans environment
    let session := (opened.run steps).2
    (∀ bundle ∈ session.host.held.values.filterMap Managed.bundle?,
      session.Lists (fun number => opened.history number steps) bundle) ∧
    ∀ number program, session.host.told (opened.marked steps) number program ≤ 1 := by
  intro opened session
  have founded : session.Founded := ⟨configs, plans, environment, steps, reaches, rfl⟩
  have knows : session.Knows (opened.marked steps) := by
    have knows := knows_run (knows_opening configs plans environment) steps
    simp only [List.nil_append] at knows
    exact knows
  obtain ⟨bound, listings⟩ := knows founded.grounded.isNumbered
  refine ⟨fun bundle member => ?_, listings.tells.once⟩
  obtain ⟨value, isHeld, isBundle⟩ := List.mem_filterMap.mp member
  have trusts := listings.trusts
  rw [plain_marked] at trusts
  apply lists_of_trusts trusts
  · exact List.Subset.trans (Managed.images_of_bundle? isBundle) (Shares.subset_of_mem isHeld)
  · exact Managed.consistent_of_bundle?
      (Managed.Closed.held Managed.closed_isConsistent founded.reachable value isHeld) isBundle

/-- The kernel of a program that has been linked is there for good once it has been listed. -/
theorem kernels_told_once_linking :
    ∃ bundle ∈ (single.run linking).2.host.held.values.filterMap Managed.bundle?, ∃ after,
      bundle.kernelNames (single.run linking).2.host = .ok ["axpy"] after ∧ ∀ steps,
        let later := (run { (single.run linking).2 with host := after } steps).2.host
        bundle.hasKernel "axpy" later = .ok true later := by
  have told : ∃ bundle ∈ (single.run linking).2.host.held.values.filterMap Managed.bundle?,
      bringsBack (fun names _ => decide (names = ["axpy"]))
        (bundle.kernelNames (single.run linking).2.host) = true := by
    decide +kernel
  unfold single at told ⊢
  obtain ⟨lists, -⟩ := kernels_told_once {} single_reaches linking
  obtain ⟨bundle, isHeld, brings⟩ := told
  obtain ⟨names, after, told, isNames⟩ := exists_of_bringsBack brings
  obtain rfl := of_decide_eq_true isNames
  refine ⟨bundle, isHeld, after, told, fun steps => ?_⟩
  exact ((lists bundle isHeld).lasting _ after told steps).2 "axpy"

end Session

end ComputeImport
