import ComputeImport.Proofs.Import.KernelNames
import ComputeImport.Proofs.Import.NewPrograms
import ComputeImport.Proofs.Session.Numbering

/-!
# What is known of kernels, and from whom

A backend is what its history has made of it.  Images have identities and programs of their own, so
that what is remembered of one of them is what its own backend has told, once.  `Listings` says so of
images with the history of their backends, in which the operations are marked that managed objects
have asked for.
-/

namespace ComputeImport

variable {host after : Host} {history : Nat → List Simulator.Operation} {number : Nat}
  {images part : List DeviceImage} {image : DeviceImage} {names : List String}

/-! ## The beginnings of backends -/

namespace Host

/-- A backend as it was when it was set up. -/
def beginning (host : Host) (number : Nat) : Simulator :=
  { config := (host.simulator number).config }

theorem beginning_of_simulators (same : after.simulators = host.simulators) :
    after.beginning = host.beginning := by
  funext number
  rw [beginning, beginning, simulator_of_simulators same]

@[simp]
theorem beginning_advance (number : Nat) (operation : Simulator.Operation) :
    (host.advance number ((host.simulator number).after operation)).beginning = host.beginning := by
  funext other
  rw [beginning, beginning, simulator_advance]
  split
  · rename_i same
    subst same
    exact congrArg (fun config => ({ config } : Simulator)) (Simulator.config_replay [operation])
  · rfl

/-- Histories have made the backends what they are. -/
structure Recalls (history : Nat → List Simulator.Operation) (host : Host) : Prop where
  replayed : ∀ number, host.simulator number = (host.beginning number).replay (history number)
  unknown : ∀ number, number ∉ host.simulators.keys → history number = []

/-- Histories have made the stores of the backends what they are. -/
def StoresRecall (history : Nat → List Simulator.Operation) (host : Host) : Prop :=
  ∀ number, (host.simulator number).store =
    ((host.beginning number).replay (history number)).store

theorem StoresRecall.formed (stores : host.StoresRecall history) (number : Nat) :
    (host.simulator number).store.WellFormed := by
  rw [stores]
  exact Simulator.wellFormed_replay Store.wellFormed_empty _

namespace Recalls

theorem stores (recalls : host.Recalls history) : host.StoresRecall history :=
  fun number => congrArg Simulator.store (recalls.replayed number)

theorem formed (recalls : host.Recalls history) (number : Nat) :
    (host.simulator number).store.WellFormed :=
  recalls.stores.formed number

theorem of_simulators (recalls : host.Recalls history) (same : after.simulators = host.simulators) :
    after.Recalls history := by
  constructor
  case replayed =>
    intro number
    rw [beginning_of_simulators same, simulator, same]
    exact recalls.replayed number
  case unknown => exact same ▸ recalls.unknown

theorem advance (recalls : host.Recalls history) (number : Nat) (operation : Simulator.Operation) :
    (host.advance number ((host.simulator number).after operation)).Recalls fun other =>
      history other ++ if number = other then [operation] else [] := by
  constructor
  case replayed =>
    intro other
    rw [simulator_advance, beginning_advance]
    by_cases same : number = other
    · subst same
      rw [if_pos rfl, if_pos rfl, Simulator.replay_concat, ← recalls.replayed]
    · rw [if_neg same, if_neg same, List.append_nil]
      exact recalls.replayed other
  case unknown =>
    intro other unknown
    rw [Host.advance, Ledger.keys_set] at unknown
    split at unknown
    · rename_i known
      have different : number ≠ other := fun same => unknown (same ▸ known)
      rw [if_neg different, List.append_nil]
      exact recalls.unknown other unknown
    · rw [List.mem_append, List.mem_singleton, not_or] at unknown
      rw [if_neg (Ne.symm unknown.2), List.append_nil]
      exact recalls.unknown other unknown.1

/-- A backend that is set up with a new number has no history. -/
theorem setUp (recalls : host.Recalls history) (isNew : number ∉ host.simulators.keys)
    (config : SimulatorConfig) : (Session.withBackend host number config).Recalls history := by
  constructor
  case replayed =>
    intro other
    rw [beginning, Session.simulator_withBackend]
    by_cases same : number = other
    · subst same
      rw [if_pos rfl, recalls.unknown number isNew]
      rfl
    · rw [if_neg same]
      exact recalls.replayed other
  case unknown =>
    intro other unknown
    apply recalls.unknown
    rw [Session.withBackend, Ledger.keys_set, if_neg isNew] at unknown
    exact fun known => unknown (List.mem_append_left _ known)

end Recalls

/-! ## Images have their own identities and programs -/

/-- Images have identities and programs of their own, and kernels are remembered for no identity that
has not been given. -/
structure Apart (images : List DeviceImage) (host : Host) : Prop where
  identity_lt : ∀ image ∈ images, image.identity < host.nextIdentity
  handle_lt : ∀ image ∈ images,
    image.program.handle.id < (host.simulator image.number).store.nextWrapper
  remembered_lt : ∀ id, host.kernelLists.get? id ≠ none → id < host.nextIdentity
  eq_of_identity : ∀ image ∈ images, ∀ other ∈ images, image.identity = other.identity →
    image = other
  eq_of_program : ∀ image ∈ images, ∀ other ∈ images, image.number = other.number →
    image.program.handle = other.program.handle → image = other

namespace Apart

theorem fewer (apart : host.Apart images) (subset : part ⊆ images) : host.Apart part := by
  constructor
  case identity_lt => exact fun image member => apart.identity_lt image (subset member)
  case handle_lt => exact fun image member => apart.handle_lt image (subset member)
  case remembered_lt => exact apart.remembered_lt
  case eq_of_identity =>
    exact fun image member other member' =>
      apart.eq_of_identity image (subset member) other (subset member')
  case eq_of_program =>
    exact fun image member other member' =>
      apart.eq_of_program image (subset member) other (subset member')

theorem later (apart : host.Apart images) (later : host.Later after)
    (same : after.kernelLists = host.kernelLists) : after.Apart images := by
  constructor
  case identity_lt =>
    exact fun image member => Nat.lt_of_lt_of_le (apart.identity_lt image member)
      later.nextIdentity_le
  case handle_lt =>
    exact fun image member => Nat.lt_of_lt_of_le (apart.handle_lt image member)
      (later.nextWrapper_le image.number)
  case remembered_lt =>
    intro id known
    rw [same] at known
    exact Nat.lt_of_lt_of_le (apart.remembered_lt id known) later.nextIdentity_le
  case eq_of_identity => exact apart.eq_of_identity
  case eq_of_program => exact apart.eq_of_program

theorem remember (apart : host.Apart images) (member : image ∈ images) :
    (host.remember image names).Apart images := by
  refine ⟨apart.identity_lt, apart.handle_lt, ?_, apart.eq_of_identity, apart.eq_of_program⟩
  intro id known
  rw [Host.remember, Ledger.get?_set] at known
  split at known
  · rename_i same
    exact same ▸ apart.identity_lt image member
  · exact apart.remembered_lt id known

/-- One more image of a new program. -/
theorem cons (apart : host.Apart images) (creates : host.Creates image.program after)
    (above : host.nextIdentity ≤ image.identity) (below : image.identity < after.nextIdentity)
    (same : after.kernelLists = host.kernelLists) : after.Apart (image :: images) := by
  have old := apart.later creates.toLater same
  have others : ∀ other ∈ images, other.identity ≠ image.identity := fun other member =>
    Nat.ne_of_lt (Nat.lt_of_lt_of_le (apart.identity_lt other member) above)
  have programs : ∀ other ∈ images, other.number = image.number →
      other.program.handle ≠ image.program.handle := by
    intro other member sameNumber sameHandle
    have isOld := apart.handle_lt other member
    rw [sameNumber, sameHandle] at isOld
    exact Nat.lt_irrefl _ (Nat.lt_of_lt_of_le isOld creates.above)
  constructor
  case identity_lt => exact List.forall_mem_cons.mpr ⟨below, old.identity_lt⟩
  case handle_lt => exact List.forall_mem_cons.mpr ⟨creates.below, old.handle_lt⟩
  case remembered_lt => exact old.remembered_lt
  case eq_of_identity =>
    rintro one (_ | ⟨_, isOne⟩) two (_ | ⟨_, isTwo⟩) sameIdentity
    · rfl
    · exact absurd sameIdentity.symm (others two isTwo)
    · exact absurd sameIdentity (others one isOne)
    · exact apart.eq_of_identity one isOne two isTwo sameIdentity
  case eq_of_program =>
    rintro one (_ | ⟨_, isOne⟩) two (_ | ⟨_, isTwo⟩) sameNumber sameHandle
    · rfl
    · exact absurd sameHandle.symm (programs two isTwo sameNumber.symm)
    · exact absurd sameHandle (programs one isOne sameNumber)
    · exact apart.eq_of_program one isOne two isTwo sameNumber sameHandle

end Apart

end Host

/-! ## What is remembered is right -/

/-- The kernels that an image has: an executable one those that its program has been created with,
and another one none. -/
def DeviceImage.Offers (image : DeviceImage) (begins : Nat → Simulator)
    (history : Nat → List Simulator.Operation) (names : List String) : Prop :=
  if image.state = .executable then
    (begins image.number).kernelsOf image.program.handle (history image.number) = some names
  else names = []

/-- What is remembered of images are the kernels that they have. -/
def Host.Right (history : Nat → List Simulator.Operation) (images : List DeviceImage) (host : Host) :
    Prop :=
  ∀ image ∈ images, ∀ names, host.kernelLists.get? image.identity = some names →
    image.Offers host.beginning history names

section Right

variable {more : Nat → List Simulator.Operation}

theorem DeviceImage.Offers.append {begins : Nat → Simulator}
    (offers : image.Offers begins history names) :
    image.Offers begins (fun number => history number ++ more number) names := by
  unfold DeviceImage.Offers at offers ⊢
  split at offers
  · rename_i executable
    rw [if_pos executable]
    exact Simulator.kernelsOf_append offers
  · rename_i other
    rw [if_neg other]
    exact offers

/-- An image that comes to be listed has the kernels that are listed. -/
theorem DeviceImage.Lists.offers (lists : image.Lists host names after)
    (stores : host.StoresRecall history) (isPart : image ∈ images) (right : host.Right history images) :
    image.Offers host.beginning history names := by
  cases lists with
  | known known => exact right image isPart names known
  | bare _ other =>
      rw [DeviceImage.Offers, if_neg other]
  | told _ executable _ leads =>
      rw [stores] at leads
      rw [DeviceImage.Offers, if_pos executable]
      exact Simulator.kernelsOf_of_leads Store.wellFormed_empty (fun _ => rfl) (fun _ => rfl) leads

namespace Host.Right

theorem append (right : host.Right history images) (begins : after.beginning = host.beginning)
    (same : after.kernelLists = host.kernelLists) :
    after.Right (fun number => history number ++ more number) images := by
  intro image member names known
  rw [same] at known
  rw [begins]
  exact (right image member names known).append

theorem remember (right : host.Right history images) (apart : host.Apart images)
    (isPart : image ∈ images) (offers : image.Offers host.beginning history names) :
    (host.remember image names).Right history images := by
  intro other member listed known
  rw [Host.remember, Ledger.get?_set] at known
  split at known
  · rename_i same
    obtain rfl := apart.eq_of_identity image isPart other member same
    obtain rfl := Option.some.inj known
    exact offers
  · exact right other member listed known

end Host.Right

end Right

/-! ## What has been told, and how often -/

/-- The operations on each backend, with whether a managed object has asked for them. -/
abbrev Marked := Nat → List (Bool × Simulator.Operation)

namespace Marked

/-- The operations by themselves. -/
def plain (marked : Marked) (number : Nat) : List Simulator.Operation :=
  (marked number).map Prod.snd

/-- One more operation on a backend. -/
def add (marked : Marked) (number : Nat) (isMarked : Bool) (operation : Simulator.Operation) : Marked :=
  fun other => marked other ++ if number = other then [(isMarked, operation)] else []

theorem plain_add (marked : Marked) (number : Nat) (isMarked : Bool)
    (operation : Simulator.Operation) :
    (marked.add number isMarked operation).plain = fun other =>
      marked.plain other ++ if number = other then [operation] else [] := by
  funext other
  rw [plain, plain, add, List.map_append]
  split <;> rfl

end Marked

variable {marked marked' : Marked} {bound : Nat → Nat} {isMarked : Bool}
  {operation : Simulator.Operation} {program : ProgramHandle}

namespace Host

/-- How often a backend has told the kernels of a program to managed objects. -/
def told (host : Host) (marked : Marked) (number : Nat) (program : ProgramHandle) : Nat :=
  (host.beginning number).tellings program (marked number)

theorem told_of_simulators (same : after.simulators = host.simulators) :
    after.told marked = host.told marked := by
  funext number program
  rw [told, told, beginning_of_simulators same]

/-- What an operation tells is told once more. -/
theorem told_advance (recalls : host.Recalls marked.plain) (number : Nat) (isMarked : Bool)
    (operation : Simulator.Operation) (other : Nat) (program : ProgramHandle) :
    (host.advance number ((host.simulator number).after operation)).told
        (marked.add number isMarked operation) other program =
      host.told marked other program + if number = other ∧ isMarked = true then
        Simulator.tells program (host.simulator number) operation else 0 := by
  rw [told, told, beginning_advance, Marked.add]
  by_cases same : number = other
  · subst same
    rw [if_pos rfl, Simulator.tellings_concat, ← Marked.plain, ← recalls.replayed]
    simp only [true_and]
  · rw [if_neg same, List.append_nil, if_neg fun both => same both.1, Nat.add_zero]

/-- Asking for the kernels of an image tells those of its program, if any. -/
theorem told_asked (recalls : host.Recalls marked.plain) (image : DeviceImage) (isMarked : Bool)
    (other : Nat) (program : ProgramHandle) :
    (host.asked image).told (marked.add image.number isMarked image.asking) other program =
        host.told marked other program ∨
      other = image.number ∧ program = image.program.handle ∧
        (host.asked image).told (marked.add image.number isMarked image.asking) other program ≤
          host.told marked other program + 1 := by
  rw [asked, told_advance recalls]
  by_cases isImage : image.number = other ∧ program = image.program.handle
  · refine Or.inr ⟨isImage.1.symm, isImage.2, ?_⟩
    unfold Simulator.tells
    repeat' split
    all_goals omega
  · left
    rw [Nat.add_eq_left]
    split
    · rename_i asks
      apply Simulator.tells_of_not_asks
      exact beq_eq_false_iff_ne.mpr fun same => isImage ⟨asks.1, same.symm⟩
    · rfl

/-- Kernels have been told once at most for a program, whose wrapper was one of the first; and they
are remembered for the image that has it. -/
structure Tells (marked : Marked) (bound : Nat → Nat) (images : List DeviceImage) (host : Host) :
    Prop where
  once : ∀ number program, host.told marked number program ≤ 1
  below : ∀ number program, host.told marked number program ≠ 0 → program.id < bound number
  remembered : ∀ image ∈ images, host.told marked image.number image.program.handle ≠ 0 →
    host.kernelLists.get? image.identity ≠ none

theorem Tells.of_told (tells : host.Tells marked bound images)
    (same : after.told marked' = host.told marked)
    (remembers : ∀ id, host.kernelLists.get? id ≠ none → after.kernelLists.get? id ≠ none) :
    after.Tells marked' bound images := by
  constructor
  case once => exact same ▸ tells.once
  case below => exact same ▸ tells.below
  case remembered =>
    intro image member isTold
    rw [same] at isTold
    exact remembers _ (tells.remembered image member isTold)

end Host

/-- What is known of kernels: images are apart, and what is remembered of them is right and has been
told once, while the first wrappers of each backend have been used. -/
structure Listings (marked : Marked) (bound : Nat → Nat) (images : List DeviceImage) (host : Host) :
    Prop where
  recalls : host.Recalls marked.plain
  apart : host.Apart images
  right : host.Right marked.plain images
  tells : host.Tells marked bound images
  bound_le : ∀ number, bound number ≤ (host.simulator number).store.nextWrapper

namespace Listings

theorem fewer (listings : Listings marked bound images host) (subset : part ⊆ images) :
    Listings marked bound part host := by
  constructor
  case recalls => exact listings.recalls
  case apart => exact listings.apart.fewer subset
  case right => exact fun image member => listings.right image (subset member)
  case tells =>
    exact ⟨listings.tells.once, listings.tells.below, fun image member =>
      listings.tells.remembered image (subset member)⟩
  case bound_le => exact listings.bound_le

/-- All wrappers that have been made may count as the first. -/
theorem raise (listings : Listings marked bound images host) :
    Listings marked (fun number => (host.simulator number).store.nextWrapper) images host := by
  refine { listings with tells := ?_, bound_le := fun _ => Nat.le_refl _ }
  exact { listings.tells with
    below := fun number program isTold =>
      Nat.lt_of_lt_of_le (listings.tells.below number program isTold) (listings.bound_le number) }

theorem later (listings : Listings marked bound images host) : host.Later host :=
  .refl listings.recalls.formed

theorem other (listings : Listings marked bound images host)
    (same : after.simulators = host.simulators) (lists : after.kernelLists = host.kernelLists)
    (le : host.nextIdentity ≤ after.nextIdentity) : Listings marked bound images after := by
  constructor
  case recalls => exact listings.recalls.of_simulators same
  case apart => exact listings.apart.later (listings.later.of_simulators same le) lists
  case right =>
    rw [Host.Right, lists, Host.beginning_of_simulators same]
    exact listings.right
  case tells =>
    exact listings.tells.of_told (Host.told_of_simulators same) fun id known => lists ▸ known
  case bound_le =>
    intro number
    rw [Host.simulator_of_simulators same]
    exact listings.bound_le number

/-- The parts that do not depend on what an operation has told. -/
theorem advance (listings : Listings marked bound images host)
    (silent : isMarked = true → ∀ program,
      Simulator.tells program (host.simulator number) operation = 0) :
    Listings (marked.add number isMarked operation) bound images
      (host.advance number ((host.simulator number).after operation)) := by
  have later := listings.later.advance number operation
  constructor
  case recalls =>
    rw [Marked.plain_add]
    exact listings.recalls.advance number operation
  case apart => exact listings.apart.later later rfl
  case right =>
    rw [Marked.plain_add]
    exact listings.right.append (Host.beginning_advance number operation) rfl
  case tells =>
    refine listings.tells.of_told ?_ fun _ known => known
    funext other program
    rw [Host.told_advance listings.recalls]
    split
    · rename_i both
      rw [silent both.2]
      rfl
    · rfl
  case bound_le =>
    exact fun other => Nat.le_trans (listings.bound_le other) (later.nextWrapper_le other)

theorem remember (listings : Listings marked bound images host) (isPart : image ∈ images)
    (offers : image.Offers host.beginning marked.plain names) :
    Listings marked bound images (host.remember image names) := by
  constructor
  case recalls => exact listings.recalls.of_simulators rfl
  case apart => exact listings.apart.remember isPart
  case right => exact listings.right.remember listings.apart isPart offers
  case tells =>
    have same : (host.remember image names).told marked = host.told marked := rfl
    apply listings.tells.of_told same
    intro id known
    rw [Host.remember, Ledger.get?_set]
    split
    · exact Option.some_ne_none _
    · exact known
  case bound_le => exact listings.bound_le

/-- An image that is not remembered has been told nothing, so that it may be now. -/
theorem told (listings : Listings marked bound images host) (isPart : image ∈ images)
    (unknown : host.kernelLists.get? image.identity = none)
    (offers : image.Offers host.beginning marked.plain names) :
    Listings (marked.add image.number isMarked image.asking)
      (fun number => (host.simulator number).store.nextWrapper) images
      ((host.asked image).remember image names) := by
  have raised := listings.raise
  have later := raised.later.advance image.number image.asking
  have apart : (host.asked image).Apart images := raised.apart.later later rfl
  have untold : host.told marked image.number image.program.handle = 0 := by
    by_contra isTold
    exact raised.tells.remembered image isPart isTold unknown
  have asks := Host.told_asked raised.recalls image isMarked
  have remembered : ∀ id, id = image.identity ∨ host.kernelLists.get? id ≠ none →
      ((host.asked image).remember image names).kernelLists.get? id ≠ none := by
    intro id known
    rw [Host.remember, Ledger.get?_set]
    split
    · exact Option.some_ne_none _
    · rename_i different
      exact known.resolve_left (Ne.symm different)
  constructor
  case recalls =>
    rw [Marked.plain_add]
    exact (raised.recalls.advance image.number image.asking).of_simulators rfl
  case apart => exact apart.remember isPart
  case right =>
    rw [Marked.plain_add]
    have begins : (host.asked image).beginning = host.beginning :=
      Host.beginning_advance image.number image.asking
    refine Host.Right.remember ?_ apart isPart ?_
    · exact raised.right.append begins rfl
    · rw [begins]
      exact offers.append
  case tells =>
    constructor
    case once =>
      intro number program
      rcases asks number program with same | ⟨rfl, rfl, le⟩
      · exact same.trans_le (raised.tells.once number program)
      · rw [untold] at le
        exact le
    case below =>
      intro number program isTold
      rcases asks number program with same | ⟨rfl, rfl, -⟩
      · exact raised.tells.below number program fun untold => isTold (same.trans untold)
      · exact raised.apart.handle_lt image isPart
    case remembered =>
      intro other member isTold
      apply remembered
      rcases asks other.number other.program.handle with same | ⟨sameNumber, sameHandle, -⟩
      · exact Or.inr (raised.tells.remembered other member fun untold => isTold (same.trans untold))
      · rw [raised.apart.eq_of_program other member image isPart sameNumber sameHandle]
        exact Or.inl rfl
  case bound_le => exact fun number => later.nextWrapper_le number

/-- One more image, of a program that has been made since, and of which nothing has been told. -/
theorem cons (listings : Listings marked' bound images after) (apart : host.Apart images)
    (bound_le : ∀ number, bound number ≤ (host.simulator number).store.nextWrapper)
    (creates : host.Creates image.program after) (above : host.nextIdentity ≤ image.identity)
    (below : image.identity < after.nextIdentity)
    (same : after.kernelLists = host.kernelLists) :
    Listings marked' bound (image :: images) after := by
  constructor
  case recalls => exact listings.recalls
  case apart => exact apart.cons creates above below same
  case right =>
    apply List.forall_mem_cons.mpr ⟨?_, listings.right⟩
    intro names known
    have remembered : host.kernelLists.get? image.identity ≠ none := by
      rw [← same, known]
      exact Option.some_ne_none _
    exact absurd (Nat.lt_of_lt_of_le (apart.remembered_lt _ remembered) above) (Nat.lt_irrefl _)
  case tells =>
    refine ⟨listings.tells.once, listings.tells.below, ?_⟩
    apply List.forall_mem_cons.mpr ⟨?_, listings.tells.remembered⟩
    intro isTold
    have isOld := Nat.lt_of_lt_of_le (listings.tells.below _ _ isTold) (bound_le image.number)
    exact absurd (Nat.lt_of_lt_of_le isOld creates.above) (Nat.lt_irrefl _)
  case bound_le => exact listings.bound_le

/-- A backend that is set up with a new number has told nothing. -/
theorem setUp (listings : Listings marked bound images host)
    (isNew : number ∉ host.simulators.keys) (config : SimulatorConfig) :
    Listings marked bound images (Session.withBackend host number config) := by
  have noHistory : marked number = [] := List.map_eq_nil_iff.mp (listings.recalls.unknown number isNew)
  have absent : host.simulator number = {} := by
    rw [Host.simulator, Ledger.get?_eq_none_of_not_mem isNew]
    rfl
  have stores : ∀ other, ((Session.withBackend host number config).simulator other).store =
      (host.simulator other).store := by
    intro other
    rw [Session.simulator_withBackend]
    split
    · rename_i same
      rw [← same, absent]
    · rfl
  have others : ∀ other, number ≠ other →
      (Session.withBackend host number config).beginning other = host.beginning other := by
    intro other different
    rw [Host.beginning, Host.beginning, Session.simulator_withBackend, if_neg different]
  constructor
  case recalls => exact listings.recalls.setUp isNew config
  case apart =>
    refine listings.apart.later ⟨fun other => ?_, fun other => ?_, Nat.le_refl _⟩ rfl
    · rw [stores]
      exact listings.recalls.formed other
    · rw [stores]
  case right =>
    intro image member names known
    have offers := listings.right image member names known
    unfold DeviceImage.Offers at offers ⊢
    split at offers
    · rename_i executable
      rw [if_pos executable]
      by_cases same : number = image.number
      · rw [← same, Marked.plain, noHistory] at offers
        contradiction
      · rw [others _ same]
        exact offers
    · rename_i other
      rw [if_neg other]
      exact offers
  case tells =>
    refine listings.tells.of_told ?_ fun _ known => known
    funext other program
    rw [Host.told, Host.told]
    by_cases same : number = other
    · rw [← same, noHistory]
      rfl
    · rw [others _ same]
  case bound_le =>
    intro other
    rw [stores]
    exact listings.bound_le other

/-- Whether an image lists its kernels or not, what is known stays right. -/
theorem ends_kernelNames (listings : Listings marked bound images host) (isPart : image ∈ images)
    (isMarked : Bool) :
    Ends image.kernelNames host
      (fun _ after => ∃ marked' bound, (marked' = marked ∧ after.simulators = host.simulators ∨
        marked' = marked.add image.number isMarked image.asking ∧
          after.simulators = (host.asked image).simulators) ∧
        Listings marked' bound images after)
      (fun _ after => after.simulators = (host.asked image).simulators ∧
        Listings (marked.add image.number isMarked image.asking) bound images after) := by
  apply (image.ends_kernelNames host).imp
  · intro names after lists
    have offers := lists.offers listings.recalls.stores isPart listings.right
    cases lists with
    | known => exact ⟨marked, bound, Or.inl ⟨rfl, rfl⟩, listings⟩
    | bare unknown other =>
        exact ⟨marked, bound, Or.inl ⟨rfl, rfl⟩, listings.remember isPart offers⟩
    | told unknown =>
        exact ⟨_, _, Or.inr ⟨rfl, rfl⟩, listings.told isPart unknown offers⟩
  · rintro e after unanswered
    rw [unanswered.after_eq]
    refine ⟨rfl, listings.advance fun _ program => ?_⟩
    rw [Simulator.tells, unanswered.refused, Bool.and_false]
    rfl

end Listings

/-! ## While kernels are asked for and nothing else -/

/-- What is remembered of images is right with a history, whichever kernels have been asked for since
then. -/
structure Host.Trusts (history : Nat → List Simulator.Operation) (images : List DeviceImage)
    (host : Host) : Prop where
  stores : host.StoresRecall history
  apart : host.Apart images
  right : host.Right history images

theorem Listings.trusts (listings : Listings marked bound images host) :
    host.Trusts marked.plain images :=
  ⟨listings.recalls.stores, listings.apart, listings.right⟩

namespace Host.Trusts

theorem asked (trusts : host.Trusts history images) (image : DeviceImage) :
    (host.asked image).Trusts history images := by
  have begins : (host.asked image).beginning = host.beginning :=
    beginning_advance image.number image.asking
  have later : host.Later (host.asked image) :=
    (Later.refl trusts.stores.formed).advance image.number image.asking
  refine ⟨fun number => ?_, trusts.apart.later later rfl, ?_⟩
  · rw [begins, ← trusts.stores, Host.asked, simulator_advance]
    split
    · rename_i same
      rw [← same]
      exact Simulator.store_after_programKernelNames
    · rfl
  · rw [Right, begins]
    exact trusts.right

theorem remember (trusts : host.Trusts history images) (isPart : image ∈ images)
    (offers : image.Offers host.beginning history names) :
    (host.remember image names).Trusts history images :=
  ⟨trusts.stores, trusts.apart.remember isPart, trusts.right.remember trusts.apart isPart offers⟩

theorem keeps_kernelNames {begins : Nat → Simulator} (isPart : image ∈ images) :
    Keeps (fun host => host.Trusts history images ∧ host.beginning = begins) image.kernelNames := by
  constructor
  rintro host ⟨trusts, rfl⟩
  have same : (host.asked image).beginning = host.beginning :=
    beginning_advance image.number image.asking
  apply (image.ends_kernelNames host).imp
  · intro names after lists
    have offers := lists.offers trusts.stores isPart trusts.right
    cases lists with
    | known => exact ⟨trusts, rfl⟩
    | bare => exact ⟨trusts.remember isPart offers, rfl⟩
    | told => exact ⟨(trusts.asked image).remember isPart (same ▸ offers), same⟩
  · rintro e after unanswered
    rw [unanswered.after_eq]
    exact ⟨trusts.asked image, same⟩

end Host.Trusts

end ComputeImport
