import ComputeImport.Proofs.Session.Export
import ComputeImport.Proofs.Session.Sharing

/-!
# The bundles of a session

The bundles that are alive are made of imported programs.  Their images are in their state and for
their devices, and as long as they have come through one table, no two of their devices have the same
handle.  So joining is a flattening union of devices by their handles, too.
-/

namespace ComputeImport

/-! ## Bundles by themselves -/

namespace KernelBundle

/-- The images of a bundle are in its state, and it is for just the devices that they are for. -/
structure Consistent (bundle : KernelBundle) : Prop where
  state : ∀ image ∈ bundle.images, image.state = bundle.state
  devices : ∀ image ∈ bundle.images, image.devices ⊆ bundle.devices
  covered : ∀ device ∈ bundle.devices, ∃ image ∈ bundle.images, device ∈ image.devices

theorem consistent_empty (context : Context) (state : BundleState) :
    (empty context state).Consistent :=
  ⟨List.forall_mem_nil _, List.forall_mem_nil _, List.forall_mem_nil _⟩

theorem consistent_single (context : Context) (image : DeviceImage) :
    Consistent ⟨context, image.devices, image.state, [image]⟩ := by
  constructor
  case state => exact List.forall_mem_singleton.mpr rfl
  case devices => exact List.forall_mem_singleton.mpr (List.Subset.refl _)
  case covered => exact fun device member => ⟨image, List.mem_singleton_self _, member⟩

theorem consistent_join {bundles : List KernelBundle} {joined : KernelBundle}
    (consistent : ∀ bundle ∈ bundles, bundle.Consistent) (isJoined : join bundles = .ok joined) :
    joined.Consistent := by
  obtain ⟨-, flattens⟩ := join_eq_ok.mp isJoined
  have isDevice : ∀ device, device ∈ joined.devices ↔ ∃ bundle ∈ bundles, device ∈ bundle.devices := by
    intro device
    rw [flattens.devices, List.mem_eraseDups, List.mem_flatMap]
  constructor
  case state =>
    intro image isImage
    obtain ⟨bundle, isBundle, isImage⟩ := Session.images_join isJoined isImage
    rw [(consistent bundle isBundle).state image isImage, flattens.state bundle isBundle]
  case devices =>
    intro image isImage device member
    obtain ⟨bundle, isBundle, isImage⟩ := Session.images_join isJoined isImage
    exact (isDevice device).mpr
      ⟨bundle, isBundle, (consistent bundle isBundle).devices image isImage member⟩
  case covered =>
    intro device member
    obtain ⟨bundle, isBundle, member⟩ := (isDevice device).mp member
    obtain ⟨image, isImage, member⟩ := (consistent bundle isBundle).covered device member
    refine ⟨image, ?_, member⟩
    rw [flattens.images]
    exact List.mem_flatMap.mpr ⟨bundle, isBundle, isImage⟩

end KernelBundle

/-- The images of a bundle have all been imported through one table. -/
def KernelBundle.Through (bundle : KernelBundle) (provider : Provider) : Prop :=
  ∀ image ∈ bundle.images, image.program.provider = provider

/-- A value keeps no bundle but a consistent one. -/
def Managed.IsConsistent : Managed → Prop
  | bundle held => held.Consistent
  | kernel held => held.bundle.Consistent
  | _ => True

theorem Managed.consistent_of_bundle? {value : Managed} {bundle : KernelBundle}
    (consistent : value.IsConsistent) (kept : value.bundle? = some bundle) : bundle.Consistent := by
  cases value with
  | bundle held | kernel held =>
      obtain rfl := Option.some.inj kept
      exact consistent
  | _ => contradiction

theorem Managed.images_of_bundle? {value : Managed} {bundle : KernelBundle}
    (kept : value.bundle? = some bundle) : bundle.images ⊆ value.images := by
  cases value with
  | bundle held | kernel held =>
      obtain rfl := Option.some.inj kept
      exact List.Subset.refl _
  | _ => contradiction

theorem Managed.closed_isConsistent (held : Ledger String Managed) :
    Managed.Closed held Managed.IsConsistent := by
  constructor
  case plain =>
    intro value none
    cases value with
    | bundle | kernel => contradiction
    | _ => trivial
  case empty => exact KernelBundle.consistent_empty
  case program => exact KernelBundle.consistent_single
  case join => exact KernelBundle.consistent_join
  case kernel =>
    rintro kernel - (⟨-, consistent⟩ | isEmpty)
    · exact consistent
    · rw [IsConsistent, isEmpty]
      exact KernelBundle.consistent_empty _ _
  case bundleOf => exact fun kernel consistent => consistent

namespace Session

variable {session : Session} {next : Step}

/-- The bundles that a step shows or leaves alive, also with a kernel. -/
def bundlesAfter (session : Session) (next : Step) : List KernelBundle :=
  (shownValues (session.step next).1 ++ (session.step next).2.host.held.values).filterMap
    Managed.bundle?

theorem consistent_bundlesAfter (reachable : session.Reachable) :
    ∀ bundle ∈ session.bundlesAfter next, bundle.Consistent := by
  intro bundle member
  obtain ⟨value, isAlive, isBundle⟩ := List.mem_filterMap.mp member
  exact Managed.consistent_of_bundle?
    (Managed.Closed.alive Managed.closed_isConsistent reachable next value isAlive) isBundle

theorem Founded.reachable (founded : session.Founded) : session.Reachable := by
  obtain ⟨configs, plans, environment, steps, -, same⟩ := founded
  exact ⟨configs, plans, environment, steps, same⟩

theorem Grounded.isNumbered {pending : List Managed} (grounded : session.Grounded pending) :
    session.host.Numbered := by
  obtain ⟨size, keys, -⟩ := grounded.numbered
  exact ⟨size, keys⟩

/-- Bundles that have come through one table have no two devices of the same handle among them. -/
theorem eq_of_handle_eq (founded : session.Founded) {provider : Provider}
    {bundles : List KernelBundle} (alive : bundles ⊆ session.bundlesAfter next)
    (through : ∀ bundle ∈ bundles, bundle.Through provider) :
    ∀ a ∈ bundles.flatMap KernelBundle.devices, ∀ b ∈ bundles.flatMap KernelBundle.devices,
      a.handle = b.handle → a = b := by
  have shares := founded.reachable.shares_step next
  have isSettled := shares.sharing.settled (founded.grounded.step next).isNumbered
  have provided : ∀ device ∈ bundles.flatMap KernelBundle.devices,
      device ∈ targetsOf (shownValues (session.step next).1 ++
        (session.step next).2.host.held.values) ∧ device.platform.provider = provider := by
    intro device member
    obtain ⟨bundle, isBundle, member⟩ := List.mem_flatMap.mp member
    obtain ⟨image, isImage, member⟩ :=
      (consistent_bundlesAfter founded.reachable bundle (alive isBundle)).covered device member
    obtain ⟨value, isAlive, keeps⟩ := List.mem_filterMap.mp (alive isBundle)
    have isPart : image ∈ imagesOf (shownValues (session.step next).1 ++
        (session.step next).2.host.held.values) :=
      List.mem_flatMap.mpr ⟨value, isAlive, Managed.images_of_bundle? keeps isImage⟩
    exact ⟨List.mem_flatMap.mpr ⟨image, isPart, member⟩,
      (shares.provided image isPart device member).trans (through bundle isBundle image isImage)⟩
  intro a isA b isB handle
  obtain ⟨isTarget, isProvider⟩ := provided a isA
  obtain ⟨isTarget', isProvider'⟩ := provided b isB
  exact isSettled.unique a isTarget b isTarget' (isProvider.trans isProvider'.symm) handle

/-- Joining is a flattening union, in whichever groups, and bundles are consistent, imported ones as
joined ones.  While bundles have come through one table, the union is one by handles. -/
theorem join_union (reachable : session.Reachable) (next : Step) :
    (∀ bundles, (∃ joined, KernelBundle.join bundles = .ok joined) ↔ KernelBundle.Joinable bundles) ∧
    (∀ bundles joined, KernelBundle.join bundles = .ok joined →
      KernelBundle.Flattens bundles joined) ∧
    (∀ groups joined, (∀ group ∈ groups, group ≠ []) →
      (KernelBundle.join groups.flatten = .ok joined ↔
        ∃ parts, KernelBundle.JoinedInto groups parts ∧ KernelBundle.join parts = .ok joined)) ∧
    (∀ bundle ∈ session.bundlesAfter next, bundle.Consistent) ∧
    (session.Founded → ∀ bundles ⊆ session.bundlesAfter next, ∀ joined provider,
        (∀ bundle ∈ bundles, bundle.Through provider) → KernelBundle.join bundles = .ok joined →
        (joined.devices.map Device.handle).Nodup) := by
  refine ⟨fun bundles => KernelBundle.exists_join,
    fun bundles joined isJoined => (KernelBundle.join_eq_ok.mp isJoined).2,
    fun groups joined nonempty => KernelBundle.join_flatten nonempty,
    consistent_bundlesAfter reachable, ?_⟩
  intro founded bundles alive joined provider through isJoined
  obtain ⟨-, flattens⟩ := KernelBundle.join_eq_ok.mp isJoined
  have distinct : joined.devices.Nodup := by
    rw [flattens.devices, ← addDevices_nil]
    exact nodup_addDevices _ _ List.nodup_nil
  refine List.Nodup.map_on ?_ distinct
  intro a isA b isB handle
  rw [flattens.devices, List.mem_eraseDups] at isA isB
  exact eq_of_handle_eq founded alive through a isA b isB handle

/-- One more program for the same device. -/
def pairing : List Step :=
  linking ++ [⟨.caller 0 (.createProgram [⟨4097⟩] .executable []), none⟩,
    ⟨.importProgram (some 0) ⟨4101⟩ "context" false .executable .openCl, some "other"⟩]

/-- Two programs have come through one table, for one device, which is there once. -/
theorem join_union_pairing :
    (single.run pairing).2.Reachable ∧
      ∃ first ∈ (single.run pairing).2.bundlesAfter ⟨.join ["bundle", "other"], none⟩,
      ∃ second ∈ (single.run pairing).2.bundlesAfter ⟨.join ["bundle", "other"], none⟩,
        first.images ≠ second.images ∧ ∃ joined, KernelBundle.join [first, second] = .ok joined ∧
          joined.images = first.images ++ second.images ∧ (joined.devices.map Device.handle).Nodup := by
  have founded : (single.run pairing).2.Founded := founded_single pairing
  obtain ⟨joins, flattens, -, -, distinct⟩ :=
    join_union founded.reachable ⟨.join ["bundle", "other"], none⟩
  obtain ⟨first, isFirst, second, isSecond, different, context, state, through, through'⟩ :
      ∃ first ∈ (single.run pairing).2.bundlesAfter ⟨.join ["bundle", "other"], none⟩,
      ∃ second ∈ (single.run pairing).2.bundlesAfter ⟨.join ["bundle", "other"], none⟩,
        first.images ≠ second.images ∧ first.context = second.context ∧
          first.state = second.state ∧
          first.Through (Registration.provider ⟨.openCl, ⟨0, none⟩, none⟩ 0) ∧
          second.Through (Registration.provider ⟨.openCl, ⟨0, none⟩, none⟩ 0) := by
    unfold KernelBundle.Through
    decide +kernel
  have joinable : KernelBundle.Joinable [first, second] := by
    constructor
    case some => exact List.cons_ne_nil _ _
    case context => simp [context]
    case state => simp [state]
  obtain ⟨joined, isJoined⟩ := (joins _).mpr joinable
  refine ⟨founded.reachable, first, isFirst, second, isSecond, different, joined, isJoined, ?_, ?_⟩
  · rw [(flattens _ joined isJoined).images]
    simp
  · refine distinct founded [first, second] ?_ joined
      (Registration.provider ⟨.openCl, ⟨0, none⟩, none⟩ 0) ?_ isJoined
    · exact List.cons_subset.mpr ⟨isFirst, List.cons_subset.mpr ⟨isSecond, List.nil_subset _⟩⟩
    · exact List.forall_mem_cons.mpr ⟨through, List.forall_mem_singleton.mpr through'⟩

end Session

end ComputeImport
