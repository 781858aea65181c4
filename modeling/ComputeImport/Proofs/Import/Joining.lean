import ComputeImport.Import.Bundle
import Mathlib.Data.List.Forall2

/-!
# Joining is a flattening union

Bundles are joined just where there is one and all have the same context and state.  Joining takes the
images one after another, and of the devices the first occurrence of each, so that it does not matter
in which groups bundles are joined first.
-/

namespace ComputeImport

/-! ## Devices, each once -/

section Devices

variable {devices given more : List Device}

theorem addDevices_append (devices first second : List Device) :
    addDevices devices (first ++ second) = addDevices (addDevices devices first) second := by
  induction first generalizing devices with
  | nil => rfl
  | cons device first ih => exact ih _

/-- Adding devices of which others have been left out, because they occur before. -/
theorem addDevices_addDevices (devices given more : List Device) :
    addDevices devices (addDevices given more) = addDevices (addDevices devices given) more := by
  induction more generalizing given with
  | nil => rfl
  | cons device more ih =>
      rw [addDevices, addDevices, ih]
      by_cases known : device ∈ given
      · have known' := (mem_addDevices device devices given).mpr (Or.inr known)
        rw [if_pos known, if_pos known']
      · rw [if_neg known, addDevices_append]
        rfl

/-- Devices are the first occurrences of those that are added one after another. -/
theorem addDevices_eq (devices more : List Device) :
    addDevices devices more = devices ++ (more.filter fun device => device ∉ devices).eraseDups := by
  induction more generalizing devices with
  | nil => exact (List.append_nil devices).symm
  | cons device more ih =>
      rw [addDevices, ih]
      by_cases known : device ∈ devices
      · rw [if_pos known, List.filter_cons_of_neg (by simpa using known)]
      · have rest : more.filter (fun other => other ∉ devices ++ [device]) =
            (more.filter fun other => other ∉ devices).filter fun other => !other == device := by
          rw [List.filter_filter]
          apply List.filter_congr
          intro other _
          simp [and_comm, Bool.beq_eq_decide_eq]
        rw [if_neg known, List.filter_cons_of_pos (by simpa using known), List.eraseDups_cons, rest,
          List.append_assoc]
        rfl

theorem addDevices_nil (more : List Device) : addDevices [] more = more.eraseDups := by
  rw [addDevices_eq, List.filter_eq_self.mpr (by simp)]
  rfl

/-- It does not matter whether devices are taken once in every group before. -/
theorem addDevices_flatMap {α : Type} (groups : List α) (of : α → List Device) :
    addDevices devices (groups.flatMap fun group => addDevices [] (of group)) =
      addDevices devices (groups.flatMap of) := by
  induction groups generalizing devices with
  | nil => rfl
  | cons group groups ih =>
      rw [List.flatMap_cons, List.flatMap_cons, addDevices_append, addDevices_append, ih,
        addDevices_addDevices]
      rfl

end Devices

namespace KernelBundle

variable {bundles : List KernelBundle} {joined : KernelBundle}

/-! ## Joining -/

/-- Bundles may be joined: there is one, and all have the same context and the same state. -/
structure Joinable (bundles : List KernelBundle) : Prop where
  some : bundles ≠ []
  context : ∀ a ∈ bundles, ∀ b ∈ bundles, a.context = b.context
  state : ∀ a ∈ bundles, ∀ b ∈ bundles, a.state = b.state

/-- A bundle is the flattening union of bundles. -/
structure Flattens (bundles : List KernelBundle) (joined : KernelBundle) : Prop where
  context : ∀ bundle ∈ bundles, joined.context = bundle.context
  state : ∀ bundle ∈ bundles, joined.state = bundle.state
  images : joined.images = bundles.flatMap KernelBundle.images
  devices : joined.devices = (bundles.flatMap KernelBundle.devices).eraseDups

theorem checkJoin_eq_ok {first : KernelBundle} :
    checkJoin first bundles = .ok () ↔
      ∀ bundle ∈ bundles, bundle.context = first.context ∧ bundle.state = first.state := by
  induction bundles with
  | nil => exact ⟨fun _ => List.forall_mem_nil _, fun _ => rfl⟩
  | cons bundle bundles ih =>
      rw [checkJoin, List.forall_mem_cons, ← ih]
      split
      · rename_i other
        exact ⟨nofun, fun same => absurd same.1.1 other⟩
      · rename_i context
        split
        · rename_i other
          exact ⟨nofun, fun same => absurd same.1.2 other⟩
        · rename_i state
          exact ⟨fun rest => ⟨⟨not_not.mp context, not_not.mp state⟩, rest⟩, fun same => same.2⟩

theorem join_cons_eq_ok {first : KernelBundle} {rest : List KernelBundle} :
    join (first :: rest) = .ok joined ↔ checkJoin first rest = .ok () ∧
      joined = ⟨first.context, addDevices [] ((first :: rest).flatMap KernelBundle.devices),
        first.state, (first :: rest).flatMap KernelBundle.images⟩ := by
  rw [join]
  cases checkJoin first rest with
  | error e => exact ⟨nofun, nofun⟩
  | ok _ => exact ⟨fun isJoined => ⟨rfl, (Except.ok.inj isJoined).symm⟩, fun same => same.2 ▸ rfl⟩

/-- Bundles are joined into their flattening union where they may be joined, and not otherwise. -/
theorem join_eq_ok : join bundles = .ok joined ↔ Joinable bundles ∧ Flattens bundles joined := by
  cases bundles with
  | nil => exact ⟨nofun, fun both => absurd rfl both.1.some⟩
  | cons first rest =>
      rw [join_cons_eq_ok, checkJoin_eq_ok]
      constructor
      · rintro ⟨same, rfl⟩
        have context : ∀ bundle ∈ first :: rest, first.context = bundle.context :=
          List.forall_mem_cons.mpr ⟨rfl, fun bundle member => (same bundle member).1.symm⟩
        have state : ∀ bundle ∈ first :: rest, first.state = bundle.state :=
          List.forall_mem_cons.mpr ⟨rfl, fun bundle member => (same bundle member).2.symm⟩
        exact ⟨⟨nofun, fun a isA b isB => (context a isA).symm.trans (context b isB),
          fun a isA b isB => (state a isA).symm.trans (state b isB)⟩,
          context, state, rfl, addDevices_nil _⟩
      · rintro ⟨joinable, flattens⟩
        constructor
        · intro bundle member
          have isBundle := List.mem_cons_of_mem first member
          exact ⟨joinable.context bundle isBundle first List.mem_cons_self,
            joinable.state bundle isBundle first List.mem_cons_self⟩
        · obtain ⟨context, devices, state, images⟩ := joined
          obtain rfl : context = first.context := flattens.context first List.mem_cons_self
          obtain rfl : state = first.state := flattens.state first List.mem_cons_self
          obtain rfl := flattens.images
          obtain rfl := flattens.devices
          rw [addDevices_nil]

/-- Bundles may be joined just where there is a bundle that they are joined into. -/
theorem exists_join : (∃ joined, join bundles = .ok joined) ↔ Joinable bundles := by
  constructor
  · rintro ⟨joined, isJoined⟩
    exact (join_eq_ok.mp isJoined).1
  · intro joinable
    obtain ⟨first, rest, rfl⟩ := List.exists_cons_of_ne_nil joinable.some
    refine ⟨_, join_cons_eq_ok.mpr ⟨checkJoin_eq_ok.mpr fun bundle member => ?_, rfl⟩⟩
    have isBundle := List.mem_cons_of_mem first member
    exact ⟨joinable.context bundle isBundle first List.mem_cons_self,
      joinable.state bundle isBundle first List.mem_cons_self⟩

/-! ## Joining in groups -/

section Groups

variable {groups : List (List KernelBundle)} {parts : List KernelBundle}

/-- Each group has been joined into a part. -/
abbrev JoinedInto (groups : List (List KernelBundle)) (parts : List KernelBundle) : Prop :=
  List.Forall₂ (fun group part => join group = .ok part) groups parts

theorem exists_joinedInto (joinable : ∀ group ∈ groups, Joinable group) :
    ∃ parts, JoinedInto groups parts := by
  induction groups with
  | nil => exact ⟨[], .nil⟩
  | cons group groups ih =>
      obtain ⟨isFirst, areRest⟩ := List.forall_mem_cons.mp joinable
      obtain ⟨part, isPart⟩ := exists_join.mpr isFirst
      obtain ⟨parts, areParts⟩ := ih areRest
      exact ⟨part :: parts, .cons isPart areParts⟩

/-- What all bundles of the groups share, the parts do. -/
theorem JoinedInto.forall_iff {β : Type} (joined : JoinedInto groups parts) {of : KernelBundle → β}
    (shared : ∀ {group part}, Flattens group part → ∀ bundle ∈ group, of part = of bundle) (b : β) :
    (∀ bundle ∈ groups.flatten, b = of bundle) ↔ ∀ part ∈ parts, b = of part := by
  induction joined with
  | nil => exact Iff.rfl
  | @cons group part groups parts isPart _ ih =>
      obtain ⟨joinable, flattens⟩ := join_eq_ok.mp isPart
      rw [List.flatten_cons, List.forall_mem_append, ih, List.forall_mem_cons]
      apply and_congr_left'
      constructor
      · intro all
        obtain ⟨bundle, member⟩ := List.exists_mem_of_ne_nil _ joinable.some
        exact (all bundle member).trans (shared flattens bundle member).symm
      · exact fun same bundle member => same.trans (shared flattens bundle member)

theorem JoinedInto.agree_iff {β : Type} (joined : JoinedInto groups parts) {of : KernelBundle → β}
    (shared : ∀ {group part}, Flattens group part → ∀ bundle ∈ group, of part = of bundle) :
    (∀ a ∈ groups.flatten, ∀ b ∈ groups.flatten, of a = of b) ↔
      ∀ a ∈ parts, ∀ b ∈ parts, of a = of b := by
  simp only [joined.forall_iff shared]
  constructor
  · intro agree a isA b isB
    refine ((joined.forall_iff shared (of b)).mp (fun bundle member => ?_) a isA).symm
    exact (agree bundle member b isB).symm
  · intro agree a isA b isB
    refine ((joined.forall_iff shared (of b)).mpr (fun part member => ?_) a isA).symm
    exact agree b isB part member

theorem JoinedInto.joinable_iff (joined : JoinedInto groups parts) :
    Joinable groups.flatten ↔ Joinable parts := by
  have some : groups.flatten ≠ [] ↔ parts ≠ [] := by
    cases joined with
    | nil => exact Iff.rfl
    | cons isPart _ =>
        have nonempty := (join_eq_ok.mp isPart).1.some
        rw [List.flatten_cons]
        exact ⟨fun _ => nofun, fun _ => List.append_ne_nil_of_left_ne_nil nonempty _⟩
  have context := joined.agree_iff fun flattens => flattens.context
  have state := joined.agree_iff fun flattens => flattens.state
  exact ⟨fun all => ⟨some.mp all.some, context.mp all.context, state.mp all.state⟩,
    fun all => ⟨some.mpr all.some, context.mpr all.context, state.mpr all.state⟩⟩

theorem JoinedInto.images (joined : JoinedInto groups parts) :
    groups.flatten.flatMap KernelBundle.images = parts.flatMap KernelBundle.images := by
  induction joined with
  | nil => rfl
  | cons isPart _ ih =>
      rw [List.flatten_cons, List.flatMap_append, ih, List.flatMap_cons,
        (join_eq_ok.mp isPart).2.images]

theorem JoinedInto.devices (joined : JoinedInto groups parts) :
    (groups.flatten.flatMap KernelBundle.devices).eraseDups =
      (parts.flatMap KernelBundle.devices).eraseDups := by
  have grouped : parts.flatMap KernelBundle.devices =
      groups.flatMap fun group => addDevices [] (group.flatMap KernelBundle.devices) := by
    induction joined with
    | nil => rfl
    | cons isPart _ ih =>
        rw [List.flatMap_cons, List.flatMap_cons, ih, (join_eq_ok.mp isPart).2.devices,
          addDevices_nil]
  have flattened : groups.flatten.flatMap KernelBundle.devices =
      groups.flatMap fun group => group.flatMap KernelBundle.devices := by
    rw [List.flatMap_def, List.map_flatten, List.flatten_flatten, List.map_map, List.flatMap_def]
    rfl
  rw [grouped, ← addDevices_nil, ← addDevices_nil, addDevices_flatMap, flattened]

theorem JoinedInto.flattens_iff (areParts : JoinedInto groups parts) :
    Flattens groups.flatten joined ↔ Flattens parts joined := by
  have context := areParts.forall_iff (fun flattens => flattens.context) joined.context
  have state := areParts.forall_iff (fun flattens => flattens.state) joined.state
  constructor
  · intro flattens
    exact ⟨context.mp flattens.context, state.mp flattens.state,
      flattens.images.trans areParts.images, flattens.devices.trans areParts.devices⟩
  · intro flattens
    exact ⟨context.mpr flattens.context, state.mpr flattens.state,
      flattens.images.trans areParts.images.symm, flattens.devices.trans areParts.devices.symm⟩

/-- In whichever groups bundles are joined first, they are joined into the same bundle, or not at all. -/
theorem join_flatten (nonempty : ∀ group ∈ groups, group ≠ []) :
    join groups.flatten = .ok joined ↔
      ∃ parts, JoinedInto groups parts ∧ join parts = .ok joined := by
  constructor
  · intro isJoined
    obtain ⟨joinable, flattens⟩ := join_eq_ok.mp isJoined
    have joinables : ∀ group ∈ groups, Joinable group := by
      intro group isGroup
      have fewer : ∀ bundle ∈ group, bundle ∈ groups.flatten :=
        fun bundle member => List.mem_flatten.mpr ⟨group, isGroup, member⟩
      exact ⟨nonempty group isGroup,
        fun a isA b isB => joinable.context a (fewer a isA) b (fewer b isB),
        fun a isA b isB => joinable.state a (fewer a isA) b (fewer b isB)⟩
    obtain ⟨parts, areParts⟩ := exists_joinedInto joinables
    exact ⟨parts, areParts,
      join_eq_ok.mpr ⟨areParts.joinable_iff.mp joinable, areParts.flattens_iff.mp flattens⟩⟩
  · rintro ⟨parts, areParts, isJoined⟩
    obtain ⟨joinable, flattens⟩ := join_eq_ok.mp isJoined
    exact join_eq_ok.mpr ⟨areParts.joinable_iff.mpr joinable, areParts.flattens_iff.mpr flattens⟩

end Groups

end KernelBundle

end ComputeImport
