import ComputeImport.Import.Host

/-!
# Bundles: joining them and listing their kernels

Bundles of one context and one state are joined into one that has all their images, and their
devices once each.  The kernels of an image are asked for when they are first needed, and only of
executable images, because other programs may still miss parts; the answer is kept.
-/

namespace ComputeImport

/-- The devices of `devices` and then those of `more`, each once. -/
def addDevices (devices : List Device) : List Device → List Device
  | [] => devices
  | device :: more =>
      addDevices (if device ∈ devices then devices else devices ++ [device]) more

/-- Adding devices loses none and brings no others. -/
theorem mem_addDevices (device : Device) (devices more : List Device) :
    device ∈ addDevices devices more ↔ device ∈ devices ∨ device ∈ more := by
  induction more generalizing devices with
  | nil => simp [addDevices]
  | cons next more ih =>
      rw [addDevices, ih]
      by_cases h : next ∈ devices
      · rw [if_pos h, List.mem_cons]
        constructor
        · rintro (found | found)
          · exact Or.inl found
          · exact Or.inr (Or.inr found)
        · rintro (found | equal | found)
          · exact Or.inl found
          · exact Or.inl (equal ▸ h)
          · exact Or.inr found
      · simp [h, or_assoc]

/-- Adding devices keeps them distinct. -/
theorem nodup_addDevices (devices more : List Device) (distinct : devices.Nodup) :
    (addDevices devices more).Nodup := by
  induction more generalizing devices with
  | nil => exact distinct
  | cons next more ih =>
      rw [addDevices]
      apply ih
      by_cases h : next ∈ devices
      · rw [if_pos h]
        exact distinct
      · rw [if_neg h, List.nodup_append]
        refine ⟨distinct, by simp, ?_⟩
        intro device found last isLast equal
        rw [List.mem_singleton] at isLast
        exact h (isLast ▸ equal ▸ found)

namespace KernelBundle

/-- Check that bundles have a given context and state. -/
def checkJoin (first : KernelBundle) : List KernelBundle → Except ImportError Unit
  | [] => .ok ()
  | bundle :: bundles =>
      if bundle.context ≠ first.context then
        .error (.incompatibleBundles "bundles belong to different contexts")
      else if bundle.state ≠ first.state then
        .error (.incompatibleBundles
          s!"cannot join {first.state.text} bundle with {bundle.state.text} bundle")
      else
        checkJoin first bundles

/-- One bundle with the images of all, in order, and their devices, each once. -/
def join : List KernelBundle → Except ImportError KernelBundle
  | [] => .error (.incompatibleBundles "no bundles to join")
  | first :: rest => do
      checkJoin first rest
      .ok
        { context := first.context
          devices := addDevices [] ((first :: rest).flatMap KernelBundle.devices)
          state := first.state
          images := (first :: rest).flatMap KernelBundle.images }

end KernelBundle

/-- Put a name in its place in an increasing list, unless it is there already. -/
def insertName (name : String) : List String → List String
  | [] => [name]
  | other :: names =>
      if name < other then name :: other :: names
      else if name = other then other :: names
      else other :: insertName name names

/-- The names of a list, each once, in increasing order of their code points. -/
def sortNames (names : List String) : List String :=
  names.foldr insertName []

/-- Putting a name in its place adds that name and no other. -/
theorem mem_insertName (name other : String) (names : List String) :
    other ∈ insertName name names ↔ other = name ∨ other ∈ names := by
  induction names with
  | nil => simp [insertName]
  | cons first names ih =>
      unfold insertName
      split
      · exact List.mem_cons
      · split
        · rename_i equal
          subst equal
          simp
        · rw [List.mem_cons, ih, List.mem_cons]
          constructor
          · rintro (h | h | h)
            · exact Or.inr (Or.inl h)
            · exact Or.inl h
            · exact Or.inr (Or.inr h)
          · rintro (h | h | h)
            · exact Or.inr (Or.inl h)
            · exact Or.inl h
            · exact Or.inr (Or.inr h)

/-- Sorting loses no name and brings no other. -/
theorem mem_sortNames (name : String) (names : List String) :
    name ∈ sortNames names ↔ name ∈ names := by
  induction names with
  | nil => exact Iff.rfl
  | cons first names ih =>
      rw [show sortNames (first :: names) = insertName first (sortNames names) from rfl,
        mem_insertName, ih, List.mem_cons]

/-- Putting a name in its place keeps a list increasing. -/
theorem pairwise_insertName (name : String) (names : List String)
    (increasing : names.Pairwise (· < ·)) : (insertName name names).Pairwise (· < ·) := by
  induction names with
  | nil => exact List.pairwise_singleton _ _
  | cons first names ih =>
      rcases List.pairwise_cons.mp increasing with ⟨below, rest⟩
      unfold insertName
      split
      · rename_i less
        refine List.pairwise_cons.mpr ⟨?_, increasing⟩
        intro other member
        rcases List.mem_cons.mp member with equal | member
        · exact equal ▸ less
        · exact String.lt_trans less (below other member)
      · rename_i notLess
        split
        · exact increasing
        · rename_i different
          refine List.pairwise_cons.mpr ⟨?_, ih rest⟩
          intro other member
          rcases (mem_insertName name other names).mp member with equal | member
          · subst equal
            exact Std.lt_of_le_of_ne (Std.not_lt.mp notLess) (Ne.symm different)
          · exact below other member

/-- Sorted names increase, so that none occurs twice. -/
theorem pairwise_sortNames (names : List String) : (sortNames names).Pairwise (· < ·) := by
  induction names with
  | nil => exact List.Pairwise.nil
  | cons first names ih => exact pairwise_insertName first (sortNames names) ih

/-- Names of kernels under inspection. -/
def kernelNamesShape (names : List String) : Text.Shape :=
  .sequence (names.map fun name => .tuple "KernelId" [.text name])

/-- The kernels of an image, in the backend's order. -/
def DeviceImage.kernelNames (image : DeviceImage) : ImportM (List String) := do
  match (← get).kernelLists.get? image.identity with
  | some names => pure names
  | none =>
      let names ← match image.state with
        | .executable =>
            native (image.program.provider.table.call
              (Simulator.programKernelNames image.program.handle))
        | .input | .object => pure []
      modify fun host =>
        { host with kernelLists := host.kernelLists.set image.identity names }
      pure names

/-- Whether an image has a kernel. -/
def DeviceImage.hasKernel (image : DeviceImage) (name : String) : ImportM Bool := do
  return (← image.kernelNames).contains name

/-- The kernels of several images, one list after the other. -/
def imageKernelNames : List DeviceImage → ImportM (List String)
  | [] => pure []
  | image :: images => do
      let names ← image.kernelNames
      let more ← imageKernelNames images
      pure (names ++ more)

/-- Whether one of several images has a kernel; the first that does is the last that is asked. -/
def imagesHaveKernel (name : String) : List DeviceImage → ImportM Bool
  | [] => pure false
  | image :: images => do
      if ← image.hasKernel name then pure true else imagesHaveKernel name images

/-- The kernels of a bundle, each once, in increasing order. -/
def KernelBundle.kernelNames (bundle : KernelBundle) : ImportM (List String) := do
  return sortNames (← imageKernelNames bundle.images)

/-- Whether a bundle has a kernel. -/
def KernelBundle.hasKernel (bundle : KernelBundle) (name : String) : ImportM Bool :=
  imagesHaveKernel name bundle.images

end ComputeImport
