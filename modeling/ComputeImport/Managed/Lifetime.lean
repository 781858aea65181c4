import ComputeImport.Managed.Object

/-!
# What keeps an object alive

An object lives as long as something that is held leads to it.  When a value is let go, the objects
that nothing else leads to end, each at the last of the places where the value leads to it, an
object before the objects that it depends on.

`Managed.owners` lists the places in order, and `Managed.ending` the objects that end.
-/

namespace ComputeImport

/-- An object that has handles to release at its end. -/
inductive Owner where
  | context (context : Context)
  | queue (queue : Queue)
  | event (event : Event)
  | image (image : DeviceImage)
  | kernel (kernel : Kernel)
  deriving DecidableEq

namespace KernelBundle

/-- The places where a bundle leads to an owner: its context, then its images. -/
def owners (bundle : KernelBundle) : List Owner :=
  .context bundle.context :: bundle.images.map .image

/-- The devices that a bundle leads to. -/
def reachableDevices (bundle : KernelBundle) : List Device :=
  bundle.devices ++ bundle.images.flatMap DeviceImage.devices

end KernelBundle

namespace Managed

/-- The places where a value leads to an owner, an owner before what it depends on. -/
def owners : Managed → List Owner
  | .context held => [.context held]
  | .queue held => [.queue held, .context held.context]
  | .event held => [.event held, .context held.context]
  | .image held => [.image held]
  | .bundle held => held.owners
  | .kernel held => .kernel held :: .context held.context :: held.bundle.owners
  | .platform _ | .device _ | .provider _ => []

/-- The devices that a value leads to. -/
def devices : Managed → List Device
  | .device held => [held]
  | .queue held => [held.device]
  | .image held => held.devices
  | .bundle held => held.reachableDevices
  | .kernel held => held.bundle.reachableDevices
  | .platform _ | .context _ | .event _ | .provider _ => []

/-- The platforms that a value leads to. -/
def platforms : Managed → List Platform
  | .platform held => [held]
  | value => value.devices.map Device.platform

end Managed

/-- The last occurrence of every item of a list, in order. -/
def lastOccurrences {α : Type} [DecidableEq α] : List α → List α
  | [] => []
  | a :: rest => if a ∈ rest then lastOccurrences rest else a :: lastOccurrences rest

/-- Taking last occurrences loses nothing. -/
theorem mem_lastOccurrences {α : Type} [DecidableEq α] (a : α) (items : List α) :
    a ∈ lastOccurrences items ↔ a ∈ items := by
  induction items with
  | nil => simp [lastOccurrences]
  | cons b rest ih =>
      by_cases h : b ∈ rest
      · simp only [lastOccurrences, h, if_true, ih, List.mem_cons]
        constructor
        · exact Or.inr
        · rintro (rfl | h')
          · exact h
          · exact h'
      · simp [lastOccurrences, h, ih]

/-- Nothing occurs twice among last occurrences. -/
theorem nodup_lastOccurrences {α : Type} [DecidableEq α] (items : List α) :
    (lastOccurrences items).Nodup := by
  induction items with
  | nil => simp [lastOccurrences]
  | cons b rest ih =>
      by_cases h : b ∈ rest
      · simpa [lastOccurrences, h] using ih
      · simpa [lastOccurrences, h, mem_lastOccurrences] using ih

/-- The owners that end when `value` is let go and `held` stays, in the order of their ends. -/
def Managed.ending (value : Managed) (held : List Managed) : List Owner :=
  lastOccurrences (value.owners.filter fun owner => owner ∉ held.flatMap Managed.owners)

end ComputeImport
