import ComputeImport.Import.Bundle
import ComputeImport.Registry
import Mathlib.Data.List.Basic
import Mathlib.Logic.Equiv.Basic

/-!
# Managed objects that came through other tables

A managed object keeps the function table that it came through.  `via` puts other tables in the
place of those that a value leads to.  As long as different tables stay different this leaves every
comparison of managed objects as it is: what is found among them, how they are joined, and what ends
when one of them is let go.

The tables over some backends are exchanged for those that delegate to them, and the other way
round.
-/

namespace ComputeImport

namespace Ledger

variable {κ α : Type} {ledger : Ledger κ α} {change : α → α}

@[simp]
theorem values_mapValues : (ledger.mapValues change).values = ledger.values.map change := by
  simp [values, mapValues]

variable [DecidableEq κ]

theorem put_map (key : κ) (value : α) (entries : List (κ × α)) :
    put key (change value) (entries.map fun entry => (entry.1, change entry.2)) =
      (put key value entries).map fun entry => (entry.1, change entry.2) := by
  induction entries with
  | nil => rfl
  | cons entry rest ih =>
      by_cases isKey : entry.1 = key
      · simp [put, isKey]
      · simp [put, isKey, ih]

theorem mapValues_set (key : κ) (value : α) :
    (ledger.set key value).mapValues change = (ledger.mapValues change).set key (change value) :=
  congrArg Ledger.mk (put_map key value ledger.entries).symm

theorem mapValues_erase (key : κ) :
    (ledger.erase key).mapValues change = (ledger.mapValues change).erase key := by
  simp [mapValues, erase, List.filter_map, Function.comp_def]

theorem contains_mapValues (key : κ) :
    (ledger.mapValues change).contains key = ledger.contains key := by
  simp [contains]

end Ledger

/-- Last occurrences stay where they are when different items stay different. -/
theorem lastOccurrences_map {α β : Type} [DecidableEq α] [DecidableEq β] {change : α → β}
    (apart : Function.Injective change) (items : List α) :
    lastOccurrences (items.map change) = (lastOccurrences items).map change := by
  induction items with
  | nil => rfl
  | cons item items ih =>
      simp only [List.map_cons, lastOccurrences, List.mem_map_of_injective apart, ih]
      split <;> rfl

/-! ## Values through other tables -/

section Via

variable (change : Provider → Provider)

/-- The platform through another table. -/
def Platform.via (platform : Platform) : Platform :=
  { platform with provider := change platform.provider }

/-- The device with its platform through another table. -/
def Device.via (device : Device) : Device :=
  { device with platform := device.platform.via change }

/-- The context through another table. -/
def Context.via (context : Context) : Context :=
  { context with provider := change context.provider }

/-- The queue and what it keeps, through other tables. -/
def Queue.via (queue : Queue) : Queue :=
  { queue with
      context := queue.context.via change
      device := queue.device.via change
      provider := change queue.provider }

/-- The event and its context through other tables. -/
def Event.via (event : Event) : Event :=
  { event with context := event.context.via change, provider := change event.provider }

/-- The reference to a program through another table. -/
def ProgramRef.via (program : ProgramRef) : ProgramRef :=
  { program with provider := change program.provider }

/-- The image with its programs and devices through other tables. -/
def DeviceImage.via (image : DeviceImage) : DeviceImage :=
  { image with
      program := image.program.via change
      superseded := image.superseded.map (ProgramRef.via change)
      devices := image.devices.map (Device.via change) }

/-- The bundle with what it keeps through other tables. -/
def KernelBundle.via (bundle : KernelBundle) : KernelBundle :=
  { bundle with
      context := bundle.context.via change
      devices := bundle.devices.map (Device.via change)
      images := bundle.images.map (DeviceImage.via change) }

/-- The kernel and what it keeps, through other tables. -/
def Kernel.via (kernel : Kernel) : Kernel :=
  { kernel with
      context := kernel.context.via change
      provider := change kernel.provider
      bundle := kernel.bundle.via change }

/-- The managed object through other tables. -/
def Managed.via : Managed → Managed
  | .platform held => .platform (held.via change)
  | .device held => .device (held.via change)
  | .context held => .context (held.via change)
  | .queue held => .queue (held.via change)
  | .event held => .event (held.via change)
  | .image held => .image (held.via change)
  | .bundle held => .bundle (held.via change)
  | .kernel held => .kernel (held.via change)
  | .provider held => .provider (change held)

/-- The owner through other tables. -/
def Owner.via : Owner → Owner
  | .context held => .context (held.via change)
  | .queue held => .queue (held.via change)
  | .event held => .event (held.via change)
  | .image held => .image (held.via change)
  | .kernel held => .kernel (held.via change)

/-- The registry of other tables. -/
def Registry.via (registry : Registry) : Registry :=
  { registry with providers := registry.providers.mapValues change }

end Via

variable {change : Provider → Provider}

theorem Registry.backends_via (registry : Registry) :
    (registry.via change).backends = registry.backends :=
  congrArg (List.filter · Backend.linked) (funext fun _ => Ledger.contains_mapValues _)

/-! ## What a value leads to -/

theorem KernelBundle.reachableDevices_via (bundle : KernelBundle) :
    (bundle.via change).reachableDevices = bundle.reachableDevices.map (Device.via change) := by
  simp [reachableDevices, via, DeviceImage.via, List.flatMap_map, List.map_flatMap]

theorem KernelBundle.owners_via (bundle : KernelBundle) :
    (bundle.via change).owners = bundle.owners.map (Owner.via change) := by
  simp [owners, via, Owner.via, Function.comp_def]

namespace Managed

theorem owners_via (value : Managed) :
    (value.via change).owners = value.owners.map (Owner.via change) := by
  cases value with
  | bundle held => exact held.owners_via
  | kernel held =>
      exact congrArg (.kernel (held.via change) :: .context (held.context.via change) :: ·)
        held.bundle.owners_via
  | _ => rfl

theorem devices_via (value : Managed) :
    (value.via change).devices = value.devices.map (Device.via change) := by
  cases value with
  | bundle held => exact held.reachableDevices_via
  | kernel held => exact held.bundle.reachableDevices_via
  | _ => rfl

theorem platforms_via (value : Managed) :
    (value.via change).platforms = value.platforms.map (Platform.via change) := by
  have ofDevices : (value.via change).devices.map Device.platform =
      (value.devices.map Device.platform).map (Platform.via change) := by
    rw [devices_via, List.map_map, List.map_map]
    rfl
  cases value with
  | platform held => rfl
  | _ => exact ofDevices

end Managed

/-! ## Different tables that stay different -/

section Apart

variable (apart : Function.Injective change)
include apart

theorem Platform.via_injective : Function.Injective (Platform.via change) := by
  intro platform platform' equal
  cases platform
  cases platform'
  simpa [via, apart.eq_iff] using equal

theorem Device.via_injective : Function.Injective (Device.via change) := by
  intro device device' equal
  cases device
  cases device'
  simpa [via, (Platform.via_injective apart).eq_iff] using equal

theorem Context.via_injective : Function.Injective (Context.via change) := by
  intro context context' equal
  cases context
  cases context'
  simpa [via, apart.eq_iff] using equal

theorem Queue.via_injective : Function.Injective (Queue.via change) := by
  intro queue queue' equal
  cases queue
  cases queue'
  simpa [via, apart.eq_iff, (Context.via_injective apart).eq_iff,
    (Device.via_injective apart).eq_iff] using equal

theorem Event.via_injective : Function.Injective (Event.via change) := by
  intro event event' equal
  cases event
  cases event'
  simpa [via, apart.eq_iff, (Context.via_injective apart).eq_iff] using equal

theorem ProgramRef.via_injective : Function.Injective (ProgramRef.via change) := by
  intro program program' equal
  cases program
  cases program'
  simpa [via, apart.eq_iff] using equal

theorem DeviceImage.via_injective : Function.Injective (DeviceImage.via change) := by
  intro image image' equal
  cases image
  cases image'
  simpa [via, (ProgramRef.via_injective apart).eq_iff,
    (List.map_injective_iff.mpr (ProgramRef.via_injective apart)).eq_iff,
    (List.map_injective_iff.mpr (Device.via_injective apart)).eq_iff] using equal

theorem KernelBundle.via_injective : Function.Injective (KernelBundle.via change) := by
  intro bundle bundle' equal
  cases bundle
  cases bundle'
  simpa [via, (Context.via_injective apart).eq_iff,
    (List.map_injective_iff.mpr (Device.via_injective apart)).eq_iff,
    (List.map_injective_iff.mpr (DeviceImage.via_injective apart)).eq_iff] using equal

theorem Kernel.via_injective : Function.Injective (Kernel.via change) := by
  intro kernel kernel' equal
  cases kernel
  cases kernel'
  simpa [via, apart.eq_iff, (Context.via_injective apart).eq_iff,
    (KernelBundle.via_injective apart).eq_iff] using equal

theorem Owner.via_injective : Function.Injective (Owner.via change) := by
  intro owner owner' equal
  cases owner <;> cases owner' <;>
    simp_all [via, (Context.via_injective apart).eq_iff, (Queue.via_injective apart).eq_iff,
      (Event.via_injective apart).eq_iff, (DeviceImage.via_injective apart).eq_iff,
      (Kernel.via_injective apart).eq_iff]

/-- The same objects end, in the same order. -/
theorem Managed.ending_via (value : Managed) (held : List Managed) :
    (value.via change).ending (held.map (Managed.via change)) =
      (value.ending held).map (Owner.via change) := by
  have stays : (held.map (Managed.via change)).flatMap Managed.owners =
      (held.flatMap Managed.owners).map (Owner.via change) := by
    rw [List.flatMap_map, List.map_flatMap]
    exact congrArg (List.flatMap · held) (funext Managed.owners_via)
  unfold Managed.ending
  rw [owners_via, stays, List.filter_map, lastOccurrences_map (Owner.via_injective apart)]
  simp only [Function.comp_def, List.mem_map_of_injective (Owner.via_injective apart)]

/-! ### Joining bundles -/

theorem addDevices_via (devices more : List Device) :
    addDevices (devices.map (Device.via change)) (more.map (Device.via change)) =
      (addDevices devices more).map (Device.via change) := by
  induction more generalizing devices with
  | nil => rfl
  | cons device more ih =>
      simp only [List.map_cons, addDevices, List.mem_map_of_injective (Device.via_injective apart)]
      rw [← ih]
      split <;> simp

theorem KernelBundle.checkJoin_via (first : KernelBundle) (bundles : List KernelBundle) :
    (first.via change).checkJoin (bundles.map (KernelBundle.via change)) =
      first.checkJoin bundles := by
  induction bundles with
  | nil => rfl
  | cons bundle bundles ih =>
      have context : (bundle.via change).context = (first.via change).context ↔
          bundle.context = first.context := (Context.via_injective apart).eq_iff
      simp only [List.map_cons, checkJoin, ne_eq, context, ih]
      rfl

theorem KernelBundle.join_via (bundles : List KernelBundle) :
    KernelBundle.join (bundles.map (KernelBundle.via change)) =
      (KernelBundle.join bundles).map (KernelBundle.via change) := by
  cases bundles with
  | nil => rfl
  | cons first rest =>
      have devices := addDevices_via apart [] ((first :: rest).flatMap KernelBundle.devices)
      have images : ((first :: rest).map (KernelBundle.via change)).flatMap KernelBundle.images =
          ((first :: rest).flatMap KernelBundle.images).map (DeviceImage.via change) := by
        rw [List.flatMap_map, List.map_flatMap]
        rfl
      have listed : ((first :: rest).map (KernelBundle.via change)).flatMap KernelBundle.devices =
          ((first :: rest).flatMap KernelBundle.devices).map (Device.via change) := by
        rw [List.flatMap_map, List.map_flatMap]
        rfl
      rw [List.map_cons] at images listed
      simp only [List.map_cons, join, checkJoin_via apart, images, listed]
      cases first.checkJoin rest with
      | error e => rfl
      | ok _ =>
          refine congrArg Except.ok ?_
          simp only [via, ← devices]
          rfl

end Apart

/-! ## Exchanging tables -/

variable {hidden : List Nat}

/-- Over one of the backends in `hidden`, the table that delegates in exchange for one that does
not, and the other way round; nothing else is hidden by the table that delegates. -/
def Table.exchange (hidden : List Nat) (table : Table) : Table :=
  if table.simulator ∈ hidden then
    { table with delegation := Equiv.swap none (some {}) table.delegation }
  else
    table

/-- The provider with its table exchanged. -/
def Provider.exchange (hidden : List Nat) (provider : Provider) : Provider :=
  { provider with table := provider.table.exchange hidden }

namespace Table

@[simp]
theorem exchange_simulator (table : Table) :
    (table.exchange hidden).simulator = table.simulator := by
  unfold exchange
  split <;> rfl

theorem exchange_of_notMem {table : Table} (visible : table.simulator ∉ hidden) :
    table.exchange hidden = table :=
  if_neg visible

theorem exchange_of_mem {table : Table} (isHidden : table.simulator ∈ hidden) :
    table.exchange hidden =
      { table with delegation := Equiv.swap none (some {}) table.delegation } :=
  if_pos isHidden

theorem exchange_injective : Function.Injective (exchange hidden) := by
  intro table table' equal
  have simulator : table.simulator = table'.simulator := by
    have same := congrArg simulator equal
    rwa [exchange_simulator, exchange_simulator] at same
  by_cases isHidden : table.simulator ∈ hidden
  · rw [exchange_of_mem isHidden, exchange_of_mem (simulator ▸ isHidden)] at equal
    cases table
    cases table'
    simpa using equal
  · rwa [exchange_of_notMem isHidden, exchange_of_notMem (simulator ▸ isHidden)] at equal

/-- Tables in exchange report as many devices. -/
theorem exchange_reportedDevices (table : Table) :
    (table.exchange hidden).delegation.bind Delegation.reportedDevices =
      table.delegation.bind Delegation.reportedDevices := by
  unfold exchange
  split
  · dsimp only
    by_cases whole : table.delegation = none
    · rw [whole, Equiv.swap_apply_left]
      rfl
    · by_cases delegates : table.delegation = some {}
      · rw [delegates, Equiv.swap_apply_right]
        rfl
      · rw [Equiv.swap_apply_of_ne_of_ne whole delegates]
  · rfl

end Table

theorem Provider.exchange_injective : Function.Injective (Provider.exchange hidden) := by
  intro provider provider' equal
  cases provider
  cases provider'
  simpa [exchange, Table.exchange_injective.eq_iff] using equal

end ComputeImport
