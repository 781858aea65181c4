import ComputeImport.Ledger
import ComputeImport.Managed.Object

/-!
# Weak caches

Platforms and devices are entered under their handles where they are made: a platform in a cache of the
provider that it is reached through, and a device in a cache of its platform.  An entry does not keep
its object alive.  When the object has gone the entry leads nowhere, until it is taken out before the
next object is entered.
-/

namespace ComputeImport

/-- Objects that have been made for owners, entered for their owners under their keys.  What is entered
is not kept alive. -/
structure WeakCaches {ι κ α : Type} (owner : α → ι) (key : α → κ) where
  /-- The objects of each owner, by their keys. -/
  caches : Ledger ι (Ledger κ α) := {}
  filed : ∀ cache ∈ caches.entries, ∀ entry ∈ cache.2.entries,
    owner entry.2 = cache.1 ∧ key entry.2 = entry.1 := by exact fun _ => nofun
  distinct : ∀ cache ∈ caches.entries, cache.2.keys.Nodup := by exact fun _ => nofun

namespace WeakCaches

variable {ι κ α : Type} [DecidableEq ι] [DecidableEq κ] [DecidableEq α] {owner : α → ι} {key : α → κ}

instance : DecidableEq (WeakCaches owner key) := fun first second =>
  decidable_of_iff (first.caches = second.caches) (by cases first; cases second; simp)

omit [DecidableEq κ] [DecidableEq α]

/-- The objects that have been entered for an owner. -/
def ownedBy (all : WeakCaches owner key) (of : ι) : Ledger κ α :=
  (all.caches.get? of).getD {}

theorem filed_ownedBy (all : WeakCaches owner key) (of : ι) :
    ∀ entry ∈ (all.ownedBy of).entries, owner entry.2 = of ∧ key entry.2 = entry.1 := by
  rw [ownedBy]
  cases found : all.caches.get? of with
  | none => exact fun _ => nofun
  | some cache => exact all.filed (of, cache) (Ledger.mem_of_find found)

theorem distinct_ownedBy (all : WeakCaches owner key) (of : ι) : (all.ownedBy of).keys.Nodup := by
  rw [ownedBy]
  cases found : all.caches.get? of with
  | none => exact List.nodup_nil
  | some cache => exact all.distinct (of, cache) (Ledger.mem_of_find found)

variable [DecidableEq κ]

/-- The object that has been entered for an owner under a key, alive or gone. -/
def get? (all : WeakCaches owner key) (of : ι) (handle : κ) : Option α :=
  (all.ownedBy of).get? handle

/-- What has been entered has the owner and the key that it has been entered for. -/
theorem own_of_get? {all : WeakCaches owner key} {of : ι} {handle : κ} {a : α}
    (found : all.get? of handle = some a) : owner a = of ∧ key a = handle :=
  all.filed_ownedBy of _ (Ledger.mem_of_find found)

variable [DecidableEq α]

/-- The object that has been entered for an owner under a key, if it is among the living. -/
def upgrade? (all : WeakCaches owner key) (living : List α) (of : ι) (handle : κ) : Option α :=
  (all.get? of handle).filter fun a => a ∈ living

/-- Enter an object for its owner under its key.  Other objects of the owner that are not among the
living are taken out before. -/
def insert (all : WeakCaches owner key) (living : List α) (a : α) : WeakCaches owner key where
  caches := all.caches.set (owner a)
    (((all.ownedBy (owner a)).retain fun other => other ∈ living).set (key a) a)
  filed := by
    intro cache isCache entry isEntry
    rcases Ledger.eq_or_mem_of_mem_put isCache with rfl | isCache
    · rcases Ledger.eq_or_mem_of_mem_put isEntry with rfl | isEntry
      · exact ⟨rfl, rfl⟩
      · exact all.filed_ownedBy (owner a) entry (List.mem_filter.mp isEntry).1
    · exact all.filed cache isCache entry isEntry
  distinct := by
    intro cache isCache
    rcases Ledger.eq_or_mem_of_mem_put isCache with rfl | isCache
    · exact Ledger.nodup_keys_set _ _ _ (Ledger.nodup_keys_retain (all.distinct_ownedBy _) _)
    · exact all.distinct cache isCache

/-- What is found is alive, and has the owner and the key that were asked for. -/
theorem upgrade?_eq_some {all : WeakCaches owner key} {living : List α} {of : ι} {handle : κ}
    {a : α} : all.upgrade? living of handle = some a ↔ all.get? of handle = some a ∧ a ∈ living := by
  rw [upgrade?, Option.filter_eq_some_iff, decide_eq_true_eq]

/-- After an object has been entered, it is found under its key.  Other objects of its owner are found
as long as they were alive then, and those of other owners as before. -/
theorem get?_insert (all : WeakCaches owner key) (living : List α) (a : α) (of : ι) (handle : κ) :
    (all.insert living a).get? of handle =
      if owner a = of then
        if key a = handle then some a else all.upgrade? living of handle
      else all.get? of handle := by
  rw [get?, ownedBy, insert]
  dsimp only
  rw [Ledger.get?_set]
  split
  · rename_i same
    subst same
    rw [Option.getD_some, Ledger.get?_set, Ledger.get?_retain (all.distinct_ownedBy _)]
    rfl
  · rfl

end WeakCaches

/-- The caches of platforms and devices. -/
structure Caches where
  /-- What providers have been found to have. -/
  platforms : WeakCaches Platform.provider Platform.handle := {}
  /-- What platforms have been found to have. -/
  devices : WeakCaches Device.platform Device.handle := {}
  deriving DecidableEq

end ComputeImport
