/-!
# Finite maps in order of insertion

A ledger pairs keys with values.  Looking a key up finds its first entry, setting a key replaces
the entry in place or appends a new one, and the order of the entries is the order in which their
keys were first set.  Object tables, caches and named objects are ledgers.
-/

namespace ComputeImport

universe u v

/-- A finite map whose entries stay in the order in which their keys were first set. -/
structure Ledger (κ : Type u) (α : Type v) where
  entries : List (κ × α) := []
  deriving DecidableEq

namespace Ledger

variable {κ : Type u} {α : Type v} [DecidableEq κ]

/-- The value of the first entry for `key` in a list of entries. -/
def find (key : κ) : List (κ × α) → Option α
  | [] => none
  | (k, a) :: rest => if k = key then some a else find key rest

/-- Replace the value of the first entry for `key`, or append an entry. -/
def put (key : κ) (value : α) : List (κ × α) → List (κ × α)
  | [] => [(key, value)]
  | (k, a) :: rest => if k = key then (key, value) :: rest else (k, a) :: put key value rest

/-- The value at `key`. -/
def get? (ledger : Ledger κ α) (key : κ) : Option α :=
  find key ledger.entries

/-- Whether `key` has a value. -/
def contains (ledger : Ledger κ α) (key : κ) : Bool :=
  (ledger.get? key).isSome

/-- Give `key` a value. -/
def set (ledger : Ledger κ α) (key : κ) (value : α) : Ledger κ α :=
  ⟨put key value ledger.entries⟩

/-- Take `key` and its value out. -/
def erase (ledger : Ledger κ α) (key : κ) : Ledger κ α :=
  ⟨ledger.entries.filter fun entry => entry.1 ≠ key⟩

/-- Keep the entries of certain values only. -/
def retain (ledger : Ledger κ α) (keeps : α → Bool) : Ledger κ α :=
  ⟨ledger.entries.filter fun entry => keeps entry.2⟩

/-- The keys, in order. -/
def keys (ledger : Ledger κ α) : List κ :=
  ledger.entries.map Prod.fst

/-- The values, in order of their keys. -/
def values (ledger : Ledger κ α) : List α :=
  ledger.entries.map Prod.snd

/-- The number of entries. -/
def size (ledger : Ledger κ α) : Nat :=
  ledger.entries.length

/-- Change every value. -/
def mapValues (ledger : Ledger κ α) (change : α → α) : Ledger κ α :=
  ⟨ledger.entries.map fun entry => (entry.1, change entry.2)⟩

@[simp]
theorem get?_empty (key : κ) : get? (⟨[]⟩ : Ledger κ α) key = none :=
  rfl

/-- After `put`, the value is found at its key, and elsewhere what was found before. -/
theorem find_put (key other : κ) (value : α) (entries : List (κ × α)) :
    find other (put key value entries) =
      if key = other then some value else find other entries := by
  induction entries with
  | nil => simp [put, find]
  | cons entry rest ih =>
      obtain ⟨k, a⟩ := entry
      by_cases h : k = key
      · subst h
        by_cases h' : k = other <;> simp [put, find, h']
      · by_cases h' : k = other
        · subst h'
          simp [put, find, h, Ne.symm h]
        · simp [put, find, h, h', ih]

/-- Setting a key is seen at that key and nowhere else. -/
@[simp]
theorem get?_set (ledger : Ledger κ α) (key other : κ) (value : α) :
    (ledger.set key value).get? other = if key = other then some value else ledger.get? other :=
  find_put key other value ledger.entries

/-- Without the entries of a key, nothing is found at it, and elsewhere what was found before. -/
theorem find_filter_ne (key other : κ) (entries : List (κ × α)) :
    find other (entries.filter fun entry => entry.1 ≠ key) =
      if key = other then none else find other entries := by
  induction entries with
  | nil => simp [find]
  | cons entry rest ih =>
      obtain ⟨k, a⟩ := entry
      by_cases h : k = key
      · subst h
        by_cases h' : k = other <;> simp_all [find]
      · by_cases h' : k = other
        · subst h'
          simp_all [find, Ne.symm h]
        · simp_all [find]

/-- Erasing a key is seen at that key and nowhere else. -/
@[simp]
theorem get?_erase (ledger : Ledger κ α) (key other : κ) :
    (ledger.erase key).get? other = if key = other then none else ledger.get? other :=
  find_filter_ne key other ledger.entries

/-- Looking a key up commutes with changing all values. -/
theorem find_map (change : α → α) (key : κ) (entries : List (κ × α)) :
    find key (entries.map fun entry => (entry.1, change entry.2)) =
      (find key entries).map change := by
  induction entries with
  | nil => rfl
  | cons entry rest ih =>
      obtain ⟨k, a⟩ := entry
      by_cases h : k = key <;> simp [find, h, ih]

/-- Changing every value changes what is found, and finds nothing new. -/
@[simp]
theorem get?_mapValues (ledger : Ledger κ α) (change : α → α) (key : κ) :
    (ledger.mapValues change).get? key = (ledger.get? key).map change :=
  find_map change key ledger.entries

/-! ## The keys of a ledger -/

omit [DecidableEq κ] in
@[simp]
theorem keys_mapValues (ledger : Ledger κ α) (change : α → α) :
    (ledger.mapValues change).keys = ledger.keys := by
  simp [keys, mapValues]

/-- A key has a value exactly if it is among the keys. -/
theorem isSome_find_iff (key : κ) (entries : List (κ × α)) :
    (find key entries).isSome = true ↔ key ∈ entries.map Prod.fst := by
  induction entries with
  | nil => simp [find]
  | cons entry rest ih =>
      obtain ⟨k, a⟩ := entry
      by_cases h : k = key
      · subst h
        simp [find]
      · simp [find, h, ih, Ne.symm h]

/-- The keys of a ledger are those that have a value. -/
theorem contains_iff_mem_keys (ledger : Ledger κ α) (key : κ) :
    ledger.contains key = true ↔ key ∈ ledger.keys :=
  isSome_find_iff key ledger.entries

theorem get?_eq_none_of_not_mem {ledger : Ledger κ α} {key : κ} (absent : key ∉ ledger.keys) :
    ledger.get? key = none := by
  rw [← contains_iff_mem_keys, contains, Bool.not_eq_true, Option.isSome_eq_false_iff,
    Option.isNone_iff_eq_none] at absent
  exact absent

/-- What is found under a key is entered under it. -/
theorem mem_of_find {key : κ} {value : α} {entries : List (κ × α)}
    (found : find key entries = some value) : (key, value) ∈ entries := by
  induction entries with
  | nil => contradiction
  | cons entry rest ih =>
      rw [find] at found
      split at found
      · rename_i same
        obtain rfl := Option.some.inj found
        exact same ▸ List.mem_cons_self
      · exact List.mem_cons_of_mem entry (ih found)

theorem mem_values_of_get? {ledger : Ledger κ α} {key : κ} {value : α}
    (found : ledger.get? key = some value) : value ∈ ledger.values :=
  List.mem_map_of_mem (mem_of_find found)

/-- After `put`, a new key comes last, and a known one keeps its place. -/
theorem map_fst_put (key : κ) (value : α) (entries : List (κ × α)) :
    (put key value entries).map Prod.fst =
      if key ∈ entries.map Prod.fst then entries.map Prod.fst
      else entries.map Prod.fst ++ [key] := by
  induction entries with
  | nil => simp [put]
  | cons entry rest ih =>
      obtain ⟨k, a⟩ := entry
      by_cases h : k = key
      · subst h
        simp [put]
      · by_cases member : key ∈ rest.map Prod.fst
        · rw [if_pos member] at ih
          have present : key ∈ ((k, a) :: rest).map Prod.fst := List.mem_cons_of_mem k member
          rw [if_pos present]
          simp [put, h, ih]
        · rw [if_neg member] at ih
          have absent : key ∉ ((k, a) :: rest).map Prod.fst := by
            intro found
            rcases List.mem_cons.mp found with equal | found
            · exact h equal.symm
            · exact member found
          rw [if_neg absent]
          simp [put, h, ih]

/-- Entries that are numbered in order are as many as their numbers. -/
theorem size_of_keys {ledger : Ledger Nat α} {size : Nat} (keys : ledger.keys = List.range size) :
    ledger.size = size := by
  rw [← @List.length_range size, ← keys]
  exact (List.length_map _).symm

/-- Setting a new key adds it at the end, and setting a known one leaves the keys as they are. -/
theorem keys_set (ledger : Ledger κ α) (key : κ) (value : α) :
    (ledger.set key value).keys =
      if key ∈ ledger.keys then ledger.keys else ledger.keys ++ [key] :=
  map_fst_put key value ledger.entries

/-- Erasing a key takes it out of the keys. -/
theorem keys_erase (ledger : Ledger κ α) (key : κ) :
    (ledger.erase key).keys = ledger.keys.filter fun other => other ≠ key := by
  simp only [keys, erase]
  induction ledger.entries with
  | nil => rfl
  | cons entry rest ih =>
      by_cases h : entry.1 = key <;> simpa [h] using ih

/-- Setting a key keeps the keys distinct. -/
theorem nodup_keys_set (ledger : Ledger κ α) (key : κ) (value : α) (distinct : ledger.keys.Nodup) :
    (ledger.set key value).keys.Nodup := by
  rw [keys_set]
  by_cases member : key ∈ ledger.keys
  · rw [if_pos member]
    exact distinct
  · rw [if_neg member, List.nodup_append]
    refine ⟨distinct, by simp, ?_⟩
    intro other found last isLast
    rw [List.mem_singleton] at isLast
    intro equal
    exact member (isLast ▸ equal ▸ found)

/-- Erasing a key keeps the keys distinct. -/
theorem nodup_keys_erase (ledger : Ledger κ α) (key : κ) (distinct : ledger.keys.Nodup) :
    (ledger.erase key).keys.Nodup := by
  rw [keys_erase]
  exact distinct.filter _

/-! ## Entries that are kept -/

theorem eq_or_mem_of_mem_put {key : κ} {value : α} {entry : κ × α} {entries : List (κ × α)}
    (member : entry ∈ put key value entries) : entry = (key, value) ∨ entry ∈ entries := by
  induction entries with
  | nil => exact Or.inl (List.mem_singleton.mp member)
  | cons first rest ih =>
      rw [put] at member
      split at member
      · exact (List.mem_cons.mp member).imp_right (List.mem_cons_of_mem first)
      · rcases List.mem_cons.mp member with rfl | member
        · exact Or.inr List.mem_cons_self
        · exact (ih member).imp_right (List.mem_cons_of_mem first)

theorem eq_or_mem_of_mem_set {ledger : Ledger κ α} {key : κ} {value other : α}
    (member : other ∈ (ledger.set key value).values) : other = value ∨ other ∈ ledger.values := by
  obtain ⟨entry, isEntry, rfl⟩ := List.mem_map.mp member
  rcases eq_or_mem_of_mem_put isEntry with rfl | isEntry
  · exact Or.inl rfl
  · exact Or.inr (List.mem_map_of_mem isEntry)

theorem mem_of_mem_erase {ledger : Ledger κ α} {key : κ} {other : α}
    (member : other ∈ (ledger.erase key).values) : other ∈ ledger.values := by
  obtain ⟨entry, isEntry, rfl⟩ := List.mem_map.mp member
  exact List.mem_map_of_mem (List.mem_filter.mp isEntry).1

/-- Among distinct keys, what is found among the entries that are kept is what has been found and is
kept. -/
theorem find_filter (keeps : α → Bool) (key : κ) {entries : List (κ × α)}
    (distinct : (entries.map Prod.fst).Nodup) :
    find key (entries.filter fun entry => keeps entry.2) = (find key entries).filter keeps := by
  induction entries with
  | nil => rfl
  | cons entry rest ih =>
      obtain ⟨k, a⟩ := entry
      obtain ⟨isNew, distinct⟩ := List.nodup_cons.mp distinct
      rw [List.filter_cons]
      by_cases same : k = key
      · subst same
        have unknown : find k (rest.filter fun entry => keeps entry.2) = none := by
          rw [ih distinct]
          cases found : find k rest with
          | none => rfl
          | some b => exact absurd (List.mem_map_of_mem (mem_of_find found)) isNew
        by_cases kept : keeps a = true <;> simp [find, kept, unknown, Option.filter]
      · by_cases kept : keeps a = true <;> simp [find, kept, same, ih distinct]

theorem get?_retain {ledger : Ledger κ α} (distinct : ledger.keys.Nodup) (keeps : α → Bool)
    (key : κ) : (ledger.retain keeps).get? key = (ledger.get? key).filter keeps :=
  find_filter keeps key distinct

omit [DecidableEq κ] in
/-- Keeping fewer entries keeps the keys distinct. -/
theorem nodup_keys_retain {ledger : Ledger κ α} (distinct : ledger.keys.Nodup) (keeps : α → Bool) :
    (ledger.retain keeps).keys.Nodup :=
  distinct.sublist (List.filter_sublist.map Prod.fst)

end Ledger

end ComputeImport
