import Mathlib.Data.List.DropRight
import Mathlib.Data.List.TakeWhile
import ComputeImport.Text.Blank

/-!
# Trimming

Trimming takes off blanks that have been put around a text, whatever the text, and there is nothing
left to take off afterwards.  The case of ASCII letters has nothing to do with it.
-/

namespace ComputeImport.Text

variable {before cs after : List Char} {s t : String}

theorem trimChars_eq (cs : List Char) : trimChars cs = (cs.dropWhile isBlank).rdropWhile isBlank :=
  rfl

/-- Blanks around a text make no difference. -/
theorem trimChars_pad (first : before.all isBlank = true) (last : after.all isBlank = true) :
    trimChars (before ++ cs ++ after) = trimChars cs := by
  have front : (before ++ cs ++ after).dropWhile isBlank = (cs ++ after).dropWhile isBlank := by
    rw [List.append_assoc]
    exact List.dropWhile_append_of_pos (List.all_eq_true.mp first)
  rw [trimChars_eq, trimChars_eq, front, List.dropWhile_append]
  split
  · rename_i empty
    rw [List.isEmpty_iff.mp empty, List.dropWhile_eq_nil_iff.mpr (List.all_eq_true.mp last)]
  · rw [List.rdropWhile, List.reverse_append, List.dropWhile_append_of_pos, List.rdropWhile]
    exact fun c member => List.all_eq_true.mp last c (List.mem_reverse.mp member)

theorem trimChars_eq_nil_iff : trimChars cs = [] ↔ cs.all isBlank = true := by
  rw [trimChars_eq, List.rdropWhile_eq_nil_iff, List.all_eq_true]
  constructor
  · intro blank
    rw [← List.dropWhile_eq_nil_iff]
    by_contra left
    have visible := List.head_dropWhile_not isBlank left
    rw [blank _ (List.head_mem left)] at visible
    contradiction
  · exact fun blank c member => blank c (List.dropWhile_subset isBlank member)

/-- Nothing is left to take off a trimmed text. -/
theorem trimChars_trimChars (cs : List Char) : trimChars (trimChars cs) = trimChars cs := by
  have front : (trimChars cs).dropWhile isBlank = trimChars cs := by
    obtain ⟨rest, joined⟩ := List.rdropWhile_prefix isBlank (l := cs.dropWhile isBlank)
    rw [← trimChars_eq] at joined
    cases shape : trimChars cs with
    | nil => rfl
    | cons c kept =>
        have visible := List.head?_dropWhile_not isBlank cs
        rw [← joined, shape] at visible
        have visible : isBlank c = false := visible
        rw [List.dropWhile_cons, if_neg (by rw [visible]; exact Bool.false_ne_true)]
  rw [trimChars_eq (trimChars cs), front, trimChars_eq, List.rdropWhile_idempotent]

/-- All that trimming takes off are blanks at the two ends. -/
theorem exists_append_trimChars (cs : List Char) :
    ∃ before after, before.all isBlank = true ∧ after.all isBlank = true ∧
      cs = before ++ trimChars cs ++ after := by
  refine ⟨cs.takeWhile isBlank, (cs.dropWhile isBlank).rtakeWhile isBlank, ?_, ?_, ?_⟩
  · exact List.all_takeWhile
  · exact List.all_eq_true.mpr fun c member => List.mem_rtakeWhile_imp member
  · rw [trimChars_eq, List.append_assoc, List.rdropWhile_append_rtakeWhile,
      List.takeWhile_append_dropWhile]

theorem isBlank_of_ascii {c : Char} (lower : 33 ≤ c.toNat) (upper : c.toNat ≤ 126) :
    isBlank c = false := by
  simp only [isBlank, Bool.or_eq_false_iff, Bool.and_eq_false_iff, decide_eq_false_iff_not,
    beq_eq_false_iff_ne]
  omega

theorem toNat_toLower (c : Char) :
    c.toLower.toNat = if 65 ≤ c.toNat ∧ c.toNat ≤ 90 then c.toNat + 32 else c.toNat := by
  by_cases isCapital : c.val ≥ 'A'.val ∧ c.val ≤ 'Z'.val
  · have bounds : 65 ≤ c.toNat ∧ c.toNat ≤ 90 := isCapital
    have small : c.toLower.toNat = (c.val + 32).toNat := congrArg Char.toNat (dif_pos isCapital)
    rw [small, if_pos bounds, UInt32.toNat_add]
    exact Nat.mod_eq_of_lt (Nat.lt_of_le_of_lt (Nat.add_le_add_right bounds.2 32) (by decide))
  · have bounds : ¬(65 ≤ c.toNat ∧ c.toNat ≤ 90) := isCapital
    have same : c.toLower = c := dif_neg isCapital
    rw [same, if_neg bounds]

/-- A capital letter is no blank, and neither is the small one. -/
theorem isBlank_toLower (c : Char) : isBlank c.toLower = isBlank c := by
  have small := toNat_toLower c
  split_ifs at small with isCapital
  · rw [isBlank_of_ascii (by omega) (by omega), isBlank_of_ascii (by omega) (by omega)]
  · rw [isBlank, isBlank, small]

theorem trimChars_map_toLower (cs : List Char) :
    trimChars (cs.map Char.toLower) = (trimChars cs).map Char.toLower := by
  have same : isBlank ∘ Char.toLower = isBlank := funext isBlank_toLower
  simp only [trimChars_eq, List.rdropWhile, List.dropWhile_map, ← List.map_reverse, same]

/-! ## Texts -/

theorem trim_pad {before text after : String} (first : isBlankText before = true)
    (last : isBlankText after = true) : trim (before ++ text ++ after) = trim text := by
  unfold trim
  rw [String.toList_append, String.toList_append, trimChars_pad first last]

theorem isBlankText_pad {before text after : String} (first : isBlankText before = true)
    (last : isBlankText after = true) :
    isBlankText (before ++ text ++ after) = isBlankText text := by
  have first : before.toList.all isBlank = true := first
  have last : after.toList.all isBlank = true := last
  simp [isBlankText, first, last]

/-- A text that is not blank and has no blanks at its ends. -/
def IsTrimmed (text : String) : Prop :=
  isBlankText text = false ∧ trim text = text

instance (text : String) : Decidable (IsTrimmed text) :=
  inferInstanceAs (Decidable (_ ∧ _))

theorem isTrimmed_ofList (some : trimChars cs ≠ []) : IsTrimmed (String.ofList (trimChars cs)) := by
  constructor
  · rw [isBlankText, String.toList_ofList, ← Bool.not_eq_true, ← trimChars_eq_nil_iff,
      trimChars_trimChars]
    exact some
  · rw [trim, String.toList_ofList, trimChars_trimChars]

theorem isTrimmed_trim {text : String} (visible : isBlankText text = false) :
    IsTrimmed (trim text) := by
  apply isTrimmed_ofList
  rw [Ne, trimChars_eq_nil_iff]
  exact fun blank => Bool.false_ne_true (visible.symm.trans blank)

/-! ## Case -/

theorem lowerAscii_trim (text : String) : lowerAscii (trim text) = trim (lowerAscii text) := by
  unfold lowerAscii trim
  rw [String.toList_ofList, String.toList_ofList, trimChars_map_toLower]

theorem isBlankText_lowerAscii (text : String) :
    isBlankText (lowerAscii text) = isBlankText text := by
  rw [isBlankText, lowerAscii, String.toList_ofList, List.all_map]
  exact congrArg (List.all text.toList) (funext isBlank_toLower)

end ComputeImport.Text
