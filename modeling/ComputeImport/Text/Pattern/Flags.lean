import ComputeImport.Text.Blank

/-!
# Flags of a pattern

Flags change how the rest of a group is read.  Of the seven letters three decide whether a pattern
can be used; the others are read and have no further effect here.
-/

namespace ComputeImport.Text.Pattern

/-- The flags that decide whether a pattern can be used. -/
structure Flags where
  /-- Small and capital letters are the same: `i`. -/
  ignoresCase : Bool := false
  /-- The pattern speaks of characters and not of bytes: `u`. -/
  unicode : Bool := true
  /-- Blanks and comments are passed over: `x`. -/
  spaced : Bool := false
  deriving DecidableEq, Repr

/-- What follows blanks and comments.  A comment goes from a number sign to the end of its line;
`inComment` tells whether one has begun. -/
def skipSpace (inComment : Bool) : List Char → List Char
  | [] => []
  | c :: rest =>
      if inComment then skipSpace (c != '\n') rest
      else if isBlank c then skipSpace false rest
      else if c = '#' then skipSpace true rest
      else c :: rest

/-- Passing over blanks and comments makes no text longer. -/
theorem length_skipSpace_le (inComment : Bool) (text : List Char) :
    (skipSpace inComment text).length ≤ text.length := by
  induction text generalizing inComment with
  | nil => simp [skipSpace]
  | cons c rest ih =>
      have again (b : Bool) : (skipSpace b rest).length ≤ (c :: rest).length :=
        Nat.le_succ_of_le (ih b)
      simp only [skipSpace]
      split
      · exact again _
      · split
        · exact again _
        · split
          · exact again _
          · exact Nat.le_refl _

namespace Flags

/-- What is left to read, without the blanks and comments that the flags let a pattern have. -/
def skip (flags : Flags) (text : List Char) : List Char :=
  if flags.spaced then skipSpace false text else text

/-- Nothing is gained by passing over blanks and comments. -/
theorem length_skip_le (flags : Flags) (text : List Char) :
    (flags.skip text).length ≤ text.length := by
  unfold skip
  split
  · exact length_skipSpace_le false text
  · exact Nat.le_refl _

/-- The letters of flags, and the hyphen that turns the flags after it off. -/
def letters : List Char :=
  ['i', 'm', 's', 'U', 'u', 'R', 'x', '-']

/-- Turn flags on, from a hyphen on off. -/
def apply (flags : Flags) (on : Bool) : List Char → Flags
  | [] => flags
  | letter :: rest =>
      match letter with
      | '-' => flags.apply false rest
      | 'i' => { flags with ignoresCase := on }.apply on rest
      | 'u' => { flags with unicode := on }.apply on rest
      | 'x' => { flags with spaced := on }.apply on rest
      | _ => flags.apply on rest

end Flags

end ComputeImport.Text.Pattern
