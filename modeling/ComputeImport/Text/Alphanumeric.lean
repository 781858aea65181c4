import ComputeImport.Text.Alphabetic
import ComputeImport.Text.Numeric

/-!
# Letters and numbers

The characters that names are mostly made of.
-/

namespace ComputeImport.Text

/-- Whether a character is a letter, of whatever script. -/
def isLetter (c : Char) : Bool :=
  alphabetic.contains c

/-- Whether a character is a letter or a number, of whatever script. -/
def isLetterOrNumber (c : Char) : Bool :=
  alphabetic.contains c || numeric.contains c

/-- A letter is a letter or a number. -/
theorem isLetterOrNumber_of_isLetter {c : Char} (h : isLetter c = true) :
    isLetterOrNumber c = true := by
  simp only [isLetter] at h
  simp [isLetterOrNumber, h]

end ComputeImport.Text
