import ComputeImport.Text.Blank

/-!
# Environment variables

An environment gives names to byte strings.  A variable can be read when its bytes are the encoding
of a text; one that cannot be read counts as absent.
-/

namespace ComputeImport.Text

/-- Environment variables with their bytes. -/
structure Environment where
  entries : List (String × ByteArray) := []

namespace Environment

/-- The text of a variable, if it is set and its bytes encode a text. -/
def text? (environment : Environment) (key : String) : Option String :=
  match environment.entries.find? fun entry => entry.1 == key with
  | some (_, bytes) => String.fromUTF8? bytes
  | none => none

/-- The text of a variable, unless it is blank. -/
def nonBlank? (environment : Environment) (key : String) : Option String :=
  (environment.text? key).filter fun text => !isBlankText text

/-- The text of a variable without the blanks at its ends, unless it is blank. -/
def trimmed? (environment : Environment) (key : String) : Option String :=
  (environment.nonBlank? key).map trim

end Environment

end ComputeImport.Text
