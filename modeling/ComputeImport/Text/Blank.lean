/-!
# Blank characters and trimming

The characters with the Unicode property White_Space, and texts with such characters cut off at
both ends.  Settings read from the environment are trimmed this way, and a setting that is blank
counts as absent.
-/

namespace ComputeImport.Text

/-- The characters with the Unicode property White_Space. -/
def isBlank (c : Char) : Bool :=
  let code := c.toNat
  (9 ≤ code && code ≤ 13) || code == 0x20 || code == 0x85 || code == 0xA0 || code == 0x1680 ||
    (0x2000 ≤ code && code ≤ 0x200A) || code == 0x2028 || code == 0x2029 || code == 0x202F ||
    code == 0x205F || code == 0x3000

/-- A character list without the blanks at its two ends. -/
def trimChars (cs : List Char) : List Char :=
  ((cs.dropWhile isBlank).reverse.dropWhile isBlank).reverse

/-- A text without the blanks at its two ends. -/
def trim (s : String) : String :=
  String.ofList (trimChars s.toList)

/-- Whether a text consists of blanks only; the empty text does. -/
def isBlankText (s : String) : Bool :=
  s.toList.all isBlank

/-- The text in lower case, as far as its letters are ASCII. -/
def lowerAscii (s : String) : String :=
  String.ofList (s.toList.map Char.toLower)

end ComputeImport.Text
