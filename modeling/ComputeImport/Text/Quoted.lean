import ComputeImport.Text.Combining
import ComputeImport.Text.Numeral
import ComputeImport.Text.Unprintable

/-!
# Quoted texts

A text between quotation marks, in which every character that could be misread is replaced by an
escape: the quotation mark, the backslash and the usual control characters by a backslash and one
character, every other character without a visible form, or one that would combine with its
neighbour, by its number.
-/

namespace ComputeImport.Text

/-- The escape by number: a backslash, `u`, and the hexadecimal number between braces. -/
def numericEscape (c : Char) : List Char :=
  ['\\', 'u', '\x7b'] ++ Nat.toDigits 16 c.toNat ++ ['\x7d']

/-- How one character stands in a quoted text. -/
def escapeChar (c : Char) : List Char :=
  if c = '\x00' then ['\\', '0']
  else if c = '\t' then ['\\', 't']
  else if c = '\r' then ['\\', 'r']
  else if c = '\n' then ['\\', 'n']
  else if c = '"' then ['\\', '"']
  else if c = '\\' then ['\\', '\\']
  else if 0x20 ≤ c.toNat && c.toNat < 0x7F then [c]
  else if combining.contains c || unprintable.contains c then numericEscape c
  else [c]

/-- A text between quotation marks, with its characters escaped. -/
def quoted (s : String) : String :=
  String.ofList ('"' :: s.toList.flatMap escapeChar ++ ['"'])

end ComputeImport.Text
