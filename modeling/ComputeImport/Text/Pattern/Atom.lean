import ComputeImport.Text.Numeral
import ComputeImport.Text.Pattern.Flags

/-!
# The smallest parts of a pattern

An atom is a character, a set of characters that has a short name, or a place between characters.
Patterns are used without tables of characters, so that case and the named sets are known for ASCII
alone; and what could match a part of a character cannot be used either.
-/

namespace ComputeImport.Text.Pattern

/-- A part of a pattern that has no parts itself. -/
inductive Atom where
  | literal (c : Char)
  /-- A character that is given by two hexadecimal digits; without Unicode it is a byte. -/
  | byte (c : Char)
  /-- Every character but the line feed. -/
  | any
  /-- Digits, blanks or the characters of words, or all characters but those. -/
  | category (negated : Bool)
  /-- The beginning or the end of a line or of the text. -/
  | place
  /-- The boundary of a word. -/
  | wordBoundary
  deriving DecidableEq, Repr

namespace Atom

/-- The character that an atom stands for. -/
def char? : Atom → Option Char
  | literal c | byte c => some c
  | any | category _ | place | wordBoundary => none

/-- Whether an atom can be used by itself. -/
def isUsable (flags : Flags) : Atom → Bool
  | literal _ => !(flags.unicode && flags.ignoresCase)
  | byte c => if flags.unicode then !flags.ignoresCase else c.toNat < 0x80
  | any => flags.unicode
  | category negated => !flags.unicode && !negated
  | place | wordBoundary => true

/-- Whether an atom can be used as a member of a class. -/
def isUsableInClass (flags : Flags) : Atom → Bool
  | literal c | byte c => if flags.unicode then !flags.ignoresCase else c.toNat < 0x80
  | category negated => !flags.unicode && !negated
  | any | place | wordBoundary => false

/-- What can be used in a class can be used by itself. -/
theorem isUsable_of_isUsableInClass {flags : Flags} {atom : Atom}
    (h : atom.isUsableInClass flags = true) : atom.isUsable flags = true := by
  cases atom <;> simp_all [isUsable, isUsableInClass]
  cases hu : flags.unicode <;> simp_all

end Atom

/-- Read the hexadecimal digits of a character, `value` being the number read so far. -/
def readHex (flags : Flags) : Nat → Nat → List Char → Option (Nat × List Char)
  | 0, value, text => some (value, text)
  | digits + 1, value, text =>
      match flags.skip text with
      | [] => none
      | c :: rest =>
          match hexDigitValue? c with
          | some digit => readHex flags digits (16 * value + digit) rest
          | none => none

/-- Reading digits leaves no more than there was. -/
theorem length_readHex_le {flags : Flags} {digits value n : Nat} {text rest : List Char}
    (h : readHex flags digits value text = some (n, rest)) : rest.length ≤ text.length := by
  induction digits generalizing value text with
  | zero => grind [readHex]
  | succ digits ih => grind [readHex, Flags.length_skip_le]

/-- Read a character that is given by its number. -/
def readCharacter (flags : Flags) (digits : Nat) (text : List Char) :
    Option (Char × List Char) :=
  match readHex flags digits 0 text with
  | some (value, rest) => if value.isValidChar then some (Char.ofNat value, rest) else none
  | none => none

/-- Reading a character by its number leaves no more than there was. -/
theorem length_readCharacter_le {flags : Flags} {digits : Nat} {text rest : List Char} {c : Char}
    (h : readCharacter flags digits text = some (c, rest)) : rest.length ≤ text.length := by
  grind [readCharacter, → length_readHex_le]

/-- Read an escape, after its backslash.  A letter or a digit has a meaning or is refused, and so is
every character beyond ASCII; all else stands for itself. -/
def readEscape (flags : Flags) : List Char → Option (Atom × List Char)
  | [] => none
  | c :: rest =>
      match c with
      | 'x' => (readCharacter flags 2 rest).map fun (c, rest) => (.byte c, rest)
      | 'u' => (readCharacter flags 4 rest).map fun (c, rest) => (.literal c, rest)
      | 'U' => (readCharacter flags 8 rest).map fun (c, rest) => (.literal c, rest)
      | 'd' | 's' | 'w' => some (.category false, rest)
      | 'D' | 'S' | 'W' => some (.category true, rest)
      | 'A' | 'z' => some (.place, rest)
      | 'b' | 'B' | '<' | '>' => some (.wordBoundary, rest)
      | 'a' => some (.literal '\x07', rest)
      | 'f' => some (.literal '\x0c', rest)
      | 't' => some (.literal '\t', rest)
      | 'n' => some (.literal '\n', rest)
      | 'r' => some (.literal '\r', rest)
      | 'v' => some (.literal '\x0b', rest)
      | _ => if c.isAlphanum || 0x80 ≤ c.toNat then none else some (.literal c, rest)

/-- Reading an escape takes a character. -/
theorem length_readEscape_lt {flags : Flags} {text rest : List Char} {atom : Atom}
    (h : readEscape flags text = some (atom, rest)) : rest.length < text.length := by
  cases text with
  | nil => simp [readEscape] at h
  | cons c text =>
      simp only [readEscape] at h
      split at h <;> grind [Option.map_eq_some_iff, → length_readCharacter_le]

end ComputeImport.Text.Pattern
