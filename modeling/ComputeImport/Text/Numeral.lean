/-!
# Numerals

Hexadecimal numerals with small letters, as handles and escapes show them, the reading of an
unsigned decimal numeral below a bound, and the decimal notation of numbers that need not be whole.
-/

namespace ComputeImport.Text

/-- The hexadecimal numeral of `n`, with small letters and without a mark in front. -/
def hexadecimal (n : Nat) : String :=
  String.ofList (Nat.toDigits 16 n)

/-- The value of a decimal digit. -/
def digitValue? (c : Char) : Option Nat :=
  if c.isDigit then some (c.toNat - '0'.toNat) else none

/-- The value of a hexadecimal digit, in small or capital letters. -/
def hexDigitValue? (c : Char) : Option Nat :=
  if c.isDigit then some (c.toNat - '0'.toNat)
  else if 'a' ≤ c && c ≤ 'f' then some (c.toNat - 'a'.toNat + 10)
  else if 'A' ≤ c && c ≤ 'F' then some (c.toNat - 'A'.toNat + 10)
  else none

/-- The number that digits denote after `value` has been read, if all of them are digits. -/
def readDigits (value : Nat) : List Char → Option Nat
  | [] => some value
  | c :: rest =>
      match digitValue? c with
      | some digit => readDigits (10 * value + digit) rest
      | none => none

/-- Read an unsigned decimal numeral below `bound`: at least one digit, one plus sign allowed in
front, leading zeros allowed, nothing else. -/
def readUnsigned? (bound : Nat) (text : List Char) : Option Nat :=
  let digits := match text with
    | '+' :: rest => rest
    | cs => cs
  if digits.isEmpty then
    none
  else
    match readDigits 0 digits with
    | some n => if n < bound then some n else none
    | none => none

/-- A decimal numeral with the number of a 64-bit word. -/
def readWord? (text : String) : Option UInt64 :=
  (readUnsigned? UInt64.size text.toList).map UInt64.ofNat

/-! ## Numbers that need not be whole -/

/-- A text without the sign in front of it, if there is one. -/
def dropSign : List Char → List Char
  | '+' :: rest => rest
  | '-' :: rest => rest
  | cs => cs

/-- Whether a text is the exponent of a number, or nothing. -/
def isExponent : List Char → Bool
  | [] => true
  | c :: rest =>
      let digits := dropSign rest
      (c == 'e' || c == 'E') && !digits.isEmpty && digits.all Char.isDigit

/-- Whether a text is a number without a sign: digits with perhaps a point among them, before them
or after them, and perhaps an exponent. -/
def isUnsignedDecimal (text : List Char) : Bool :=
  let whole := text.takeWhile Char.isDigit
  match text.dropWhile Char.isDigit with
  | '.' :: rest =>
      !(whole.isEmpty && (rest.takeWhile Char.isDigit).isEmpty) &&
        isExponent (rest.dropWhile Char.isDigit)
  | rest => !whole.isEmpty && isExponent rest

/-- Whether a text is a number in decimal notation, perhaps with a sign; infinity and what is no
number count as numbers, and the case of their names does not matter. -/
def isDecimal (text : List Char) : Bool :=
  let unsigned := dropSign text
  ["inf", "infinity", "nan"].contains (String.ofList (unsigned.map Char.toLower)) ||
    isUnsignedDecimal unsigned

end ComputeImport.Text
