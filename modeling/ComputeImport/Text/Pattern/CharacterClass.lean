import ComputeImport.Text.Pattern.Atom
import ComputeImport.Text.Pattern.OpenClass

/-!
# Reading bracketed classes

A class is read from its opening bracket to the closing one, with the classes around it kept on a
stack.  A caret in front negates it.

While case is ignored, and the pattern speaks of characters, a class can be used only if it has all
characters or none, as for others it is not known which characters differ in case alone.
-/

namespace ComputeImport.Text.Pattern

/-- Begin a class, after its bracket.  Where bytes are spoken of, a negated class could match a part
of a character. -/
def beginClass (flags : Flags) (text : List Char) : Option (OpenClass × List Char) :=
  match flags.skip text with
  | '^' :: rest => if flags.unicode then some ({ negated := true }, rest) else none
  | rest => some ({ negated := false }, rest)

/-- Beginning a class leaves no more than there was. -/
theorem length_beginClass_le {flags : Flags} {text rest : List Char} {cls : OpenClass}
    (h : beginClass flags text = some (cls, rest)) : rest.length ≤ text.length := by
  have := flags.length_skip_le text
  grind [beginClass]

/-- The names of the sets that a class may list between colons. -/
def setNames : List String :=
  ["alnum", "alpha", "ascii", "blank", "cntrl", "digit", "graph", "lower", "print", "punct",
    "space", "upper", "word", "xdigit"]

/-- Whether a named set can be used. -/
def isUsableSet (flags : Flags) (negated : Bool) : Bool :=
  if flags.unicode then !flags.ignoresCase else !negated

/-- A named set and its closing colon and bracket, with what follows. -/
def setName? (text : List Char) : Option (List Char) :=
  match text.dropWhile (· != ':') with
  | ':' :: ']' :: rest =>
      if setNames.contains (String.ofList (text.takeWhile (· != ':'))) then some rest else none
  | _ => none

/-- Reading the name of a set leaves no more than there was. -/
theorem length_setName?_le {text rest : List Char} (h : setName? text = some rest) :
    rest.length ≤ text.length := by
  have := (List.dropWhile_sublist (· != ':') (l := text)).length_le
  grind [setName?]

/-- A named set after its opening bracket: whether it is negated, and what follows. -/
def namedSet? (text : List Char) : Option (Bool × List Char) :=
  match text with
  | ':' :: '^' :: rest => (setName? rest).map fun rest => (true, rest)
  | ':' :: rest => (setName? rest).map fun rest => (false, rest)
  | _ => none

/-- Reading a named set leaves no more than there was. -/
theorem length_namedSet?_le {text rest : List Char} {negated : Bool}
    (h : namedSet? text = some (negated, rest)) : rest.length ≤ text.length := by
  unfold namedSet? at h
  split at h <;> grind [Option.map_eq_some_iff, → length_setName?_le]

/-- The character after a hyphen that decides whether the hyphen makes a range.  Blanks that may be
passed over do not count, nor does one number sign among them. -/
def afterHyphen? (flags : Flags) (text : List Char) : Option Char :=
  if flags.spaced then
    match text.dropWhile isBlank with
    | '#' :: rest => (rest.dropWhile isBlank).head?
    | rest => rest.head?
  else
    text.head?

/-- Read an atom of a class. -/
def readClassAtom (flags : Flags) : List Char → Option (Atom × List Char)
  | [] => none
  | c :: rest => if c = '\\' then readEscape flags rest else some (.literal c, rest)

/-- Reading an atom of a class takes a character. -/
theorem length_readClassAtom_lt {flags : Flags} {text rest : List Char} {atom : Atom}
    (h : readClassAtom flags text = some (atom, rest)) : rest.length < text.length := by
  cases text with
  | nil => simp [readClassAtom] at h
  | cons c text => grind [readClassAtom, → length_readEscape_lt]

/-- Whether a range can be used in a class, `all` telling whether the class has all characters
already; then the range of all characters changes nothing. -/
def isUsableRange (flags : Flags) (all : Bool) (first last : Atom) : Bool :=
  match first.char?, last.char? with
  | some low, some high =>
      low ≤ high &&
        ((first.isUsableInClass flags && last.isUsableInClass flags) ||
          (all && low.toNat == 0 && high.toNat == 0x10FFFF))
  | _, _ => false

/-- Read the end of a range, after its hyphen. -/
def readRangeEnd (flags : Flags) (all : Bool) (first : Atom) (text : List Char) :
    Option (List Char) :=
  match readClassAtom flags (flags.skip text) with
  | some (last, rest) => if isUsableRange flags all first last then some rest else none
  | none => none

/-- Reading the end of a range leaves no more than there was. -/
theorem length_readRangeEnd_le {flags : Flags} {all : Bool} {first : Atom}
    {text rest : List Char} (h : readRangeEnd flags all first text = some rest) :
    rest.length ≤ text.length := by
  have := flags.length_skip_le text
  grind [readRangeEnd, → length_readClassAtom_lt]

/-- Read an atom of a class, or a range of them.  A hyphen that stands before a bracket or another
hyphen makes no range. -/
def readRange (flags : Flags) (all : Bool) (text : List Char) : Option (List Char) :=
  match readClassAtom flags text with
  | some (atom, rest) =>
      let single := if atom.isUsableInClass flags then some rest else none
      match flags.skip rest with
      | '-' :: after =>
          match afterHyphen? flags after with
          | some ']' | some '-' => single
          | _ => readRangeEnd flags all atom after
      | _ => single
  | none => none

/-- Reading an atom or a range takes a character. -/
theorem length_readRange_lt {flags : Flags} {all : Bool} {text rest : List Char}
    (h : readRange flags all text = some rest) : rest.length < text.length := by
  grind [readRange, → length_readClassAtom_lt, → length_readRangeEnd_le, Flags.length_skip_le]

/-- The operator that a character begins. -/
def operator? (c : Char) (rest : List Char) : Option SetOperator :=
  if rest.head? = some c then SetOperator.ofChar? c else none

/-- Read the members of a class and its closing bracket, `outer` being the classes around it; the
result is the number of levels. -/
def readMembers (flags : Flags) (cls : OpenClass) (outer : List OpenClass) (text : List Char) :
    Option (Nat × List Char) :=
  match _h : flags.skip text with
  | [] => none
  | c :: rest =>
      if cls.leads c then
        if Atom.isUsableInClass flags (.literal c) then
          readMembers flags { cls.add 0 with fresh := c == '-' } outer rest
        else none
      else if c = '[' then
        match _hset : namedSet? rest with
        | some (negated, left) =>
            if isUsableSet flags negated then readMembers flags (cls.add 0) outer left else none
        | none =>
            match _hbegin : beginClass flags rest with
            | some (inner, left) => readMembers flags inner (cls :: outer) left
            | none => none
      else if c = ']' then
        match outer with
        | [] => some (cls.levels, rest)
        | parent :: outer => readMembers flags (parent.addClass cls) outer rest
      else
        match operator? c rest with
        | some operator => readMembers flags (cls.apply operator) outer rest.tail
        | none =>
            match _hrange : readRange flags cls.all (c :: rest) with
            | some left => readMembers flags (cls.add 0) outer left
            | none => none
termination_by text.length
decreasing_by
  all_goals
    have hskip := flags.length_skip_le text
    rw [_h, List.length_cons] at hskip
  · omega
  · have := length_namedSet?_le _hset
    omega
  · have := length_beginClass_le _hbegin
    omega
  · omega
  · have := List.length_tail (l := rest)
    omega
  · have := length_readRange_lt _hrange
    rw [List.length_cons] at this
    omega

/-- Reading the members of a class takes a character, the closing bracket at least. -/
theorem length_readMembers_lt {flags : Flags} {cls : OpenClass} {outer : List OpenClass}
    {text rest : List Char} {levels : Nat}
    (h : readMembers flags cls outer text = some (levels, rest)) : rest.length < text.length := by
  have hskip := flags.length_skip_le
  fun_induction readMembers flags cls outer text <;>
    grind [→ length_beginClass_le, → length_namedSet?_le, → length_readRange_lt]

/-- Read a class, after its opening bracket; the result is the number of levels. -/
def readClass (flags : Flags) (text : List Char) : Option (Nat × List Char) :=
  match beginClass flags text with
  | some (cls, rest) => readMembers flags cls [] rest
  | none => none

/-- Reading a class takes a character. -/
theorem length_readClass_lt {flags : Flags} {text rest : List Char} {levels : Nat}
    (h : readClass flags text = some (levels, rest)) : rest.length < text.length := by
  grind [readClass, → length_beginClass_le, → length_readMembers_lt]

end ComputeImport.Text.Pattern
