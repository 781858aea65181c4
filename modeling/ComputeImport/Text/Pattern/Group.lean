import ComputeImport.Text.Alphanumeric
import ComputeImport.Text.Pattern.Flags

/-!
# The beginnings of groups

What follows an opening parenthesis: the name of a group, flags for a group, flags for the rest of
the group around them, or nothing of its own.
-/

namespace ComputeImport.Text.Pattern

/-- What an opening parenthesis begins. -/
inductive Opening where
  /-- A group, perhaps with a name, in which flags hold. -/
  | group (flags : Flags) (name : Option (List Char))
  /-- Flags for the rest of the group around them. -/
  | rest (flags : Flags)
  deriving DecidableEq, Repr

/-- Whether a character may stand in the name of a group. -/
def isNameChar (first : Bool) (c : Char) : Bool :=
  if first then c == '_' || isLetter c
  else c == '_' || c == '.' || c == '[' || c == ']' || isLetterOrNumber c

/-- Read the name of a group and the angle bracket that closes it, after the characters in
`name`. -/
def readName (name : List Char) : List Char → Option (List Char × List Char)
  | [] => none
  | c :: rest =>
      if c = '>' then if name.isEmpty then none else some (name, rest)
      else if isNameChar name.isEmpty c then readName (name ++ [c]) rest
      else none

/-- Reading a name leaves no more than there was. -/
theorem length_readName_le {name found text rest : List Char}
    (h : readName name text = some (found, rest)) : rest.length ≤ text.length := by
  induction text generalizing name with
  | nil => simp [readName] at h
  | cons c text ih => grind [readName]

/-- Read flags up to the colon or the parenthesis that ends them, after the letters in `seen`.  No
letter may come twice, and a hyphen has to turn something off. -/
def readFlags (seen : List Char) : List Char → Option (List Char × List Char)
  | [] => none
  | c :: rest =>
      if c = ':' || c = ')' then
        if seen.getLast? = some '-' then none else some (seen, c :: rest)
      else if Flags.letters.contains c && !seen.contains c then readFlags (seen ++ [c]) rest
      else none

/-- Reading flags leaves no more than there was. -/
theorem length_readFlags_le {seen found text rest : List Char}
    (h : readFlags seen text = some (found, rest)) : rest.length ≤ text.length := by
  induction text generalizing seen with
  | nil => simp [readFlags] at h
  | cons c text ih => grind [readFlags]

/-- Read the beginning of a group that has a name. -/
def readNamed (flags : Flags) (text : List Char) : Option (Opening × List Char) :=
  (readName [] text).map fun (name, rest) => (.group flags (some name), rest)

/-- Read flags, and see what they are for. -/
def readFlagged (flags : Flags) (text : List Char) : Option (Opening × List Char) :=
  match readFlags [] text with
  | some (seen, ':' :: rest) => some (.group (flags.apply true seen) none, rest)
  | some (seen, ')' :: rest) =>
      if seen.isEmpty then none else some (.rest (flags.apply true seen), rest)
  | _ => none

/-- Read what follows an opening parenthesis. -/
def readOpening (flags : Flags) (text : List Char) : Option (Opening × List Char) :=
  match flags.skip text with
  | '?' :: 'P' :: '<' :: rest => readNamed flags rest
  | '?' :: '<' :: rest => readNamed flags rest
  | '?' :: rest => readFlagged flags rest
  | rest => some (.group flags none, rest)

/-- Reading the beginning of a group leaves no more than there was. -/
theorem length_readOpening_le {flags : Flags} {opening : Opening} {text rest : List Char}
    (h : readOpening flags text = some (opening, rest)) : rest.length ≤ text.length := by
  have := flags.length_skip_le text
  grind [readOpening, readNamed, readFlagged, Option.map_eq_some_iff, → length_readFlags_le,
    → length_readName_le]

end ComputeImport.Text.Pattern
