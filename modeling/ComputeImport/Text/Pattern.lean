import ComputeImport.Text.Pattern.CharacterClass
import ComputeImport.Text.Pattern.Group

/-!
# Patterns

A pattern is a regular expression.  Here patterns are not matched against anything; it is only
decided which texts are patterns that can be used.  A pattern is read from left to right, with the
groups that are open kept on a stack.
-/

namespace ComputeImport.Text

/-- Why a pattern cannot be used. -/
inductive PatternError where
  /-- It is no pattern, is nested too deep, or asks for more than is known of characters. -/
  | unusable
  /-- It asks for the boundaries of words of all scripts. -/
  | unicodeWordBoundary
  deriving DecidableEq, Repr

/-- The error as a message. -/
def PatternError.message : PatternError → String
  | unusable => "error building NFA"
  | unicodeWordBoundary =>
      "unsupported regex feature for DFAs: cannot build DFAs for regexes with Unicode word " ++
        "boundaries; switch to ASCII word boundaries, or heuristically enable Unicode word " ++
        "boundaries or use a different regex engine"

namespace Pattern

/-- What stands around a group that is open. -/
structure Surroundings where
  flags : Flags
  /-- The branches before the one that the group stands in. -/
  branches : Row
  /-- The items before the group in its branch. -/
  items : Row
  deriving DecidableEq, Repr

/-- How far a pattern has been read. -/
structure Reader where
  flags : Flags := {}
  /-- The branches before the one being read. -/
  branches : Row := {}
  /-- The items of the branch being read. -/
  items : Row := {}
  /-- The levels of the item that a repetition mark would repeat, if there is one. -/
  last : Option Nat := none
  /-- What stands around the groups that are open, the innermost group first. -/
  around : List Surroundings := []
  /-- The names of groups so far. -/
  names : List (List Char) := []
  /-- Whether the boundaries of words of all scripts were asked for. -/
  asksForWords : Bool := false
  deriving DecidableEq, Repr

namespace Reader

/-- One more item with a number of levels. -/
def add (reader : Reader) (levels : Nat) : Reader :=
  { reader with items := reader.items.add levels, last := some levels }

/-- One more atom, if it can be used. -/
def addAtom (reader : Reader) (atom : Atom) : Option Reader :=
  if atom.isUsable reader.flags then
    let asks := atom == .wordBoundary && reader.flags.unicode
    some { reader.add 0 with asksForWords := reader.asksForWords || asks }
  else none

/-- Repeat the last item. -/
def repeatLast (reader : Reader) : Option Reader :=
  reader.last.map fun levels =>
    { reader with
        items := { reader.items with levels := max reader.items.levels (levels + 1) }
        last := some (levels + 1) }

/-- End a branch. -/
def endBranch (reader : Reader) : Reader :=
  { reader with branches := reader.branches.add reader.items.nesting, items := {}, last := none }

/-- The levels of the group being read, as far as it has been read. -/
def levels (reader : Reader) : Nat :=
  (reader.branches.add reader.items.nesting).nesting

/-- Enter a group in which flags hold. -/
def enter (reader : Reader) (flags : Flags) : Reader :=
  { reader with
      flags, branches := {}, items := {}, last := none
      around := ⟨reader.flags, reader.branches, reader.items⟩ :: reader.around }

/-- Leave the innermost group. -/
def leave (reader : Reader) : Option Reader :=
  match reader.around with
  | [] => none
  | ⟨flags, branches, items⟩ :: around =>
      some ({ reader with flags, branches, items, around }.add (reader.levels + 1))

/-- Begin what an opening parenthesis begins.  No two groups have one name.  Flags for the rest of a
group are an item that cannot be repeated. -/
def start (reader : Reader) : Opening → Option Reader
  | .group flags none => some (reader.enter flags)
  | .group flags (some name) =>
      if reader.names.contains name then none
      else some { reader.enter flags with names := name :: reader.names }
  | .rest flags => some { reader.add 0 with flags, last := none }

/-- Read what an opening parenthesis begins. -/
def readGroup (reader : Reader) (text : List Char) : Option (Reader × List Char) :=
  match readOpening reader.flags text with
  | some (opening, rest) => (reader.start opening).map fun reader => (reader, rest)
  | none => none

/-- Read an escape by itself, after its backslash. -/
def readEscaped (reader : Reader) (text : List Char) : Option (Reader × List Char) :=
  match readEscape reader.flags text with
  | some (atom, rest) => (reader.addAtom atom).map fun reader => (reader, rest)
  | none => none

/-- Read a class as an item, after its opening bracket. -/
def readSet (reader : Reader) (text : List Char) : Option (Reader × List Char) :=
  match readClass reader.flags text with
  | some (levels, rest) => some (reader.add levels, rest)
  | none => none

/-- Read the item that begins with a character.  A repetition mark may have a question mark after
it.  Repetition by numbers cannot be read, since its closing brace ends the text in which a pattern
stands. -/
def readItem (reader : Reader) (c : Char) (rest : List Char) : Option (Reader × List Char) :=
  match c with
  | '(' => reader.readGroup rest
  | ')' => reader.leave.map fun reader => (reader, rest)
  | '|' => some (reader.endBranch, rest)
  | '[' => reader.readSet rest
  | '?' | '*' | '+' =>
      let rest := if rest.head? = some '?' then rest.tail else rest
      reader.repeatLast.map fun reader => (reader, rest)
  | '\x7b' => none
  | '\\' => reader.readEscaped rest
  | '.' => (reader.addAtom .any).map fun reader => (reader, rest)
  | '^' | '$' => (reader.addAtom .place).map fun reader => (reader, rest)
  | _ => (reader.addAtom (.literal c)).map fun reader => (reader, rest)

/-- Reading a group leaves no more than there was. -/
theorem length_readGroup_le {reader next : Reader} {text rest : List Char}
    (h : reader.readGroup text = some (next, rest)) : rest.length ≤ text.length := by
  grind [readGroup, Option.map_eq_some_iff, → length_readOpening_le]

/-- Reading an escape leaves no more than there was. -/
theorem length_readEscaped_le {reader next : Reader} {text rest : List Char}
    (h : reader.readEscaped text = some (next, rest)) : rest.length ≤ text.length := by
  grind [readEscaped, Option.map_eq_some_iff, → length_readEscape_lt]

/-- Reading a class leaves no more than there was. -/
theorem length_readSet_le {reader next : Reader} {text rest : List Char}
    (h : reader.readSet text = some (next, rest)) : rest.length ≤ text.length := by
  grind [readSet, → length_readClass_lt]

/-- Reading an item leaves no more than follows its first character. -/
theorem length_readItem_le {reader next : Reader} {c : Char} {rest left : List Char}
    (h : reader.readItem c rest = some (next, left)) : left.length ≤ rest.length := by
  unfold readItem at h
  split at h <;>
    grind [Option.map_eq_some_iff, → length_readGroup_le, → length_readEscaped_le,
      → length_readSet_le]

/-- Read items to the end of the text. -/
def readItems (reader : Reader) (text : List Char) : Option Reader :=
  match _h : reader.flags.skip text with
  | [] => some reader
  | c :: rest =>
      match _hitem : reader.readItem c rest with
      | some (next, left) => readItems next left
      | none => none
termination_by text.length
decreasing_by
  have hskip := reader.flags.length_skip_le text
  rw [_h, List.length_cons] at hskip
  have := length_readItem_le _hitem
  omega

end Reader

/-- The number of levels that a pattern may have. -/
def mostLevels : Nat := 250

/-- What is wrong with a text as a pattern. -/
def fault? (text : List Char) : Option PatternError :=
  match Reader.readItems {} text with
  | none => some .unusable
  | some reader =>
      if !reader.around.isEmpty || mostLevels < reader.levels then some .unusable
      else if reader.asksForWords then some .unicodeWordBoundary
      else none

end Pattern

end ComputeImport.Text
