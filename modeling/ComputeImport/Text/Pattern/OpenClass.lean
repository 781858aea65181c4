import ComputeImport.Text.Pattern.Nesting

/-!
# Bracketed classes that are being read

A class lists characters, ranges, named sets and other classes between brackets, and doubled signs
stand for the intersection, the difference and the symmetric difference of what is on their two
sides.  Of what has come, the levels are kept, and whether it has all characters.
-/

namespace ComputeImport.Text.Pattern

/-- An operator between classes. -/
inductive SetOperator where
  | intersection
  | difference
  | symmetricDifference
  deriving DecidableEq, Repr

namespace SetOperator

/-- The operator that a character stands for, if it comes twice. -/
def ofChar? : Char → Option SetOperator
  | '&' => some intersection
  | '-' => some difference
  | '~' => some symmetricDifference
  | _ => none

/-- Whether a character belongs to the result, by whether it belongs to the two sides. -/
def member : SetOperator → Bool → Bool → Bool
  | intersection, left, right => left && right
  | difference, left, right => left && !right
  | symmetricDifference, left, right => left != right

end SetOperator

/-- What stands before an operator of a class. -/
structure LeftSide where
  levels : Nat
  /-- Whether it has all characters. -/
  all : Bool
  operator : SetOperator
  deriving DecidableEq, Repr

/-- A class of which the closing bracket is still to come.  Whether it has all characters is kept
for classes that have all or none. -/
structure OpenClass where
  negated : Bool
  /-- Whether only hyphens have come yet, which stand for themselves there. -/
  fresh : Bool := true
  /-- What came before the last operator. -/
  left : Option LeftSide := none
  /-- What has come after the last operator. -/
  members : Row := {}
  /-- Whether what has come after the last operator has all characters. -/
  all : Bool := false
  deriving DecidableEq, Repr

namespace OpenClass

/-- One more member with a number of levels. -/
def add (cls : OpenClass) (levels : Nat) : OpenClass :=
  { cls with fresh := false, members := cls.members.add levels }

/-- The levels of what has come. -/
def contentsLevels (cls : OpenClass) : Nat :=
  match cls.left with
  | none => cls.members.nesting
  | some left => max left.levels cls.members.nesting + 1

/-- Whether what has come has all characters. -/
def contentsAll (cls : OpenClass) : Bool :=
  match cls.left with
  | none => cls.all
  | some left => left.operator.member left.all cls.all

/-- The levels of the class itself. -/
def levels (cls : OpenClass) : Nat :=
  cls.contentsLevels + 1

/-- Whether the class itself has all characters. -/
def hasAll (cls : OpenClass) : Bool :=
  cls.contentsAll != cls.negated

/-- One more class as a member. -/
def addClass (cls inner : OpenClass) : OpenClass :=
  { cls.add inner.levels with all := cls.all || inner.hasAll }

/-- The class after an operator, of which all that has come is the left side. -/
def apply (cls : OpenClass) (operator : SetOperator) : OpenClass :=
  { cls with
      fresh := false, members := {}, all := false
      left := some ⟨cls.contentsLevels, cls.contentsAll, operator⟩ }

/-- Whether a character stands for itself only because nothing but hyphens came before it: another
hyphen, or a bracket that would close an empty class. -/
def leads (cls : OpenClass) (c : Char) : Bool :=
  cls.fresh && (c == '-' || (c == ']' && cls.members.count == 0))

end OpenClass

end ComputeImport.Text.Pattern
