/-!
# Sets of characters given by their boundaries

A property of characters that a standard tabulates is a set of code points.  It is written down as
the increasing list of the points where membership changes: the first member, the first
non-member after it, and so on.
-/

namespace ComputeImport.Text

/-- A set of code points, as the increasing list of the points where membership changes. -/
structure CodeSet where
  boundaries : List Nat

namespace CodeSet

/-- Walk along the boundaries, `inside` telling whether the code points just passed are members. -/
def side (inside : Bool) (code : Nat) : List Nat → Bool
  | [] => inside
  | boundary :: rest => if code < boundary then inside else side (!inside) code rest

/-- Whether a character belongs to the set. -/
def contains (set : CodeSet) (c : Char) : Bool :=
  side false c.toNat set.boundaries

end CodeSet

end ComputeImport.Text
