/-!
# How deep a pattern is nested

A group, a repetition, a bracketed class, an operator between classes, and two or more parts side
by side make a level each.
-/

namespace ComputeImport.Text.Pattern

/-- Parts that stand side by side: how many there are, and how many levels the deepest has. -/
structure Row where
  count : Nat := 0
  levels : Nat := 0
  deriving DecidableEq, Repr

namespace Row

/-- One more part. -/
def add (row : Row) (levels : Nat) : Row :=
  ⟨row.count + 1, max row.levels levels⟩

/-- The levels of the parts together: two or more make a level of their own. -/
def nesting (row : Row) : Nat :=
  if row.count ≤ 1 then row.levels else row.levels + 1

/-- A part by itself makes no level. -/
theorem nesting_single (levels : Nat) : (({} : Row).add levels).nesting = levels := by
  simp [add, nesting]

/-- A row is at least as deep as each of its parts. -/
theorem le_nesting_add (row : Row) (levels : Nat) : levels ≤ (row.add levels).nesting := by
  have h : levels ≤ max row.levels levels := Nat.le_max_right _ _
  unfold nesting add
  split
  · exact h
  · exact Nat.le_succ_of_le h

end Row

end ComputeImport.Text.Pattern
