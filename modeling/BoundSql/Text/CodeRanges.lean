/-!
# Closed ranges of code points

A property of characters is kept as a list of closed ranges of code points. A
code point has the property when one of the ranges holds it. A well-formed
list ascends with a gap between neighbours, so that a property has one list.
-/

namespace BoundSql.Text

/-- Whether some closed range of the list holds the code point. -/
def inRanges (ranges : List (Nat × Nat)) (n : Nat) : Bool :=
  ranges.any fun r => r.1 ≤ n && n ≤ r.2

/-- Ranges that ascend and leave at least one code point between neighbours. -/
def ascending : List (Nat × Nat) → Bool
  | [] => true
  | [r] => r.1 ≤ r.2
  | r :: s :: rest => r.1 ≤ r.2 && r.2 + 1 < s.1 && ascending (s :: rest)

/-- A code point has the property exactly when a range of the list holds it. -/
theorem inRanges_iff {ranges : List (Nat × Nat)} {n : Nat} :
    inRanges ranges n = true ↔ ∃ r ∈ ranges, r.1 ≤ n ∧ n ≤ r.2 := by
  simp [inRanges]

end BoundSql.Text
