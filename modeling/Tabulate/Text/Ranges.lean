/-!
# Sets of code points

A character class of many members is kept as ascending, disjoint ranges of code points.
-/

namespace Tabulate

/-- Whether `n` lies in one of the ranges, which ascend; ends belong to a range. -/
def inRanges : List (Nat × Nat) → Nat → Bool
  | [], _ => false
  | (low, high) :: rest, n => if n < low then false else decide (n ≤ high) || inRanges rest n

end Tabulate
