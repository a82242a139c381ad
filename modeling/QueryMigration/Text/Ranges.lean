/-! Sets of characters given as ascending, disjoint ranges of code points. -/

namespace QueryMigration.Text

/-- Whether a code point lies in one of the ranges. The ranges ascend, so the search stops at the
first one that starts beyond the code point. -/
def inRanges : List (Nat × Nat) → Nat → Bool
  | [], _ => false
  | (lo, hi) :: rest, n => if n < lo then false else n ≤ hi || inRanges rest n

end QueryMigration.Text
