/-!
# Membership in a table of code points

A character class is a table of closed intervals in ascending order. The search
stops at the first interval that starts above the code point, so a text in the
first few intervals never walks the table.
-/

namespace LintBench.Text

/-- Whether a code point lies in one of the ascending intervals. -/
def inRanges : List (Nat × Nat) → Nat → Bool
  | [], _ => false
  | (low, high) :: rest, n => !(n < low) && (n ≤ high || inRanges rest n)

end LintBench.Text
