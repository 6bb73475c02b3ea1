/-!
Sets of code points as lists of ranges.
-/

namespace BuildDispatch.Text

/-- Ranges of code points, ends included, in increasing order. -/
abbrev Ranges := List (Nat × Nat)

/-- Whether a code point lies in one of the ranges. -/
def Ranges.has : Ranges → Nat → Bool
  | [], _ => false
  | (lo, hi) :: r, n => lo ≤ n && (n ≤ hi || has r n)

end BuildDispatch.Text
