/-!
# Intervals of code points

Properties of characters are given by closed intervals of code points, in increasing order and with
a gap between any two.
-/

namespace Shortlist.Unicode

/-- Whether a code point lies in one of the intervals. -/
def within (intervals : List (Nat × Nat)) (n : Nat) : Bool :=
  intervals.any fun r => r.1 ≤ n && n ≤ r.2

end Shortlist.Unicode
