-- Sets of code points, written as ascending ranges.

namespace TypedResources.Text

abbrev Ranges := List (Nat × Nat)

-- The ranges ascend, so the search stops at the first one that starts above `n`.
def Ranges.has : Ranges → Nat → Bool
  | [],            _ => false
  | (lo, hi) :: t, n => if n < lo then false else n ≤ hi || Ranges.has t n

end TypedResources.Text
