/-!
# Character ranges

A set of characters given by the ranges of its code points.
-/

namespace Bindery.Text.Unicode

/-- The code points from `first` to `last`, both included. -/
structure Range where
  /-- The first code point. -/
  first : Nat
  /-- The last code point. -/
  last : Nat
  deriving DecidableEq, Repr, Inhabited

/-- Whether a code point lies in one of the ranges. -/
def inRanges (ranges : List Range) (n : Nat) : Bool :=
  ranges.any fun r => r.first ≤ n && n ≤ r.last

end Bindery.Text.Unicode
