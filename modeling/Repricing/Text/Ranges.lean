/-!
# Sets of code points

A property of characters is kept as the ascending ranges of the code points that have it.
-/

namespace Repricing.Text

/-- Disjoint ranges of code points in ascending order, both ends included. -/
abbrev Ranges := List (Nat × Nat)

/-- Whether a code point lies in one of the ranges. The search ends at the first range that starts
beyond the code point. -/
def Ranges.has : Ranges → Nat → Bool
  | [], _ => false
  | (first, last) :: rest, code =>
    if code < first then false else code ≤ last || Ranges.has rest code

end Repricing.Text
