/-!
# Edit distance

The edit distance of two lists is the least number of insertions, deletions and replacements that
turn one into the other.
-/

namespace Repricing

/-- The row of distances below the given one. Entry `j` of a row is the distance from a prefix of the
first list to the first `j` items of the second; `diagonal` and `left` are the entries above and to
the left of the ones that are still missing. -/
def nextDistances {α : Type} [DecidableEq α] (a : α) (diagonal left : Nat) :
    List α → List Nat → List Nat
  | b :: bs, above :: row =>
    let here := if a = b then diagonal else min diagonal (min above left) + 1
    here :: nextDistances a above here bs row
  | _, _ => []

/-- The distances after one more item of the first list. -/
def stepDistances {α : Type} [DecidableEq α] (bs : List α) (row : List Nat) (a : α) : List Nat :=
  match row with
  | [] => []
  | first :: rest => (first + 1) :: nextDistances a first (first + 1) bs rest

/-- The edit distance of two lists, worked out row by row. -/
def editDistance {α : Type} [DecidableEq α] (as bs : List α) : Nat :=
  (as.foldl (stepDistances bs) (List.range (bs.length + 1))).getLastD 0

end Repricing
