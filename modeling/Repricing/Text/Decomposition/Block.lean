/-!
# Blocks of decompositions

The compatibility decompositions of Unicode are kept by blocks of neighbouring characters.
-/

namespace Repricing.Text.Decomposition

/-- The full compatibility decompositions of the characters from `first` on, without gaps. -/
structure Block where
  first : Nat
  rows : List (List Nat)

/-- The decomposition of a code point, looked up in ascending blocks. The search ends at the first
block that starts beyond the code point. -/
def lookup : List Block → Nat → Option (List Nat)
  | [], _ => none
  | block :: rest, code =>
    if code < block.first then none
    else match block.rows[code - block.first]? with
      | some row => some row
      | none => lookup rest code

end Repricing.Text.Decomposition
