import Repricing.Text.Ranges

/-!
# White space

Blank characters are those with the Unicode property White_Space. A field counts as present when
something other than blanks is in it.
-/

namespace Repricing.Text

/-- Code points with the property White_Space. -/
def blankRanges : Ranges := [
  (0x0009, 0x000D), (0x0020, 0x0020), (0x0085, 0x0085), (0x00A0, 0x00A0), (0x1680, 0x1680),
  (0x2000, 0x200A), (0x2028, 0x2029), (0x202F, 0x202F), (0x205F, 0x205F), (0x3000, 0x3000)]

/-- Whether the character is white space. -/
def isBlank (c : Char) : Bool :=
  blankRanges.has c.toNat

/-- The characters without the blanks at either end. -/
def trimmed (cs : List Char) : List Char :=
  ((cs.dropWhile isBlank).reverse.dropWhile isBlank).reverse

/-- The text without the blanks at either end. -/
def trim (s : String) : String :=
  String.ofList (trimmed s.toList)

/-- The trimmed text of a field, if the field is there and is not blank. -/
def present (field : Option String) : Option String :=
  (field.map trim).filter (· ≠ "")

end Repricing.Text
