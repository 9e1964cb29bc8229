import Repricing.Text.Table.Alphabetic
import Repricing.Text.Table.Numeric
import Repricing.Text.Table.Mark

/-!
# Letters, numbers and marks

The three classes of characters that folding and tokens depend on.
-/

namespace Repricing.Text

/-- Whether the character is a combining mark of any kind. -/
def isMark (c : Char) : Bool :=
  markRanges.has c.toNat

/-- Whether the character is a number of any kind: a digit, a fraction, a Roman numeral. -/
def isNumeric (c : Char) : Bool :=
  numericRanges.has c.toNat

/-- Whether the character is a letter or a number. -/
def isAlphanumeric (c : Char) : Bool :=
  alphabeticRanges.has c.toNat || isNumeric c

/-- Whether the character is a control character (C0, delete or C1). -/
def isControl (c : Char) : Bool :=
  c.toNat < 0x20 || (0x7F ≤ c.toNat && c.toNat ≤ 0x9F)

end Repricing.Text
