import Repricing.Decimal.Numeral
import Repricing.Text.Blank

/-!
# Prices in price lists

Suppliers group the digits of a price by blanks and may write a comma for the decimal point.
-/

namespace Repricing

/-- The price text without blanks, with a point for every comma. -/
def cleanPrice (cs : List Char) : List Char :=
  (cs.filter fun c => !Text.isBlank c).map fun c => if c = ',' then '.' else c

/-- Reads a price: a numeral whose value is finite and not negative. -/
def readPrice? (s : String) : Option Float :=
  ((Decimal.Numeral.read? (cleanPrice s.toList)).map Decimal.Numeral.toFloat).filter fun value =>
    value.isFinite && 0.0 ≤ value

end Repricing
