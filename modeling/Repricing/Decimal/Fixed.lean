/-!
# Decimals with a fixed number of places

A number of the form `mantissa * 2 ^ exponent` is rounded to a whole number of units of the last
place. A value halfway between two of them goes to the even one.
-/

namespace Repricing.Decimal

/-- The whole number nearest to `n / d`; of two equally near ones the even one. -/
def roundHalfEven (n d : Nat) : Nat :=
  let floor := n / d
  let twice := 2 * (n % d)
  if twice < d then floor
  else if d < twice then floor + 1
  else if floor % 2 = 0 then floor
  else floor + 1

/-- The units of `10 ^ -places` nearest to `mantissa * 2 ^ exponent`. -/
def fixedUnits (places : Nat) (mantissa : Nat) (exponent : Int) : Nat :=
  roundHalfEven (mantissa * Nat.pow 10 places * Nat.pow 2 exponent.toNat)
    (Nat.pow 2 (-exponent).toNat)

end Repricing.Decimal
