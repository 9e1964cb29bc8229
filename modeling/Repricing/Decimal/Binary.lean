/-!
# The exact value of a double

A finite double is a whole number of units of a power of two. Everything that is written about a
double is computed from this value in whole numbers.
-/

namespace Repricing.Decimal

/-- What a double stands for; `finite` is `mantissa * 2 ^ exponent` with a sign. -/
inductive Exact where
  | nan
  | infinite (negative : Bool)
  | finite (negative : Bool) (mantissa : Nat) (exponent : Int)
deriving DecidableEq, Repr

/-- The value of a double, read from its bits: a sign, eleven bits of exponent and fifty-two bits
of fraction, to which normal numbers add a leading one. -/
def exact (x : Float) : Exact :=
  let bits := x.toBits.toNat
  let negative := decide (Nat.pow 2 63 ≤ bits)
  let field : Nat := bits / Nat.pow 2 52 % Nat.pow 2 11
  let fraction : Nat := bits % Nat.pow 2 52
  if field = 2047 then
    if fraction = 0 then .infinite negative else .nan
  else if field = 0 then .finite negative fraction (-1074)
  else .finite negative (Nat.pow 2 52 + fraction) ((field : Int) - 1075)

end Repricing.Decimal
