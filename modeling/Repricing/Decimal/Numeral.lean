/-!
# Reading decimal numerals

A numeral is an optional sign, digits with at most one point among them, and an optional exponent.
Its value is the double nearest to the number it denotes.
-/

namespace Repricing.Decimal

/-- The number `digits * 10 ^ exponent` with a sign, as it was written. -/
structure Numeral where
  negative : Bool
  digits : Nat
  exponent : Int
deriving DecidableEq, Repr

/-- The value of a digit. -/
def digitValue (c : Char) : Nat :=
  c.toNat - '0'.toNat

/-- The number that a row of decimal digits denotes. -/
def digitsValue (ds : List Char) : Nat :=
  ds.foldl (fun value d => 10 * value + digitValue d) 0

/-- The numeral with these digits before and after the point and this exponent. -/
def Numeral.ofParts (negative : Bool) (whole fraction : List Char) (exponent : Int) : Numeral :=
  { negative
    digits := digitsValue (whole ++ fraction)
    exponent := exponent - fraction.length }

/-- The leading decimal digits, and what follows them. -/
def spanDigits (cs : List Char) : List Char × List Char :=
  cs.span Char.isDigit

/-- An optional sign, true for a minus, and what follows it. -/
def spanSign : List Char → Bool × List Char
  | '-' :: rest => (true, rest)
  | '+' :: rest => (false, rest)
  | cs => (false, cs)

/-- An optional point with the digits after it, and what follows them. -/
def spanFraction : List Char → List Char × List Char
  | '.' :: rest => spanDigits rest
  | cs => ([], cs)

/-- The exponent that makes up the rest of a numeral: none at all, or a letter E, an optional sign
and at least one digit. -/
def exponentOf? : List Char → Option Int
  | [] => some 0
  | e :: rest =>
    if e = 'e' ∨ e = 'E' then
      let (negative, rest) := spanSign rest
      let (ds, rest) := spanDigits rest
      if ds.isEmpty || !rest.isEmpty then none
      else some (if negative then -(digitsValue ds : Int) else digitsValue ds)
    else none

/-- Reads a text that is a numeral from end to end. -/
def Numeral.read? (cs : List Char) : Option Numeral :=
  let (negative, rest) := spanSign cs
  let (whole, rest) := spanDigits rest
  let (fraction, rest) := spanFraction rest
  if whole.isEmpty && fraction.isEmpty then none
  else (exponentOf? rest).map (Numeral.ofParts negative whole fraction)

/-- The double nearest to the number; beyond the greatest double it is infinite. A zero keeps its
sign. -/
def Numeral.toFloat (n : Numeral) : Float :=
  let magnitude := Float.ofScientific n.digits (n.exponent < 0) n.exponent.natAbs
  if n.negative then -magnitude else magnitude

end Repricing.Decimal
