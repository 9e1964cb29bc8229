import Repricing.Decimal.Binary
import Repricing.Decimal.Fixed
import Repricing.Decimal.Shortest

/-!
# Writing doubles

A double is written with its shortest digits, in plain or in scientific notation, or with a fixed
number of places.
-/

namespace Repricing.Decimal

/-- The decimal digits of a natural number. -/
def digitChars (n : Nat) : List Char :=
  Nat.toDigits 10 n

/-- Zeros. -/
def zeros (n : Nat) : List Char :=
  List.replicate n '0'

/-- A minus sign for negative numbers. -/
def signChars (negative : Bool) : List Char :=
  if negative then ['-'] else []

/-- `digits * 10 ^ -places` with all its places; without any there is no point either. -/
def withPlaces (digits places : Nat) : List Char :=
  if places = 0 then digitChars digits
  else
    let ds := digitChars digits
    let padded := zeros (places + 1 - ds.length) ++ ds
    padded.take (padded.length - places) ++ '.' :: padded.drop (padded.length - places)

/-- Plain notation. A whole number gets the places `.0` if `point` is set. -/
def Scaled.plain (point : Bool) (d : Scaled) : List Char :=
  if 0 ≤ d.exponent then
    digitChars d.digits ++ zeros d.exponent.toNat ++ (if point then ['.', '0'] else [])
  else withPlaces d.digits (-d.exponent).toNat

/-- Scientific notation: one digit before the point, and an exponent that always has a sign. -/
def Scaled.scientific (d : Scaled) : List Char :=
  let ds := digitChars d.digits
  let power := d.exponent + (ds.length - 1 : Nat)
  let fraction := if ds.length ≤ 1 then [] else '.' :: ds.drop 1
  ds.take 1 ++ fraction ++ 'e' :: (if power < 0 then '-' else '+') :: digitChars power.natAbs

/-- How finite doubles are written with their shortest digits. -/
structure Style where
  /-- Which of two equally near shortest decimals is written. -/
  tie : Tie
  /-- Whether whole numbers in plain notation end in `.0`. -/
  point : Bool
  /-- Whether notation is plain when the first digit counts `10 ^ power`. -/
  isPlain : (power : Int) → Bool

/-- A shortest decimal in the notation that the style asks for. -/
def Style.layout (style : Style) (d : Scaled) : List Char :=
  if style.isPlain (d.exponent + ((digitChars d.digits).length - 1 : Nat)) then d.plain style.point
  else d.scientific

/-- A finite double with its shortest digits. -/
def Style.finite (style : Style) (negative : Bool) (mantissa : Nat) (exponent : Int) : List Char :=
  let digits : Scaled := if mantissa = 0 then ⟨0, 0⟩ else shortest style.tie mantissa exponent
  signChars negative ++ style.layout digits

/-- What the double is called if it is no number. -/
def exceptional : Exact → Option String
  | .nan => some "NaN"
  | .infinite false => some "inf"
  | .infinite true => some "-inf"
  | .finite .. => none

/-- A double within a message: plain notation throughout, and no point in a whole number. -/
def messageStyle : Style :=
  { tie := .greater, point := false, isPlain := fun _ => true }

/-- A double as messages show it. -/
def inMessage (x : Float) : String :=
  match exact x with
  | .finite negative mantissa exponent =>
    String.ofList (messageStyle.finite negative mantissa exponent)
  | other => (exceptional other).getD ""

/-- A double with a fixed number of places, as messages show it. The sign of a negative number
stays when it rounds to zero. -/
def inMessageFixed (places : Nat) (x : Float) : String :=
  match exact x with
  | .finite negative mantissa exponent =>
    String.ofList (signChars negative ++ withPlaces (fixedUnits places mantissa exponent) places)
  | other => (exceptional other).getD ""

end Repricing.Decimal
