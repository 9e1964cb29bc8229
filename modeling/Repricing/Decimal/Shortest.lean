/-!
# The shortest decimal of a double

A double stands for all reals that round to it. Of the decimals among them those with the fewest
digits are wanted, and of these the one nearest to the double itself.
-/

namespace Repricing.Decimal

/-- The number `digits * 10 ^ exponent`. -/
structure Scaled where
  digits : Nat
  exponent : Int
deriving DecidableEq, Repr

/-- Which of two equally near decimals is taken: the one with an even last digit, or the greater. -/
inductive Tie where
  | even
  | greater
deriving DecidableEq, Repr

/-- A positive rational `value / unit` between the ends of an interval in the same unit. The ends
belong to the interval when `closed` is set. -/
structure Interval where
  lower : Nat
  value : Nat
  upper : Nat
  unit : Nat
  closed : Bool

/-- The reals that round to `mantissa * 2 ^ exponent`, in quarters of the last place. Below the
least mantissa of a binade the doubles lie twice as dense. -/
def Interval.ofBinary (mantissa : Nat) (exponent : Int) : Interval :=
  let quarter := Nat.pow 2 (exponent - 2).toNat
  let below := if mantissa = Nat.pow 2 52 ∧ -1074 < exponent then 1 else 2
  { lower := (4 * mantissa - below) * quarter
    value := 4 * mantissa * quarter
    upper := (4 * mantissa + 2) * quarter
    unit := Nat.pow 2 (2 - exponent).toNat
    closed := mantissa % 2 == 0 }

/-- The interval measured in units of `10 ^ grid`. -/
def Interval.scale (i : Interval) (grid : Int) : Interval :=
  let up := Nat.pow 10 (-grid).toNat
  { i with
    lower := i.lower * up
    value := i.value * up
    upper := i.upper * up
    unit := i.unit * Nat.pow 10 grid.toNat }

/-- Whether a whole number of units at or below the value lies in the interval. -/
def Interval.reachesDown (i : Interval) (n : Nat) : Bool :=
  i.lower < n * i.unit || (i.closed && i.lower == n * i.unit)

/-- Whether a whole number of units at or above the value lies in the interval. -/
def Interval.reachesUp (i : Interval) (n : Nat) : Bool :=
  n * i.unit < i.upper || (i.closed && n * i.unit == i.upper)

/-- The whole number of units that is nearest to the value among those in the interval. Only the
neighbours of the value come into question. -/
def Interval.nearest? (tie : Tie) (i : Interval) : Option Nat :=
  let floor := i.value / i.unit
  let excess := i.value % i.unit
  match i.reachesDown floor, i.reachesUp (floor + 1) with
  | true, true =>
    if 2 * excess < i.unit then some floor
    else if i.unit < 2 * excess then some (floor + 1)
    else if tie = .even ∧ floor % 2 = 0 then some floor
    else some (floor + 1)
  | true, false => some floor
  | false, true => some (floor + 1)
  | false, false => none

/-- A power of ten that is greater than `mantissa * 2 ^ exponent`: no coarser grid can hold a decimal
of the interval. The factor is a little more than the logarithm of two. -/
def topGrid (mantissa : Nat) (exponent : Int) : Int :=
  (mantissa.log2 + exponent + 1) * 30103 / 100000 + 1

/-- The value written out in full. -/
def expansion (mantissa : Nat) (exponent : Int) : Scaled :=
  if 0 ≤ exponent then ⟨mantissa * Nat.pow 2 exponent.toNat, 0⟩
  else ⟨mantissa * Nat.pow 5 (-exponent).toNat, exponent⟩

/-- The shortest decimal of `mantissa * 2 ^ exponent`, for a positive mantissa. Grids are tried from
the coarsest on; seventeen digits always suffice. -/
def shortest (tie : Tie) (mantissa : Nat) (exponent : Int) : Scaled :=
  let interval := Interval.ofBinary mantissa exponent
  let top := topGrid mantissa exponent
  let found := (List.range 20).findSome? fun (i : Nat) =>
    let grid := top - i
    ((interval.scale grid).nearest? tie).map fun n => (⟨n, grid⟩ : Scaled)
  found.getD (expansion mantissa exponent)

end Repricing.Decimal
