import Repricing.Toml.Lexis

/-!
# TOML: numbers, dates and times

Dates and times are checked and kept as text: no setting is one.
-/

namespace Repricing.Toml

open Json (Parse)

/-- Digits with single underscores between them, as digits alone. The first one may be led by an
underscore. -/
def digitsFrom (isDigit : Char → Bool) : List Char → List Char × List Char
  | '_' :: d :: rest =>
    if isDigit d then
      let (ds, rest) := digitsFrom isDigit rest
      (d :: ds, rest)
    else ([], '_' :: d :: rest)
  | d :: rest =>
    if isDigit d then
      let (ds, rest) := digitsFrom isDigit rest
      (d :: ds, rest)
    else ([], d :: rest)
  | [] => ([], [])

/-- One or more digits with single underscores between them. -/
def digits (isDigit : Char → Bool) : Parse (List Char)
  | d :: rest =>
    if isDigit d then
      let (ds, rest) := digitsFrom isDigit rest
      some (d :: ds, rest)
    else none
  | [] => none

/-- The digits of a whole number: a zero stands alone. -/
def wholePart : Parse (List Char)
  | '0' :: rest => some (['0'], rest)
  | cs => digits Char.isDigit cs

/-- The digits after a point, if there is one. -/
def fractionPart : Parse (Option (List Char))
  | '.' :: rest => (digits Char.isDigit rest).map fun (ds, rest) => (some ds, rest)
  | cs => some (none, cs)

/-- The exponent, if there is one. -/
def exponentPart : Parse (Option Int)
  | e :: rest =>
    if e = 'e' ∨ e = 'E' then
      let (negative, rest) := Decimal.spanSign rest
      (digits Char.isDigit rest).map fun (ds, rest) =>
        let power : Int := Decimal.digitsValue ds
        (some (if negative then -power else power), rest)
    else some (none, e :: rest)
  | [] => some (none, [])

/-- A number with a fraction or an exponent. One that is too great for a double is refused. -/
def float (cs : List Char) : Option (Json × List Char) := do
  let (negative, rest) := Decimal.spanSign cs
  let (whole, rest) ← wholePart rest
  let (fraction, rest) ← fractionPart rest
  let (power, rest) ← exponentPart rest
  if fraction.isNone && power.isNone then none
  let numeral := Decimal.Numeral.ofParts negative whole (fraction.getD []) (power.getD 0)
  let value := numeral.toFloat
  if 0.0 < value && !value.isFinite then none else return (.float value, rest)

/-- Infinity or the double that is no number, with an optional sign. -/
def special (cs : List Char) : Option (Json × List Char) :=
  let infinity : Float := 1.0 / 0.0
  match Decimal.spanSign cs with
  | (negative, 'i' :: 'n' :: 'f' :: rest) =>
    some (.float (if negative then -infinity else infinity), rest)
  | (_, 'n' :: 'a' :: 'n' :: rest) => some (.float (0.0 / 0.0), rest)
  | _ => none

/-- A whole number of 64 bits with a sign. -/
def fitting (n : Int) : Option Json :=
  if Int64.minValue.toInt ≤ n ∧ n ≤ Int64.maxValue.toInt then some (.int n) else none

/-- The whole number that digits of another base denote. -/
def based (base : Nat) (cs : List Char) : Option (Json × List Char) := do
  let isDigit := fun c => (Json.hexValue? c).any fun d => d < base
  let (ds, rest) ← digits isDigit cs
  let n := ds.foldl (fun n c => base * n + (Json.hexValue? c).getD 0) 0
  return (← fitting n, rest)

/-- A whole number: decimal, or of base sixteen, eight or two. -/
def integer : List Char → Option (Json × List Char)
  | '0' :: 'x' :: rest => based 16 rest
  | '0' :: 'o' :: rest => based 8 rest
  | '0' :: 'b' :: rest => based 2 rest
  | cs => do
    let (negative, rest) := Decimal.spanSign cs
    let (ds, rest) ← wholePart rest
    let n : Int := Decimal.digitsValue ds
    return (← fitting (if negative then -n else n), rest)

/-- A number of exactly `count` digits between two bounds. -/
def bounded (count low high : Nat) (cs : List Char) : Option (Nat × List Char) :=
  let ds := cs.take count
  let n := Decimal.digitsValue ds
  if ds.length = count ∧ ds.all Char.isDigit ∧ low ≤ n ∧ n ≤ high then some (n, cs.drop count)
  else none

/-- Drops an expected character. -/
def expect (c : Char) : List Char → Option (List Char)
  | d :: rest => if d = c then some rest else none
  | [] => none

/-- The number of days in a month. -/
def daysInMonth (year month : Nat) : Nat :=
  let leap := year % 4 = 0 ∧ (year % 100 ≠ 0 ∨ year % 400 = 0)
  if month = 2 then (if leap then 29 else 28)
  else if month = 4 ∨ month = 6 ∨ month = 9 ∨ month = 11 then 30
  else 31

/-- Drops a date. -/
def date? (cs : List Char) : Option (List Char) := do
  let (year, rest) ← bounded 4 0 9999 cs
  let rest ← expect '-' rest
  let (month, rest) ← bounded 2 1 12 rest
  let rest ← expect '-' rest
  let (_, rest) ← bounded 2 1 (daysInMonth year month) rest
  return rest

/-- Drops a time of day. -/
def time? (cs : List Char) : Option (List Char) := do
  let (_, rest) ← bounded 2 0 23 cs
  let rest ← expect ':' rest
  let (_, rest) ← bounded 2 0 59 rest
  let rest ← expect ':' rest
  let (_, rest) ← bounded 2 0 60 rest
  match rest with
  | '.' :: d :: fraction =>
    if d.isDigit then return fraction.dropWhile Char.isDigit else return rest
  | _ => return rest

/-- Drops the distance from universal time. -/
def offset? : List Char → Option (List Char)
  | 'Z' :: rest | 'z' :: rest => some rest
  | c :: rest =>
    if c = '+' ∨ c = '-' then do
      let (_, rest) ← bounded 2 0 23 rest
      let rest ← expect ':' rest
      let (_, rest) ← bounded 2 0 59 rest
      return rest
    else none
  | [] => none

/-- Drops a time with the distance from universal time, if a letter T or a blank leads to one. -/
def timeAfterDate (cs : List Char) : List Char :=
  match cs with
  | c :: rest =>
    if c = 'T' ∨ c = 't' ∨ c = ' ' then
      match time? rest with
      | some rest => (offset? rest).getD rest
      | none => cs
    else cs
  | [] => cs

/-- A date or a time, as an object of its own kind: it fits no setting that is a text or a number. -/
def moment (cs : List Char) : Option (Json × List Char) :=
  let rest? := match date? cs with
    | some rest => some (timeAfterDate rest)
    | none => time? cs
  rest?.map fun rest =>
    (.obj [("date-time", .str (String.ofList (cs.take (cs.length - rest.length))))], rest)

/-- A number, a date or a time. -/
def number (cs : List Char) : Option (Json × List Char) :=
  moment cs <|> float cs <|> special cs <|> integer cs

end Repricing.Toml
