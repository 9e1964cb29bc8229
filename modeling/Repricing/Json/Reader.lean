import Repricing.Decimal.Numeral
import Repricing.Json.Basic

/-!
# Reading JSON

A text is read as one JSON value with blanks around it. Whole numbers that fit no 64-bit integer are
read as doubles, and so is `-0`. Of several entries under one key the last one counts.
-/

namespace Repricing.Json

/-- What reading takes from the front of the characters, and the characters that are left. -/
abbrev Parse (α : Type) := List Char → Option (α × List Char)

/-- Drops the blanks that JSON allows between tokens. -/
def skipBlanks (cs : List Char) : List Char :=
  cs.dropWhile fun c => c == ' ' || c == '\t' || c == '\n' || c == '\r'

/-- The value of a hexadecimal digit. -/
def hexValue? (c : Char) : Option Nat :=
  if '0' ≤ c ∧ c ≤ '9' then some (c.toNat - '0'.toNat)
  else if 'a' ≤ c ∧ c ≤ 'f' then some (c.toNat - 'a'.toNat + 10)
  else if 'A' ≤ c ∧ c ≤ 'F' then some (c.toNat - 'A'.toNat + 10)
  else none

/-- Four hexadecimal digits. -/
def fourHex : Parse Nat
  | a :: b :: c :: d :: rest => do
    let a ← hexValue? a
    let b ← hexValue? b
    let c ← hexValue? c
    let d ← hexValue? d
    return (((a * 16 + b) * 16 + c) * 16 + d, rest)
  | _ => none

/-- The character of a `\u` escape, after its `u`. A high surrogate needs a low one after it. -/
def unicodeEscape (cs : List Char) : Option (Char × List Char) := do
  let (unit, rest) ← fourHex cs
  if 0xD800 ≤ unit ∧ unit ≤ 0xDBFF then
    match rest with
    | '\\' :: 'u' :: rest =>
      let (low, rest) ← fourHex rest
      if 0xDC00 ≤ low ∧ low ≤ 0xDFFF then
        return (Char.ofNat (0x10000 + (unit - 0xD800) * 0x400 + (low - 0xDC00)), rest)
      else none
    | _ => none
  else if 0xDC00 ≤ unit ∧ unit ≤ 0xDFFF then none
  else return (Char.ofNat unit, rest)

/-- The character that a backslash and a letter stand for. -/
def simpleEscape? : Char → Option Char
  | '"' => some '"'
  | '\\' => some '\\'
  | '/' => some '/'
  | 'b' => some '\x08'
  | 'f' => some '\x0C'
  | 'n' => some '\n'
  | 'r' => some '\r'
  | 't' => some '\t'
  | _ => none

/-- The rest of a string, after its opening quote. Every step uses up a character, so as much `fuel`
as there are characters is enough. -/
def stringRest : (fuel : Nat) → List Char → Parse (List Char)
  | 0, _, _ => none
  | _, _, [] => none
  | fuel + 1, read, c :: rest =>
    if c = '"' then some (read.reverse, rest)
    else if c = '\\' then
      match rest with
      | 'u' :: rest =>
        match unicodeEscape rest with
        | some (d, rest) => stringRest fuel (d :: read) rest
        | none => none
      | e :: rest =>
        match simpleEscape? e with
        | some d => stringRest fuel (d :: read) rest
        | none => none
      | [] => none
    else if c.toNat < 0x20 then none
    else stringRest fuel (c :: read) rest

/-- The rest of a string as text. -/
def string (cs : List Char) : Option (String × List Char) :=
  (stringRest (cs.length + 1) [] cs).map fun (read, rest) => (String.ofList read, rest)

/-- The digits before the point: a zero stands alone. -/
def wholePart : Parse (List Char)
  | '0' :: rest => some (['0'], rest)
  | cs =>
    let (ds, rest) := Decimal.spanDigits cs
    if ds.isEmpty then none else some (ds, rest)

/-- The digits after a point, if there is one. -/
def fractionPart : Parse (Option (List Char))
  | '.' :: rest =>
    let (ds, rest) := Decimal.spanDigits rest
    if ds.isEmpty then none else some (some ds, rest)
  | cs => some (none, cs)

/-- The exponent, if there is one. -/
def exponentPart : Parse (Option Int)
  | e :: rest =>
    if e = 'e' ∨ e = 'E' then
      let (negative, rest) := Decimal.spanSign rest
      let (ds, rest) := Decimal.spanDigits rest
      let power : Int := Decimal.digitsValue ds
      if ds.isEmpty then none else some (some (if negative then -power else power), rest)
    else some (none, e :: rest)
  | [] => some (none, [])

/-- A whole number, as an integer if it fits 64 bits and as a double if it does not. -/
def wholeNumber (negative : Bool) (ds : List Char) : Json :=
  let n := Decimal.digitsValue ds
  let fits := if negative then 0 < n && Int64.minValue.toInt ≤ -n else n < UInt64.size
  if fits then .int (if negative then -n else n)
  else .float (Decimal.Numeral.ofParts negative ds [] 0).toFloat

/-- A number. -/
def number (cs : List Char) : Option (Json × List Char) := do
  let (negative, rest) := match cs with
    | '-' :: rest => (true, rest)
    | _ => (false, cs)
  let (whole, rest) ← wholePart rest
  let (fraction, rest) ← fractionPart rest
  let (power, rest) ← exponentPart rest
  if fraction.isNone && power.isNone then return (wholeNumber negative whole, rest)
  let numeral := Decimal.Numeral.ofParts negative whole (fraction.getD []) (power.getD 0)
  return (.float numeral.toFloat, rest)

/-- Drops an expected word. -/
def keyword (word : List Char) (value : Json) (cs : List Char) : Option (Json × List Char) :=
  if word.isPrefixOf cs then some (value, cs.drop word.length) else none

mutual

/-- A value, with at most `fuel` nested steps. -/
def value : (fuel : Nat) → Parse Json
  | 0, _ => none
  | fuel + 1, cs =>
    match cs with
    | '"' :: rest => (string rest).map fun (s, rest) => (.str s, rest)
    | '[' :: rest =>
      match skipBlanks rest with
      | ']' :: rest => some (.arr [], rest)
      | rest => (items fuel [] rest).map fun (read, rest) => (.arr read, rest)
    | '\x7b' :: rest =>
      match skipBlanks rest with
      | '\x7d' :: rest => some (.obj [], rest)
      | rest => (entries fuel [] rest).map fun (read, rest) => (.obj read, rest)
    | 'n' :: _ => keyword ['n', 'u', 'l', 'l'] .null cs
    | 't' :: _ => keyword ['t', 'r', 'u', 'e'] (.bool true) cs
    | 'f' :: _ => keyword ['f', 'a', 'l', 's', 'e'] (.bool false) cs
    | _ => number cs

/-- The items of an array, after those that have been read (in reverse). -/
def items : (fuel : Nat) → List Json → Parse (List Json)
  | 0, _, _ => none
  | fuel + 1, read, cs =>
    match value fuel (skipBlanks cs) with
    | none => none
    | some (item, rest) =>
      match skipBlanks rest with
      | ',' :: rest => items fuel (item :: read) rest
      | ']' :: rest => some ((item :: read).reverse, rest)
      | _ => none

/-- The entries of an object, after those that have been read. -/
def entries : (fuel : Nat) → List (String × Json) → Parse (List (String × Json))
  | 0, _, _ => none
  | fuel + 1, read, cs =>
    match skipBlanks cs with
    | '"' :: rest =>
      match string rest with
      | none => none
      | some (key, rest) =>
        match skipBlanks rest with
        | ':' :: rest =>
          match value fuel (skipBlanks rest) with
          | none => none
          | some (item, rest) =>
            match skipBlanks rest with
            | ',' :: rest => entries fuel (insertEntry read key item) rest
            | '\x7d' :: rest => some (insertEntry read key item, rest)
            | _ => none
        | _ => none
    | _ => none

end

/-- Reads a text that is one JSON value. -/
def read? (s : String) : Option Json :=
  let cs := s.toList
  match value (cs.length + 1) (skipBlanks cs) with
  | some (read, rest) => if (skipBlanks rest).isEmpty then some read else none
  | none => none

end Repricing.Json
