import Repricing.Decimal.Layout
import Repricing.Json.Basic

/-!
# Writing JSON

Values are written on one line, or spread over lines with two spaces for each level. Only quotes,
backslashes and control characters below U+0020 are escaped.
-/

namespace Repricing.Json

/-- Doubles between `1e-5` and `1e16` are written in plain notation, all others in scientific
notation; whole numbers end in `.0`. Of two equally near decimals the even one is written. -/
def numberStyle : Decimal.Style :=
  { tie := .even, point := true, isPlain := fun power => decide (-5 ≤ power ∧ power ≤ 15) }

/-- The text of a double. -/
def floatChars (x : Float) : List Char :=
  match Decimal.exact x with
  | .finite negative mantissa exponent => numberStyle.finite negative mantissa exponent
  | _ => ['n', 'u', 'l', 'l']

/-- The text of a whole number. -/
def intChars (n : Int) : List Char :=
  Decimal.signChars (n < 0) ++ Decimal.digitChars n.natAbs

/-- A hexadecimal digit. -/
def hexDigit (n : Nat) : Char :=
  if n < 10 then Char.ofNat ('0'.toNat + n) else Char.ofNat ('a'.toNat + (n - 10))

/-- A character as it stands within a string. -/
def escapeChar (c : Char) : List Char :=
  if c = '"' then ['\\', '"']
  else if c = '\\' then ['\\', '\\']
  else if c = '\n' then ['\\', 'n']
  else if c = '\r' then ['\\', 'r']
  else if c = '\t' then ['\\', 't']
  else if c = '\x08' then ['\\', 'b']
  else if c = '\x0C' then ['\\', 'f']
  else if c.toNat < 0x20 then ['\\', 'u', '0', '0', hexDigit (c.toNat / 16), hexDigit (c.toNat % 16)]
  else [c]

/-- A string in quotes. -/
def quote (s : String) : List Char :=
  '"' :: s.toList.flatMap escapeChar ++ ['"']

/-- How the parts of arrays and objects are set apart. -/
structure Spacing where
  /-- What stands before an item at a level. -/
  item : (level : Nat) → List Char
  /-- What stands before the closing bracket at a level. -/
  close : (level : Nat) → List Char
  /-- What stands between a key and its value. -/
  colon : List Char

/-- Everything on one line. -/
def Spacing.compact : Spacing :=
  { item := fun _ => [], close := fun _ => [], colon := [':'] }

/-- A line break with two spaces for each level. -/
def breakLine (level : Nat) : List Char :=
  '\n' :: List.replicate (2 * level) ' '

/-- One item on each line. -/
def Spacing.pretty : Spacing :=
  { item := fun level => breakLine (level + 1), close := breakLine, colon := [':', ' '] }

mutual

/-- The text of a value at a level. -/
def chars (spacing : Spacing) (level : Nat) : Json → List Char
  | .null => ['n', 'u', 'l', 'l']
  | .bool true => ['t', 'r', 'u', 'e']
  | .bool false => ['f', 'a', 'l', 's', 'e']
  | .int n => intChars n
  | .float x => floatChars x
  | .str s => quote s
  | .arr [] => ['[', ']']
  | .arr (item :: rest) =>
    '[' :: spacing.item level ++ chars spacing (level + 1) item
      ++ itemsChars spacing level rest ++ spacing.close level ++ [']']
  | .obj [] => ['\x7b', '\x7d']
  | .obj ((key, item) :: rest) =>
    '\x7b' :: spacing.item level ++ quote key ++ spacing.colon ++ chars spacing (level + 1) item
      ++ entriesChars spacing level rest ++ spacing.close level ++ ['\x7d']

/-- The items of an array after the first one. -/
def itemsChars (spacing : Spacing) (level : Nat) : List Json → List Char
  | [] => []
  | item :: rest =>
    ',' :: spacing.item level ++ chars spacing (level + 1) item ++ itemsChars spacing level rest

/-- The entries of an object after the first one. -/
def entriesChars (spacing : Spacing) (level : Nat) : List (String × Json) → List Char
  | [] => []
  | (key, item) :: rest =>
    ',' :: spacing.item level ++ quote key ++ spacing.colon ++ chars spacing (level + 1) item
      ++ entriesChars spacing level rest

end

/-- The value on one line. -/
def compact (v : Json) : String :=
  String.ofList (chars .compact 0 v)

/-- The value spread over lines. -/
def pretty (v : Json) : String :=
  String.ofList (chars .pretty 0 v)

end Repricing.Json
