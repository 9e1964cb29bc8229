import Repricing.Json.Printer
import Repricing.Json.Reader
import Repricing.Text.Blank

/-!
# Identifiers

Catalog entries are numbered with 64-bit numbers; the lower number comes first wherever two entries
are otherwise equal. Import runs have 128-bit identifiers, written as hexadecimal digits in five
groups.
-/

namespace Repricing

/-- The identifier of a catalog entry. -/
structure CatalogId where
  val : UInt64
deriving DecidableEq, Repr

/-- Why a text is no whole number of a limited size. -/
inductive NumberFault where
  | empty
  | invalidDigit
  | tooLarge
deriving DecidableEq, Repr

/-- The fault in words. -/
def NumberFault.message : NumberFault → String
  | .empty => "cannot parse integer from empty string"
  | .invalidDigit => "invalid digit found in string"
  | .tooLarge => "number too large to fit in target type"

/-- Reads further digits after a number that has been read. The first character that is no digit or
takes the number to `bound` or beyond decides the fault. -/
def readDigits (bound : Nat) (read : Nat) : List Char → Except NumberFault Nat
  | [] => .ok read
  | c :: rest =>
    if !c.isDigit then .error .invalidDigit
    else
      let next := 10 * read + Decimal.digitValue c
      if next < bound then readDigits bound next rest else .error .tooLarge

/-- Reads a whole number below `bound`: an optional plus sign and at least one digit. -/
def readNumber (bound : Nat) : List Char → Except NumberFault Nat
  | [] => .error .empty
  | ['+'] => .error .invalidDigit
  | '+' :: rest => readDigits bound 0 rest
  | cs => readDigits bound 0 cs

/-- Reads the identifier of an entry, with blanks around it. -/
def CatalogId.read (s : String) : Except NumberFault CatalogId :=
  (readNumber UInt64.size (Text.trimmed s.toList)).map fun n => ⟨UInt64.ofNat n⟩

/-- The identifier in decimal digits. -/
def CatalogId.text (id : CatalogId) : String :=
  String.ofList (Decimal.digitChars id.val.toNat)

/-- The identifier of an import run. -/
structure BatchId where
  bits : BitVec 128
deriving DecidableEq, Repr

namespace BatchId

/-- The last `count` hexadecimal digits of a number. -/
def hexChars : (count : Nat) → Nat → List Char
  | 0, _ => []
  | count + 1, n => hexChars count (n / 16) ++ [Json.hexDigit (n % 16)]

/-- The number that a row of hexadecimal digits denotes. -/
def hexNumber? (cs : List Char) : Option Nat :=
  cs.foldlM (fun n c => (Json.hexValue? c).map (16 * n + ·)) 0

/-- Thirty-two digits in groups of eight, four, four, four and twelve. -/
def grouped (ds : List Char) : List Char :=
  ds.take 8 ++ '-' :: (ds.drop 8).take 4 ++ '-' :: (ds.drop 12).take 4
    ++ '-' :: (ds.drop 16).take 4 ++ '-' :: ds.drop 20

/-- The digits of the identifier in groups, with small letters. -/
def chars (id : BatchId) : List Char :=
  grouped (hexChars 32 id.bits.toNat)

/-- The identifier as text. -/
def text (id : BatchId) : String :=
  String.ofList id.chars

/-- Reads thirty-two digits. -/
def ofDigits? (ds : List Char) : Option BatchId :=
  if ds.length = 32 then (hexNumber? ds).map fun n => ⟨BitVec.ofNat 128 n⟩ else none

/-- Reads digits in groups. -/
def ofGroups? (cs : List Char) : Option BatchId :=
  let ds := cs.take 8 ++ (cs.drop 9).take 4 ++ (cs.drop 14).take 4 ++ (cs.drop 19).take 4
    ++ cs.drop 24
  if cs[8]? = some '-' ∧ cs[13]? = some '-' ∧ cs[18]? = some '-' ∧ cs[23]? = some '-' then
    ofDigits? ds
  else none

/-- Whether the characters are the scheme of a uniform resource name, in any case. -/
def isScheme (cs : List Char) : Bool :=
  cs.map Char.toLower == ['u', 'r', 'n', ':', 'u', 'u', 'i', 'd', ':']

/-- Reads an identifier. Digits may stand in groups or not; groups may stand in braces or after the
scheme of a uniform resource name. -/
def read? (s : String) : Option BatchId :=
  let cs := s.toList
  match cs.length with
  | 32 => ofDigits? cs
  | 36 => ofGroups? cs
  | 38 =>
    if cs.head? = some '\x7b' ∧ cs.getLast? = some '\x7d' then ofGroups? (cs.drop 1).dropLast
    else none
  | 45 => if isScheme (cs.take 9) then ofGroups? (cs.drop 9) else none
  | _ => none

end BatchId

end Repricing
