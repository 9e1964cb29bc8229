import Repricing.Text.Table.Cased
import Repricing.Text.Table.CaseIgnorable
import Repricing.Text.Table.LowerCase

/-!
# Lower case

Lower-casing by the character takes no account of its neighbours. Lower-casing a whole text differs
from it in one rule: a capital sigma at the end of a word becomes a final sigma.
-/

namespace Repricing.Text

/-- Whether the run maps the code point. -/
def CaseRun.covers (run : CaseRun) (code : Nat) : Bool :=
  run.first ≤ code && code ≤ run.last && (code - run.first) % run.step == 0

/-- The lower-case form of a code point, itself if there is no other. -/
def lowerCode (code : Nat) : Nat :=
  match caseRuns.find? (·.covers code) with
  | some run => run.lower + (code - run.first)
  | none => code

/-- The lower-case form of a character by itself. Only the capital I with a dot has one of two
characters. -/
def lowerChar (c : Char) : List Char :=
  if c = '\u0130' then ['i', '\u0307'] else [Char.ofNat (lowerCode c.toNat)]

/-- Whether a character has case. -/
def isCased (c : Char) : Bool :=
  casedRanges.has c.toNat

/-- Whether a character is passed over in the search for the letter next to a sigma. -/
def isCaseIgnorable (c : Char) : Bool :=
  caseIgnorableRanges.has c.toNat

/-- Whether the first character that is not case-ignorable has case. -/
def startsCased (cs : List Char) : Bool :=
  match cs.dropWhile isCaseIgnorable with
  | c :: _ => isCased c
  | [] => false

/-- Lower-cases the rest of a text, given the characters before it in reverse. A capital sigma is
final when a cased letter stands before it and none after it. -/
def lowerFrom (before : List Char) : List Char → List Char
  | [] => []
  | c :: rest =>
    let lowered :=
      if c = 'Σ' then [if startsCased before && !startsCased rest then 'ς' else 'σ']
      else lowerChar c
    lowered ++ lowerFrom (c :: before) rest

/-- The text in lower case. -/
def lowerCase (s : String) : String :=
  String.ofList (lowerFrom [] s.toList)

end Repricing.Text
