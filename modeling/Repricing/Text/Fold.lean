import Repricing.Text.Decomposition
import Repricing.Text.Letter
import Repricing.Text.LowerCase
import Repricing.Text.Words

/-!
# Folding

Texts are compared after folding: accents, case, punctuation and spacing do not count. The folded
text is a line of words, each made of letters and numbers, with one space between neighbours.
-/

namespace Repricing.Text

/-- The letters that are left of a character without its marks. -/
def baseLetters (c : Char) : List Char :=
  (decompose c).filter fun d => !isMark d

/-- What folding makes of one character. Lower case can bring marks back, so they are dropped once
more after it. Whatever is no letter and no number becomes a space. -/
def foldChar (c : Char) : List Char :=
  (((baseLetters c).flatMap lowerChar).flatMap baseLetters).map fun d =>
    if isAlphanumeric d then d else ' '

/-- The folded characters of a text. -/
def foldChars (cs : List Char) : List Char :=
  unwords (words (cs.flatMap foldChar))

/-- The folded form of a text. -/
def fold (s : String) : String :=
  String.ofList (foldChars s.toList)

/-- Whether a word helps to find a text: single letters carry no signal, single numbers do. -/
def isToken (word : List Char) : Bool :=
  1 < word.length || word.all isNumeric

/-- The tokens of a folded text, in order. -/
def tokens (folded : String) : List String :=
  ((words folded.toList).filter isToken).map String.ofList

end Repricing.Text
