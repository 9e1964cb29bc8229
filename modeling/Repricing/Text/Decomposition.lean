import Repricing.Text.Decomposition.Alphabets
import Repricing.Text.Decomposition.Symbols
import Repricing.Text.Decomposition.Ideographs
import Repricing.Text.Decomposition.Presentation
import Repricing.Text.Decomposition.Supplementary

/-!
# Compatibility decomposition

Every character decomposes into a list of characters that decompose no further (normalization form
NFKD, character by character; the order of marks among themselves is left as it stands). Hangul
syllables decompose by arithmetic, all other characters by a table.
-/

namespace Repricing.Text.Decomposition

/-- The decompositions of the table, in ascending order. -/
def blocks : List Block :=
  alphabets ++ symbols ++ ideographs ++ presentation ++ supplementary

/-- Hangul syllables: each has a leading consonant, a vowel and perhaps a trailing consonant. -/
def isHangulSyllable (code : Nat) : Bool :=
  0xAC00 ≤ code && code ≤ 0xD7A3

/-- The letters of the syllable number `index`, counted from the first one. There are 28 ways to
end a syllable, one of them empty, and 21 vowels. -/
def hangulLetters (index : Nat) : List Nat :=
  let leading := 0x1100 + index / 588
  let vowel := 0x1161 + index % 588 / 28
  if index % 28 = 0 then [leading, vowel] else [leading, vowel, 0x11A7 + index % 28]

/-- The decomposition of a code point. -/
def codes (code : Nat) : List Nat :=
  if isHangulSyllable code then hangulLetters (code - 0xAC00)
  else (lookup blocks code).getD [code]

end Repricing.Text.Decomposition

namespace Repricing.Text

/-- The compatibility decomposition of a character. -/
def decompose (c : Char) : List Char :=
  (Decomposition.codes c.toNat).map Char.ofNat

end Repricing.Text
