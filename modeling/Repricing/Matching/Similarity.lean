import Repricing.Matching.EditDistance
import Repricing.Text.Fold

/-!
# Similarity of folded texts

Two texts are as similar as their tokens overlap or as their characters agree, whichever is more. The
first measure does not mind the order of words, the second does not mind typing errors.
-/

namespace Repricing

/-- The share of common tokens among all tokens of two texts, each token counted once; zero if one of
them has no tokens. -/
def tokenOverlap (a b : String) : Float :=
  let left := (Text.tokens a).eraseDups
  let right := (Text.tokens b).eraseDups
  if left.isEmpty || right.isEmpty then 0.0
  else
    let shared := (left.filter right.contains).length
    Float.ofNat shared / Float.ofNat (left.length + right.length - shared)

/-- One less the edit distance as a share of the longer text. -/
def editSimilarity (a b : String) : Float :=
  let as := a.toList
  let bs := b.toList
  if as.isEmpty && bs.isEmpty then 1.0
  else 1.0 - Float.ofNat (editDistance as bs) / Float.ofNat (max as.length bs.length)

/-- The greater of two doubles. -/
def greater (x y : Float) : Float :=
  if x < y then y else x

/-- The similarity of two folded texts, between zero and one. An empty text is similar to nothing. -/
def textSimilarity (a b : String) : Float :=
  if a = "" ∨ b = "" then 0.0
  else if a = b then 1.0
  else greater (tokenOverlap a b) (editSimilarity a b)

end Repricing
