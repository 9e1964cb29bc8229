import Repricing.Matching.Candidate
import Repricing.Matching.Index
import Repricing.Matching.Settings
import Repricing.Matching.Similarity

/-!
# Matching

An item whose ISBN is in the catalog matches the entry with that ISBN and no other. Any other item is
compared with the entries that share tokens with it, and the weighted similarity of the fields is the
confidence of the match.
-/

namespace Repricing

/-- The whole number nearest to a double that is not negative and below `2 ^ 53`; a half goes up. -/
def roundUnits (x : Float) : Float :=
  let whole := x.toUInt64.toFloat
  if 0.5 ≤ x - whole then whole + 1.0 else whole

/-- The double, or the nearer end of the range from zero to one. -/
def clampUnit (x : Float) : Float :=
  if x < 0.0 then 0.0 else if 1.0 < x then 1.0 else x

/-- A score between zero and one with six places. Weighted sums then land on the numbers that
thresholds are written as. What is no number stays so. -/
def quantize (score : Float) : Float :=
  if score.isNaN then score else roundUnits (clampUnit score * 1e6) / 1e6

/-- The similarities of the title, the author and the publisher. -/
structure Similarities where
  title : Float
  author : Float
  publisher : Float

namespace Similarities

/-- The similarities of two sets of keys. -/
def ofKeys (a b : MatchKeys) : Similarities :=
  { title := textSimilarity a.title b.title
    author := textSimilarity a.author b.author
    publisher := textSimilarity a.publisher b.publisher }

/-- The weighted sum of the similarities. -/
def score (s : Similarities) (w : MatchWeights) : Float :=
  w.title * s.title + w.author * s.author + w.publisher * s.publisher

/-- The fields that have weight and are similar enough. -/
def matchedFields (s : Similarities) (w : MatchWeights) (floor : Float) : MatchFields :=
  { title := 0.0 < w.title && floor ≤ s.title
    author := 0.0 < w.author && floor ≤ s.author
    publisher := 0.0 < w.publisher && floor ≤ s.publisher }

end Similarities

namespace CandidateIndex

/-- The candidate at a slot, unless its confidence is zero. -/
def scoreSlot? (index : CandidateIndex) (settings : MatchSettings) (keys : MatchKeys)
    (slot : Nat) : Option Candidate := do
  let target ← index.keysAt? slot
  let entry ← index.catalog.currentEntryAt? slot
  let similarities := Similarities.ofKeys keys target
  let confidence := quantize (similarities.score settings.weights)
  if confidence ≤ 0.0 then none
  else
    let matchedFields := similarities.matchedFields settings.weights settings.fieldFloor
    some { entry, confidence, matchedFields }

/-- The candidate that an ISBN leads to. -/
def exactCandidate? (index : CandidateIndex) (isbn : String) : Option Candidate := do
  let slot ← index.isbnSlot? isbn
  let entry ← index.catalog.currentEntryAt? slot
  return { entry, confidence := 1.0, matchedFields := { isbn := true } }

/-- The candidates for keys, ranked, with at least the given confidence. -/
def matchKeys (index : CandidateIndex) (settings : MatchSettings) (keys : MatchKeys)
    (threshold : Float) : List Candidate :=
  if index.isEmpty || !keys.isUsable then []
  else
    match keys.isbn.bind index.exactCandidate? with
    | some candidate => [candidate]
    | none =>
      rank (((index.tokenSlots keys.title keys.author settings.topK).filterMap
        (index.scoreSlot? settings keys)).filter fun c => threshold ≤ c.confidence)

/-- The candidates for an item, with at least the given confidence. -/
def potentialMatches (index : CandidateIndex) (settings : MatchSettings) (item : Item)
    (threshold : Float) : List Candidate :=
  index.matchKeys settings (MatchKeys.ofItem item) threshold

/-- The candidates for an item. -/
def matchItem (index : CandidateIndex) (settings : MatchSettings) (item : Item) : List Candidate :=
  index.potentialMatches settings item settings.threshold

/-- The candidates for an item whose keys are known. -/
def matchKeyed (index : CandidateIndex) (settings : MatchSettings) (item : KeyedItem) :
    List Candidate :=
  index.matchKeys settings item.keys settings.threshold

/-- The entry of the best candidate for an item. -/
def bestMatch? (index : CandidateIndex) (settings : MatchSettings) (item : Item) :
    Option CatalogEntry :=
  (index.matchItem settings item).head?.map (·.entry)

end CandidateIndex

end Repricing
