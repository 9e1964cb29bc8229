import Repricing.Proofs.Float.TotalOrder
import Repricing.Proofs.Matching.Ranking

/-!
# Rankings of arbitrary doubles

There are many doubles that are no numbers, and a ranking tells them apart by their bits.  Candidates
whose confidences are given by their bits are ranked by the total order of doubles, and so are
candidates whose confidences are doubles.  Only candidates that have the same confidence and
identifier are left in the order in which they come.
-/

namespace Repricing

/-! ## Confidences given by bits -/

/-- A candidate whose confidence is any double at all, given by its bits. -/
structure BitCandidate where
  entry : CatalogEntry
  confidenceBits : UInt64
  matchedFields : MatchFields
deriving DecidableEq

namespace BitCandidate

/-- The candidate with its confidence as a double. -/
def candidate (c : BitCandidate) : Candidate :=
  { entry := c.entry
    confidence := Float.ofBits c.confidenceBits
    matchedFields := c.matchedFields }

/-- The candidates in their ranking. -/
def rank (candidates : List BitCandidate) : List BitCandidate :=
  stableSort (ranksBy (fun c => place c.confidenceBits) (·.entry.id)) candidates

theorem ranks_rank : Ranks (fun c => place c.confidenceBits) (·.entry.id) rank :=
  ranks_stableSort

end BitCandidate

/-! ## Confidences given as doubles -/

theorem orderKey_eq_place (x : Float) : orderKey x = place x.toBits := by
  have hmax : Int64.maxValue.toInt = 2 ^ 63 - 1 := rfl
  unfold orderKey place
  dsimp only
  split <;> split <;> omega

/-- The candidate with the bits of its confidence. -/
def Candidate.bitwise (c : Candidate) : BitCandidate :=
  { entry := c.entry
    confidenceBits := c.confidence.toBits
    matchedFields := c.matchedFields }

theorem candidate_bitwise (c : Candidate) : c.bitwise.candidate = c := by
  rw [BitCandidate.candidate, Candidate.bitwise, ofBits_toBits]

/-- Candidates are ranked by the bits of their confidences. -/
theorem rank_eq_rank_bitwise (candidates : List Candidate) :
    rank candidates =
      (BitCandidate.rank (candidates.map Candidate.bitwise)).map BitCandidate.candidate := by
  have hmap : (rank candidates).map Candidate.bitwise =
      BitCandidate.rank (candidates.map Candidate.bitwise) := by
    rw [rank, BitCandidate.rank, stableSort_eq_mergeSort, stableSort_eq_mergeSort]
    apply List.map_mergeSort
    intro a _ b _
    rw [Candidate.ranksBefore, orderKey_eq_place, orderKey_eq_place]
    rfl
  have hback : BitCandidate.candidate ∘ Candidate.bitwise = id := funext candidate_bitwise
  rw [← hmap, List.map_map, hback, List.map_id]

end Repricing
