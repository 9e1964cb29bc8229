import Repricing.Proofs.Matching.ExactMatch
import Repricing.Proofs.Matching.Ranking
import Repricing.Proofs.Matching.TokenLookup

/-!
# What matching takes into account

A lookup by tokens that may give as many slots as there are entries leaves out none of those that
share tokens with the query.  Without a match by ISBN, the candidates are those of the ranked scores
that reach the threshold, and each entry of the lookup has one if its score is above zero.
-/

namespace Repricing

/-- The confidence with which an entry matches, by the similarities of its keys. -/
def matchScore (weights : MatchWeights) (keys : MatchKeys) (entry : CatalogEntry) : Float :=
  quantize ((Similarities.ofKeys keys (MatchKeys.ofEntry entry)).score weights)

/-- The match of an entry by the similarities of its keys. -/
def scoredMatch (settings : MatchSettings) (keys : MatchKeys) (entry : CatalogEntry) : Candidate :=
  let similarities := Similarities.ofKeys keys (MatchKeys.ofEntry entry)
  { entry
    confidence := matchScore settings.weights keys entry
    matchedFields := similarities.matchedFields settings.weights settings.fieldFloor }

/-- Whether the title key and the author key have a token of the entry. -/
def MatchKeys.SharesToken (keys : MatchKeys) (entry : CatalogEntry) : Prop :=
  0 < sharedTokens keys.title keys.author entry

namespace CandidateIndex

variable {index : CandidateIndex} {settings : MatchSettings} {keys : MatchKeys}
  {threshold : Float} {slot : Nat} {entry : CatalogEntry}

/-! ## Lookups -/

theorem length_sharing_le (c : Catalog) (title author : String) :
    (sharing c title author).length ≤ c.size := by
  calc (sharing c title author).length
    _ ≤ c.entries.toList.zipIdx.length := List.length_filter_le _ _
    _ = c.size := by rw [List.length_zipIdx, Array.length_toList, Catalog.size]

/-- The slots with tokens of the query are not more than the entries, so that none is cut off. -/
theorem mem_tokenSlots
    (hindex : index.Reachable) {title author : String} {k : UInt64}
    (hsize : index.size ≤ k.toNat) (hentry : index.catalog.entries[slot]? = some entry)
    (hshares : 0 < sharedTokens title author entry) :
    slot ∈ index.tokenSlots title author k := by
  have hperm := overlaps_perm hindex title author
  have hlength : (stableSort overlapBefore
      (index.postings.overlaps (Postings.tokenSet title author)).toList).length ≤ k.toNat := by
    rw [stableSort_eq_mergeSort, List.length_mergeSort, hperm.length_eq, List.length_map]
    exact (length_sharing_le index.catalog title author).trans hsize
  have hplaced : (entry, slot) ∈ sharing index.catalog title author := by
    apply List.mem_filter.mpr
    refine ⟨?_, decide_eq_true hshares⟩
    rwa [List.mem_zipIdx_iff_getElem?, Array.getElem?_toList]
  rw [tokenSlots, List.take_of_length_le hlength, stableSort_eq_mergeSort]
  apply List.mem_map.mpr
  refine ⟨counted title author (entry, slot), ?_, rfl⟩
  rw [List.mem_mergeSort, hperm.mem_iff]
  exact List.mem_map_of_mem hplaced

/-! ## Scores -/

/-- The entry at a slot is a candidate with its score, unless this is zero or below. -/
theorem scoreSlot?_of_current
    (hindex : index.Reachable) (settings : MatchSettings) (keys : MatchKeys)
    (hcurrent : index.catalog.currentEntryAt? slot = some entry) :
    index.scoreSlot? settings keys slot =
      if matchScore settings.weights keys entry ≤ 0.0 then none
      else some (scoredMatch settings keys entry) := by
  obtain ⟨original, price, horiginal, -, rfl⟩ :=
    Catalog.currentEntryAt?_eq_some_iff.mp hcurrent
  have hkeys : index.keysAt? slot = some (MatchKeys.ofEntry original) := by
    rw [keysAt?, hindex.keys_eq, Array.getElem?_map, horiginal, Option.map_some]
  rw [scoreSlot?_eq, hkeys, Option.bind_some]
  dsimp only
  rw [candidateAt?, hcurrent, Option.map_some]
  rfl

/-- The scores of the entries that a lookup by the tokens of the keys gives. -/
def scored (index : CandidateIndex) (settings : MatchSettings) (keys : MatchKeys) :
    List Candidate :=
  if keys.isUsable then
    (index.tokenSlots keys.title keys.author settings.topK).filterMap
      (index.scoreSlot? settings keys)
  else []

/-- Without a match by ISBN, matching gives those in the ranking of all scores that reach the
threshold. -/
theorem matchKeys_eq_filter_rank
    (hindex : index.Reachable) (hmiss : ¬ index.HitsIsbn keys) (settings : MatchSettings)
    (threshold : Float) :
    index.matchKeys settings keys threshold =
      (rank (index.scored settings keys)).filter fun c => threshold ≤ c.confidence := by
  rw [← rank_filter, matchKeys, scored, bind_exactCandidate?_eq_none hindex hmiss,
    hindex.isEmpty_eq_false]
  cases keys.isUsable with
  | false => simp [rank, stableSort_eq_mergeSort]
  | true => simp

theorem mem_matchKeys_iff
    (hindex : index.Reachable) (hmiss : ¬ index.HitsIsbn keys) {candidate : Candidate} :
    candidate ∈ index.matchKeys settings keys threshold ↔
      candidate ∈ index.scored settings keys ∧ threshold ≤ candidate.confidence := by
  rw [matchKeys_eq_filter_rank hindex hmiss, List.mem_filter, mem_rank, decide_eq_true_eq]

/-- Without a match by ISBN, all entries that share tokens with the keys and have a positive score
that reaches the threshold are found. -/
theorem scoredMatch_mem_matchKeys
    (hindex : index.Reachable) (husable : keys.isUsable = true) (hmiss : ¬ index.HitsIsbn keys)
    (hsize : index.size ≤ settings.topK.toNat)
    (hcurrent : index.catalog.get? entry.id = some entry) (hshares : keys.SharesToken entry)
    (hpos : (0.0 : Float) < matchScore settings.weights keys entry)
    (hthreshold : threshold ≤ matchScore settings.weights keys entry) :
    scoredMatch settings keys entry ∈ index.matchKeys settings keys threshold := by
  obtain ⟨slot, -, hslot⟩ := Catalog.get?_eq_some_iff.mp hcurrent
  have hlookup : slot ∈ index.tokenSlots keys.title keys.author settings.topK := by
    obtain ⟨original, price, horiginal, -, rfl⟩ :=
      Catalog.currentEntryAt?_eq_some_iff.mp hslot
    exact mem_tokenSlots hindex hsize horiginal hshares
  have hscore : index.scoreSlot? settings keys slot = some (scoredMatch settings keys entry) := by
    rw [scoreSlot?_of_current hindex settings keys hslot]
    apply if_neg
    intro hle
    exact not_lt_of_le hle hpos
  rw [mem_matchKeys_iff hindex hmiss, scored, if_pos husable, List.mem_filterMap]
  exact ⟨⟨slot, hlookup, hscore⟩, hthreshold⟩

end CandidateIndex

end Repricing
