import Repricing.Matching.Search
import Repricing.Proofs.Catalog.Prices
import Repricing.Reconcile.Basic

/-!
# Matching at other prices

Neither the search for entries nor their scores read prices.  The candidates found at one state of
the prices are therefore those found at any other, once their entries are read again.
-/

namespace Repricing

open ReconcilePolicy (refresh)

variable {c d : Catalog}

/-! ## Reading the entry of a candidate again -/

@[simp] theorem confidence_refresh (c : Catalog) (candidate : Candidate) :
    (refresh c candidate).confidence = candidate.confidence := rfl

@[simp] theorem id_refresh (c : Catalog) (candidate : Candidate) :
    (refresh c candidate).entry.id = candidate.entry.id := by
  unfold refresh
  cases hget : c.get? candidate.entry.id with
  | none => rfl
  | some current => exact Catalog.id_of_get? hget

theorem entry_refresh_of_get?
    {candidate : Candidate} {current : CatalogEntry}
    (hget : c.get? candidate.entry.id = some current) :
    (refresh c candidate).entry = current := by
  simp [refresh, hget]

theorem refresh_of_unknown
    {candidate : Candidate} (hget : c.get? candidate.entry.id = none) :
    refresh c candidate = candidate := by
  simp [refresh, hget]

theorem refresh_of_current
    {candidate : Candidate} (hget : c.get? candidate.entry.id = some candidate.entry) :
    refresh c candidate = candidate := by
  simp [refresh, hget]

/-- Reading an entry twice at one state of the prices is reading it once. -/
theorem refresh_refresh (c : Catalog) (candidate : Candidate) :
    refresh c (refresh c candidate) = refresh c candidate := by
  cases hget : c.get? candidate.entry.id with
  | none => rw [refresh_of_unknown hget, refresh_of_unknown hget]
  | some current =>
      apply refresh_of_current
      rw [id_refresh, entry_refresh_of_get? hget, hget]

theorem mem_rank {candidate : Candidate} {candidates : List Candidate} :
    candidate ∈ rank candidates ↔ candidate ∈ candidates := by
  rw [rank, stableSort_eq_mergeSort, List.mem_mergeSort]

theorem ranksBefore_refresh (c : Catalog) (a b : Candidate) :
    (refresh c a).ranksBefore (refresh c b) = a.ranksBefore b := by
  unfold Candidate.ranksBefore
  rw [id_refresh, id_refresh]
  rfl

/-- The ranking does not look at prices. -/
theorem rank_map_refresh (c : Catalog) (candidates : List Candidate) :
    rank (candidates.map (refresh c)) = (rank candidates).map (refresh c) := by
  rw [rank, rank, stableSort_eq_mergeSort, stableSort_eq_mergeSort]
  exact (List.map_mergeSort fun a _ b _ => (ranksBefore_refresh c a b).symm).symm

/-! ## Candidates found at a slot -/

namespace CandidateIndex

/-- The candidate for the entry at a slot. -/
def candidateAt? (index : CandidateIndex) (slot : Nat) (confidence : Float)
    (matchedFields : MatchFields) : Option Candidate :=
  (index.catalog.currentEntryAt? slot).map ({ entry := ·, confidence, matchedFields })

variable {index : CandidateIndex} {slot : Nat}

theorem get?_of_candidateAt?
    {confidence : Float} {matchedFields : MatchFields} {candidate : Candidate}
    (hfound : index.candidateAt? slot confidence matchedFields = some candidate) :
    index.catalog.get? candidate.entry.id = some candidate.entry := by
  obtain ⟨current, hcurrent, rfl⟩ := Option.map_eq_some_iff.mp hfound
  exact Catalog.get?_of_currentEntryAt? hcurrent

theorem candidateAt?_refresh
    (index : CandidateIndex) (hentries : c.entries = d.entries) (slot : Nat)
    (confidence : Float) (matchedFields : MatchFields) :
    { index with catalog := c }.candidateAt? slot confidence matchedFields =
      ({ index with catalog := d }.candidateAt? slot confidence matchedFields).map
        (refresh c) := by
  unfold candidateAt?
  cases hentry : d.entries[slot]? with
  | none =>
      have hentry' : c.entries[slot]? = none := by rw [hentries, hentry]
      simp [Catalog.currentEntryAt?, Catalog.entryAt?, hentry, hentry']
  | some entry =>
      have hentry' : c.entries[slot]? = some entry := by rw [hentries, hentry]
      obtain ⟨p, hp⟩ := Catalog.exists_priceAt? hentry
      obtain ⟨q, hq⟩ := Catalog.exists_priceAt? hentry'
      have hd := Catalog.currentEntryAt?_eq_some_iff.mpr ⟨entry, p, hentry, hp, rfl⟩
      have hc := Catalog.currentEntryAt?_eq_some_iff.mpr ⟨entry, q, hentry', hq, rfl⟩
      have hget := Catalog.get?_of_currentEntryAt? hc
      simp only [hc, hd, Option.map_some, refresh]
      rw [CatalogEntry.id_withPrice] at hget ⊢
      rw [hget]
      rfl

theorem exactCandidate?_eq (index : CandidateIndex) (isbn : String) :
    index.exactCandidate? isbn =
      (index.isbnSlot? isbn).bind fun slot => index.candidateAt? slot 1.0 { isbn := true } := by
  simp only [exactCandidate?, candidateAt?, Option.map_eq_bind]
  rfl

theorem scoreSlot?_eq
    (index : CandidateIndex) (settings : MatchSettings) (keys : MatchKeys) (slot : Nat) :
    index.scoreSlot? settings keys slot =
      (index.keysAt? slot).bind fun target =>
        let similarities := Similarities.ofKeys keys target
        let confidence := quantize (similarities.score settings.weights)
        if confidence ≤ 0.0 then none
        else index.candidateAt? slot confidence
          (similarities.matchedFields settings.weights settings.fieldFloor) := by
  unfold scoreSlot? candidateAt?
  cases index.keysAt? slot with
  | none => rfl
  | some target =>
      cases index.catalog.currentEntryAt? slot with
      | none => simp
      | some current => simp

/-! ## Matching -/

theorem exactCandidate?_refresh
    (index : CandidateIndex) (hentries : c.entries = d.entries) (isbn : String) :
    { index with catalog := c }.exactCandidate? isbn =
      ({ index with catalog := d }.exactCandidate? isbn).map (refresh c) := by
  rw [exactCandidate?_eq, exactCandidate?_eq, Option.map_bind]
  congr 1
  funext slot
  exact candidateAt?_refresh index hentries slot _ _

theorem scoreSlot?_refresh
    (index : CandidateIndex) (hentries : c.entries = d.entries) (settings : MatchSettings)
    (keys : MatchKeys) (slot : Nat) :
    { index with catalog := c }.scoreSlot? settings keys slot =
      ({ index with catalog := d }.scoreSlot? settings keys slot).map (refresh c) := by
  rw [scoreSlot?_eq, scoreSlot?_eq, Option.map_bind]
  congr 1
  funext target
  dsimp only [Function.comp]
  split
  · rfl
  · exact candidateAt?_refresh index hentries slot _ _

theorem isEmpty_congr (index : CandidateIndex) (hentries : c.entries = d.entries) :
    { index with catalog := c }.isEmpty = { index with catalog := d }.isEmpty := by
  simp only [isEmpty, Catalog.isEmpty, hentries]

/-- At other prices the same candidates are found, with the same confidences, in the same order. -/
theorem matchKeys_refresh
    (index : CandidateIndex) (hentries : c.entries = d.entries) (settings : MatchSettings)
    (keys : MatchKeys) (threshold : Float) :
    { index with catalog := c }.matchKeys settings keys threshold =
      ({ index with catalog := d }.matchKeys settings keys threshold).map (refresh c) := by
  have hexact : keys.isbn.bind { index with catalog := c }.exactCandidate? =
      (keys.isbn.bind { index with catalog := d }.exactCandidate?).map (refresh c) := by
    rw [Option.map_bind]
    congr 1
    funext isbn
    exact exactCandidate?_refresh index hentries isbn
  unfold matchKeys
  rw [isEmpty_congr index hentries, hexact]
  split
  · rfl
  · cases keys.isbn.bind { index with catalog := d }.exactCandidate? with
    | some candidate => rfl
    | none =>
        simp only [Option.map_none]
        have hscores : { index with catalog := c }.scoreSlot? settings keys =
            fun slot => ({ index with catalog := d }.scoreSlot? settings keys slot).map
              (refresh c) :=
          funext (scoreSlot?_refresh index hentries settings keys)
        rw [← rank_map_refresh, hscores, ← List.map_filterMap, List.filter_map]
        rfl

/-- A candidate shows its entry as it stands in the catalog. -/
theorem get?_of_mem_matchKeys
    (index : CandidateIndex) {settings : MatchSettings} {keys : MatchKeys} {threshold : Float}
    {candidate : Candidate}
    (hmem : candidate ∈ index.matchKeys settings keys threshold) :
    index.catalog.get? candidate.entry.id = some candidate.entry := by
  unfold matchKeys at hmem
  split at hmem
  · cases hmem
  · split at hmem
    · next exact hexact =>
        rw [List.mem_singleton] at hmem
        subst hmem
        obtain ⟨isbn, -, hisbn⟩ := Option.bind_eq_some_iff.mp hexact
        rw [exactCandidate?_eq] at hisbn
        obtain ⟨slot, -, hslot⟩ := Option.bind_eq_some_iff.mp hisbn
        exact get?_of_candidateAt? hslot
    · rw [mem_rank, List.mem_filter, List.mem_filterMap] at hmem
      obtain ⟨⟨slot, -, hscore⟩, -⟩ := hmem
      rw [scoreSlot?_eq] at hscore
      obtain ⟨target, -, htarget⟩ := Option.bind_eq_some_iff.mp hscore
      dsimp only at htarget
      split at htarget
      · cases htarget
      · exact get?_of_candidateAt? htarget

end CandidateIndex

end Repricing
