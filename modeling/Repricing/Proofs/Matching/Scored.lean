import Repricing.Proofs.Matching.Retrieval

/-!
# What matching gives

For keys with an ISBN of the catalog, matching gives the entry of the ISBN with full confidence and
nothing else.  For other keys it gives entries that share tokens with them: each with its score,
which is a number above zero whatever the weights are, and in a strict order.
-/

namespace Repricing

namespace CandidateIndex

variable {index : CandidateIndex} {settings : MatchSettings} {keys : MatchKeys}
  {threshold : Float} {candidate : Candidate} {slot : Nat}

/-! ## Slots -/

/-- The slots of a lookup are those of entries that share tokens with the query. -/
theorem exists_entry_of_mem_tokenSlots
    (hindex : index.Reachable) {title author : String} {k : UInt64}
    (hslot : slot ∈ index.tokenSlots title author k) :
    ∃ entry, index.catalog.entries[slot]? = some entry ∧ 0 < sharedTokens title author entry := by
  rw [tokenSlots, stableSort_eq_mergeSort] at hslot
  obtain ⟨counts, hcounts, rfl⟩ := List.mem_map.mp hslot
  have hcounted := List.mem_mergeSort.mp (List.mem_of_mem_take hcounts)
  rw [(overlaps_perm hindex title author).mem_iff] at hcounted
  obtain ⟨placed, hplaced, rfl⟩ := List.mem_map.mp hcounted
  exact ⟨placed.1, entry_of_mem_sharing hplaced, of_decide_eq_true (List.mem_filter.mp hplaced).2⟩

theorem length_tokenSlots_le (index : CandidateIndex) (title author : String) (k : UInt64) :
    (index.tokenSlots title author k).length ≤ k.toNat := by
  rw [tokenSlots, List.length_map]
  exact List.length_take_le _ _

/-! ## Scores -/

theorem length_scored_le (index : CandidateIndex) (settings : MatchSettings) (keys : MatchKeys) :
    (index.scored settings keys).length ≤ settings.topK.toNat := by
  unfold scored
  split
  · exact (List.length_filterMap_le _ _).trans (index.length_tokenSlots_le _ _ _)
  · exact Nat.zero_le _

theorem exists_slot_of_mem_scored (hmem : candidate ∈ index.scored settings keys) :
    ∃ slot ∈ index.tokenSlots keys.title keys.author settings.topK,
      index.scoreSlot? settings keys slot = some candidate := by
  unfold scored at hmem
  split at hmem
  · exact List.mem_filterMap.mp hmem
  · cases hmem

theorem pairwise_ids_scored
    (index : CandidateIndex) (settings : MatchSettings) (keys : MatchKeys) :
    (index.scored settings keys).Pairwise fun a b => a.entry.id ≠ b.entry.id := by
  unfold scored
  split
  · exact index.pairwise_ids_scoreSlot? settings keys (index.nodup_tokenSlots _ _ _)
  · exact List.Pairwise.nil

/-- What was scored is an entry at its current price that shares tokens with the keys, and it is
scored as its own keys are. -/
theorem spec_of_mem_scored
    (hindex : index.Reachable) (hmem : candidate ∈ index.scored settings keys) :
    index.catalog.get? candidate.entry.id = some candidate.entry ∧
      keys.SharesToken candidate.entry ∧ candidate = scoredMatch settings keys candidate.entry := by
  obtain ⟨slot, hslot, hscore⟩ := exists_slot_of_mem_scored hmem
  obtain ⟨entry, hentry, hshares⟩ := exists_entry_of_mem_tokenSlots hindex hslot
  obtain ⟨price, hprice⟩ := Catalog.exists_priceAt? hentry
  have hshows := Catalog.shows_of_entry hentry hprice
  rw [scoreSlot?_of_current hindex settings keys hshows.currentEntryAt?_eq] at hscore
  split at hscore
  · cases hscore
  · obtain rfl := Option.some.inj hscore
    exact ⟨hshows.get?_eq, hshares, rfl⟩

/-! ## Candidates -/

/-- What holds of the candidates that matching finds by their scores. -/
structure ScoredMatches (index : CandidateIndex) (settings : MatchSettings) (keys : MatchKeys)
    (threshold : Float) (found : List Candidate) : Prop where
  ranked : RankedCandidates threshold index.catalog found
  length_le : found.length ≤ settings.topK.toNat
  shares : ∀ candidate ∈ found, keys.SharesToken candidate.entry
  score : ∀ candidate ∈ found, candidate = scoredMatch settings keys candidate.entry
  notExact : ∀ candidate ∈ found, candidate.matchedFields.isbn = false

theorem scoredMatches_matchKeys
    (hindex : index.Reachable) (hmiss : ¬ index.HitsIsbn keys) (settings : MatchSettings)
    (threshold : Float) :
    ScoredMatches index settings keys threshold (index.matchKeys settings keys threshold) := by
  have hspec : ∀ candidate ∈ index.matchKeys settings keys threshold,
      index.catalog.get? candidate.entry.id = some candidate.entry ∧
        keys.SharesToken candidate.entry ∧
        candidate = scoredMatch settings keys candidate.entry := by
    intro candidate hmem
    exact spec_of_mem_scored hindex ((mem_matchKeys_iff hindex hmiss).mp hmem).1
  constructor
  case ranked =>
    rw [matchKeys_eq_filter_rank hindex hmiss, ← rank_filter]
    apply rankedCandidates_rank
    · intro candidate hmem
      rw [List.mem_filter, decide_eq_true_eq] at hmem
      obtain ⟨hscored, hreached⟩ := hmem
      obtain ⟨slot, -, hscore⟩ := exists_slot_of_mem_scored hscored
      exact confidence_of_scoreSlot? hscore hreached
    · exact (index.pairwise_ids_scored settings keys).filter _
    · intro candidate hmem
      exact (spec_of_mem_scored hindex (List.mem_filter.mp hmem).1).1
  case length_le =>
    rw [matchKeys_eq_filter_rank hindex hmiss]
    calc ((rank (index.scored settings keys)).filter _).length
      _ ≤ (rank (index.scored settings keys)).length := List.length_filter_le _ _
      _ = (index.scored settings keys).length := (rank_perm _).length_eq
      _ ≤ settings.topK.toNat := index.length_scored_le settings keys
  case shares =>
    intro candidate hmem
    exact (hspec candidate hmem).2.1
  case score =>
    intro candidate hmem
    exact (hspec candidate hmem).2.2
  case notExact =>
    intro candidate hmem
    rw [(hspec candidate hmem).2.2]
    rfl

theorem matchKeys_of_not_isUsable
    (index : CandidateIndex) (settings : MatchSettings) (husable : keys.isUsable = false)
    (threshold : Float) :
    index.matchKeys settings keys threshold = [] := by
  simp [matchKeys, husable]

/-- Matching gives the entry of an ISBN or the entries with scores that reach the threshold.  It
gives nothing for keys that are of no use, and it leaves nothing out if as many entries may be
scored as there are. -/
theorem matchKeys_exact_or_scored
    (hindex : index.Reachable) (settings : MatchSettings) (keys : MatchKeys) (threshold : Float) :
    let found := index.matchKeys settings keys threshold
    ((∃ key entry, keys.isbn.bind bareIsbn? = some key ∧ index.catalog.FirstWithIsbn key entry ∧
        found = [{ entry, confidence := 1.0, matchedFields := { isbn := true } }]) ∨
      (¬ index.HitsIsbn keys ∧ ScoredMatches index settings keys threshold found)) ∧
    (keys.isUsable = false → found = []) ∧
    (keys.isUsable = true → ¬ index.HitsIsbn keys → index.size ≤ settings.topK.toNat →
      ∀ entry, index.catalog.get? entry.id = some entry → keys.SharesToken entry →
        (0.0 : Float) < matchScore settings.weights keys entry →
        threshold ≤ matchScore settings.weights keys entry →
        scoredMatch settings keys entry ∈ found) := by
  intro found
  refine ⟨?_, fun husable => index.matchKeys_of_not_isUsable settings husable threshold, ?_⟩
  · by_cases hhit : index.HitsIsbn keys
    · obtain ⟨key, entry, hkey, hfirst, hmatch⟩ := matchKeys_of_hitsIsbn hindex hhit
      exact .inl ⟨key, entry, hkey, hfirst, hmatch settings threshold⟩
    · exact .inr ⟨hhit, scoredMatches_matchKeys hindex hhit settings threshold⟩
  · intro husable hmiss hsize entry hcurrent hshares hpos hthreshold
    exact scoredMatch_mem_matchKeys hindex husable hmiss hsize hcurrent hshares hpos hthreshold

/-- Settings that no check accepts. -/
def wildSettings : MatchSettings :=
  { topK := 2
    fieldFloor := 0.0 / 0.0
    weights := { title := 1.0 / 0.0, author := -1.0, publisher := 0.0 } }

/-- The keys of an item without an ISBN that shares tokens with both sample entries. -/
def crimeKeys : MatchKeys :=
  { isbn := none, title := "crime and peace", author := "", publisher := "" }

/-- With an infinite weight a sample entry that shares tokens with the keys has full confidence. -/
theorem matchKeys_exact_or_scored_sample :
    ∃ index, build sampleEntries 20 = .ok index ∧
      ScoredMatches index wildSettings crimeKeys 0.5
        (index.matchKeys wildSettings crimeKeys 0.5) ∧
      crimeKeys.SharesToken sampleEntries[0] ∧
      matchScore wildSettings.weights crimeKeys sampleEntries[0] = 1.0 ∧
      scoredMatch wildSettings crimeKeys sampleEntries[0] ∈
        index.matchKeys wildSettings crimeKeys 0.5 := by
  obtain ⟨index, hbuild⟩ := exists_build_sampleEntries
  have hmiss : ¬ index.HitsIsbn crimeKeys := by
    rintro ⟨key, hkey, -⟩
    cases hkey
  have hcurrent : ((build sampleEntries 20).map fun index =>
      (index.size, index.catalog.get? ⟨43⟩)) = .ok (2, some sampleEntries[0]) := by decide +kernel
  rw [hbuild] at hcurrent
  obtain ⟨hsize, hget⟩ := Prod.mk.inj (Except.ok.inj hcurrent)
  have hscore : matchScore wildSettings.weights crimeKeys sampleEntries[0] = 1.0 := by
    decide +kernel
  have hshares : crimeKeys.SharesToken sampleEntries[0] := by
    unfold MatchKeys.SharesToken
    decide +kernel
  obtain ⟨hfound, -, hcomplete⟩ :=
    matchKeys_exact_or_scored (.built hbuild) wildSettings crimeKeys 0.5
  refine ⟨index, hbuild, ?_, hshares, hscore, ?_⟩
  · rcases hfound with ⟨key, entry, hkey, -⟩ | ⟨-, hscored⟩
    · cases hkey
    · exact hscored
  · apply hcomplete (by decide) hmiss hsize.le _ hget hshares
    · rw [hscore]
      decide
    · rw [hscore]
      decide

end CandidateIndex

end Repricing
