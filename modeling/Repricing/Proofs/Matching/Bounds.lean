import Repricing.Proofs.Matching.Scored

/-!
# The bounds of a match

A higher threshold leaves out the candidates below it and changes nothing else.  With a lower number
of entries to score, candidates are left out as well, though not those that rank last: the entries
that share fewest tokens are not scored.  The others are the same candidates in the same order.
-/

namespace Repricing

namespace CandidateIndex

variable {index : CandidateIndex} {keys : MatchKeys}

/-! ## The number of entries to score -/

theorem tokenSlots_sublist
    (index : CandidateIndex) (title author : String) {few many : UInt64} (hle : few ≤ many) :
    (index.tokenSlots title author few).Sublist (index.tokenSlots title author many) := by
  unfold tokenSlots
  apply List.Sublist.map
  exact (List.take_prefix_take_left (UInt64.le_iff_toNat_le.mp hle)).sublist

theorem scored_sublist
    (index : CandidateIndex) (settings : MatchSettings) (keys : MatchKeys) {few many : UInt64}
    (hle : few ≤ many) :
    (index.scored { settings with topK := few } keys).Sublist
      (index.scored { settings with topK := many } keys) := by
  unfold scored
  split
  · -- A score does not depend on the number of scores.
    exact (index.tokenSlots_sublist keys.title keys.author hle).filterMap _
  · exact List.Sublist.refl _

theorem matchKeys_sublist
    (hindex : index.Reachable) (hmiss : ¬ index.HitsIsbn keys) (settings : MatchSettings)
    (threshold : Float) {few many : UInt64} (hle : few ≤ many) :
    (index.matchKeys { settings with topK := few } keys threshold).Sublist
      (index.matchKeys { settings with topK := many } keys threshold) := by
  rw [matchKeys_eq_filter_rank hindex hmiss, matchKeys_eq_filter_rank hindex hmiss]
  exact (rank_sublist (index.scored_sublist settings keys hle)).filter _

/-! ## The threshold -/

theorem matchKeys_eq_filter
    (hindex : index.Reachable) (settings : MatchSettings) (keys : MatchKeys) {low high : Float}
    (hle : low ≤ high) (hone : high ≤ 1.0) :
    index.matchKeys settings keys high =
      (index.matchKeys settings keys low).filter fun c => high ≤ c.confidence := by
  by_cases hhit : index.HitsIsbn keys
  · obtain ⟨key, entry, -, -, hmatch⟩ := matchKeys_of_hitsIsbn hindex hhit
    have hreached : ∀ candidate ∈ [exactMatch entry], decide (high ≤ candidate.confidence) := by
      intro candidate hmem
      rw [List.mem_singleton.mp hmem]
      exact decide_eq_true hone
    rw [hmatch, hmatch, List.filter_eq_self.mpr hreached]
  · rw [matchKeys_eq_filter_rank hindex hhit, matchKeys_eq_filter_rank hindex hhit,
      List.filter_filter]
    apply List.filter_congr
    intro candidate _
    rw [Bool.eq_iff_iff, Bool.and_eq_true, decide_eq_true_eq, decide_eq_true_eq]
    constructor
    · intro hreached
      exact ⟨hreached, le_trans_of_le hle hreached⟩
    · exact And.left

/-! ## Both bounds -/

/-- The candidates at a threshold are those at a lower one, filtered.  Without a match by ISBN, the
candidates among a number of entries are, in the same order, candidates among more of them. -/
theorem matchKeys_bounds
    (hindex : index.Reachable) (settings : MatchSettings) (keys : MatchKeys) :
    (∀ low high : Float, low ≤ high → high ≤ 1.0 →
      index.matchKeys settings keys high =
        (index.matchKeys settings keys low).filter fun c => high ≤ c.confidence) ∧
    (¬ index.HitsIsbn keys → ∀ (few many : UInt64) (threshold : Float), few ≤ many →
      let fewer := index.matchKeys { settings with topK := few } keys threshold
      let more := index.matchKeys { settings with topK := many } keys threshold
      fewer.Sublist more ∧
        ∀ candidate ∈ fewer, ∀ other ∈ more, candidate.entry.id = other.entry.id →
          candidate = other) := by
  constructor
  · intro low high hle hone
    exact matchKeys_eq_filter hindex settings keys hle hone
  · intro hmiss few many threshold hle fewer more
    have hsub : fewer.Sublist more := matchKeys_sublist hindex hmiss settings threshold hle
    have hids : (more.map (·.entry.id)).Nodup :=
      List.pairwise_map.mpr (index.pairwise_ids_matchKeys _ keys threshold)
    constructor
    · exact hsub
    · intro candidate hcandidate other hother hid
      exact List.inj_on_of_nodup_map hids (hsub.subset hcandidate) hother hid

/-- Only the title counts for these settings. -/
def titleSettings : MatchSettings :=
  { weights := { title := 1.0, author := 0.0, publisher := 0.0 } }

/-- The keys of an item that has the author of one sample entry and most of the title of the
other. -/
def peaceKeys : MatchKeys :=
  { isbn := none, title := "and peace", author := "fyodor dostoevsky", publisher := "" }

/-- If one sample entry is scored only, it is the one that shares more tokens, which ranks last of
both.  The higher threshold leaves out this one. -/
theorem matchKeys_bounds_sample :
    ∃ index, build sampleEntries 20 = .ok index ∧
      (0.2 : Float) ≤ 0.5 ∧ (0.5 : Float) ≤ 1.0 ∧
      index.matchKeys titleSettings peaceKeys 0.5 =
        (index.matchKeys titleSettings peaceKeys 0.2).filter (fun c => 0.5 ≤ c.confidence) ∧
      (index.matchKeys { titleSettings with topK := 1 } peaceKeys 0.2).Sublist
        (index.matchKeys { titleSettings with topK := 2 } peaceKeys 0.2) ∧
      (index.matchKeys { titleSettings with topK := 1 } peaceKeys 0.2).map (·.entry.id) =
        [⟨43⟩] ∧
      (index.matchKeys { titleSettings with topK := 2 } peaceKeys 0.2).map (·.entry.id) =
        [⟨42⟩, ⟨43⟩] := by
  obtain ⟨index, hbuild⟩ := exists_build_sampleEntries
  have hmiss : ¬ index.HitsIsbn peaceKeys := by
    rintro ⟨key, hkey, -⟩
    cases hkey
  obtain ⟨hthreshold, htop⟩ := matchKeys_bounds (.built hbuild) titleSettings peaceKeys
  obtain ⟨hsub, -⟩ := htop hmiss 1 2 0.2 (by decide)
  have hids : ((build sampleEntries 20).map fun index => ([1, 2] : List UInt64).map fun topK =>
      (index.matchKeys { titleSettings with topK } peaceKeys 0.2).map (·.entry.id)) =
        .ok [[⟨43⟩], [⟨42⟩, ⟨43⟩]] := by decide +kernel
  rw [hbuild] at hids
  obtain ⟨hone, htwo⟩ := List.cons.inj (Except.ok.inj hids)
  exact ⟨index, hbuild, by decide, by decide, hthreshold 0.2 0.5 (by decide) (by decide), hsub,
    hone, (List.cons.inj htwo).1⟩

end CandidateIndex

end Repricing
