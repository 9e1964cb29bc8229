import Repricing.Proofs.Matching.Confidence
import Repricing.Proofs.Matching.Postings
import Repricing.Proofs.Matching.Refresh

/-!
# Ranked candidates

The candidates of a match are different entries, with confidences above zero and up to one.  Ranked
candidates are therefore in a strict order: by descending confidence and, at equal confidence, by
ascending identifiers.
-/

namespace Repricing

/-! ## Sorting a part of a list -/

section Sorting

variable {α : Type} {le : α → α → Bool}

/-- The first item of a list is sorted in behind those that come strictly before it. -/
theorem mergeSort_cons_eq
    (htrans : ∀ a b c, le a b = true → le b c = true → le a c = true)
    (htotal : ∀ a b, (le a b || le b a) = true) (a : α) (xs : List α) :
    (a :: xs).mergeSort le =
      (xs.mergeSort le).filter (fun b => !le a b) ++ a :: (xs.mergeSort le).filter (le a) := by
  obtain ⟨before, after, hcons, hsplit, hbefore⟩ := List.mergeSort_cons htrans htotal a xs
  have hsorted := List.pairwise_mergeSort htrans htotal (a :: xs)
  rw [hcons, List.pairwise_append] at hsorted
  have hafter : ∀ b ∈ after, le a b = true := fun b hb =>
    List.rel_of_pairwise_cons hsorted.2.1 hb
  have hnotBefore : ∀ b ∈ before, ¬ le a b = true := by simpa using hbefore
  have hnotAfter : ∀ b ∈ after, ¬ (!le a b) = true := by simpa using hafter
  rw [hcons, hsplit, List.filter_append, List.filter_append, List.filter_eq_self.mpr hbefore,
    List.filter_eq_nil_iff.mpr hnotAfter, List.append_nil, List.filter_eq_nil_iff.mpr hnotBefore,
    List.nil_append, List.filter_eq_self.mpr hafter]

/-- A part of a list stays a part of it when both are sorted. -/
theorem stableSort_sublist
    (htrans : ∀ a b c, le a b = true → le b c = true → le a c = true)
    (htotal : ∀ a b, (le a b || le b a) = true) {xs ys : List α} (hsub : xs.Sublist ys) :
    (stableSort le xs).Sublist (stableSort le ys) := by
  rw [stableSort_eq_mergeSort, stableSort_eq_mergeSort]
  induction hsub with
  | slnil => exact List.Sublist.refl _
  | @cons xs ys a hsub ih =>
      obtain ⟨before, after, hcons, hsplit, -⟩ := List.mergeSort_cons htrans htotal a ys
      rw [hsplit] at ih
      rw [hcons]
      exact ih.middle a
  | cons_cons a hsub ih =>
      rw [mergeSort_cons_eq htrans htotal, mergeSort_cons_eq htrans htotal]
      exact (ih.filter _).append ((ih.filter _).cons_cons a)

/-- It makes no difference whether items are left out before a list is sorted or after. -/
theorem stableSort_filter
    (htrans : ∀ a b c, le a b = true → le b c = true → le a c = true)
    (htotal : ∀ a b, (le a b || le b a) = true) (p : α → Bool) (xs : List α) :
    stableSort le (xs.filter p) = (stableSort le xs).filter p := by
  have hkept : ∀ x ∈ stableSort le (xs.filter p), p x = true := fun _ hmem =>
    (List.mem_filter.mp ((stableSort_perm le _).mem_iff.mp hmem)).2
  have hsub : (stableSort le (xs.filter p)).Sublist ((stableSort le xs).filter p) :=
    List.sublist_filter_iff.mpr
      ⟨_, stableSort_sublist htrans htotal List.filter_sublist, (List.filter_eq_self.mpr hkept).symm⟩
  apply hsub.eq_of_length
  rw [(stableSort_perm le _).length_eq, ((stableSort_perm le xs).filter p).length_eq]

end Sorting

/-! ## Rankings by places and identifiers -/

section Ranks

variable {α : Type} (place : α → Int) (id : α → CatalogId)

/-- Whether an item comes no later than another: at a higher place, or at the same one with an
identifier that is no higher. -/
def ranksBy (a b : α) : Bool :=
  place b < place a || (place b == place a && (id a).val ≤ (id b).val)

/-- The function ranks items by descending places and ascending identifiers. -/
structure Ranks (rank : List α → List α) : Prop where
  perm : ∀ items, (rank items).Perm items
  sorted : ∀ items, (rank items).Pairwise fun a b =>
    place b < place a ∨ (place a = place b ∧ (id a).val ≤ (id b).val)
  /-- Items with the same place and identifier keep their order. -/
  stable : ∀ items p i, (rank items).filter (fun a => place a = p ∧ id a = i) =
    items.filter (fun a => place a = p ∧ id a = i)
  idempotent : ∀ items, rank (rank items) = rank items

variable {place id} {a b : α} {items : List α}

theorem ranksBy_eq_true_iff :
    ranksBy place id a b = true ↔
      place b < place a ∨ (place a = place b ∧ (id a).val ≤ (id b).val) := by
  rw [ranksBy, Bool.or_eq_true, Bool.and_eq_true, decide_eq_true_eq, beq_iff_eq,
    decide_eq_true_eq, eq_comm (a := place b)]

theorem ranksBy_trans (a b c : α)
    (hab : ranksBy place id a b = true) (hbc : ranksBy place id b c = true) :
    ranksBy place id a c = true := by
  simp only [ranksBy_eq_true_iff, UInt64.le_iff_toNat_le] at *
  omega

theorem ranksBy_total (a b : α) : (ranksBy place id a b || ranksBy place id b a) = true := by
  simp only [Bool.or_eq_true, ranksBy_eq_true_iff, UInt64.le_iff_toNat_le]
  omega

theorem stableSort_of_pairwise
    (hsorted : items.Pairwise fun a b => ranksBy place id a b = true) :
    stableSort (ranksBy place id) items = items := by
  rw [stableSort_eq_mergeSort]
  exact List.mergeSort_of_pairwise hsorted

theorem ranks_stableSort : Ranks place id (stableSort (ranksBy place id)) where
  perm := stableSort_perm _
  sorted items := by
    rw [stableSort_eq_mergeSort]
    exact (List.pairwise_mergeSort ranksBy_trans ranksBy_total items).imp ranksBy_eq_true_iff.mp
  stable items p i := by
    rw [← stableSort_filter ranksBy_trans ranksBy_total]
    apply stableSort_of_pairwise
    apply List.pairwise_of_forall_mem_list
    intro a ha b hb
    obtain ⟨hplace, hid⟩ : place a = p ∧ id a = i := by simpa using (List.mem_filter.mp ha).2
    obtain ⟨hplace', hid'⟩ : place b = p ∧ id b = i := by simpa using (List.mem_filter.mp hb).2
    refine ranksBy_eq_true_iff.mpr (.inr ⟨hplace.trans hplace'.symm, ?_⟩)
    rw [hid, hid']
    exact UInt64.le_refl _
  idempotent items := by
    apply stableSort_of_pairwise
    rw [stableSort_eq_mergeSort]
    exact List.pairwise_mergeSort ranksBy_trans ranksBy_total items

/-- If no two items have the same place and identifier, their order makes no difference. -/
theorem Ranks.eq_of_perm
    {rank : List α → List α} {others : List α} (hrank : Ranks place id rank)
    (hperm : items.Perm others) (hdistinct : (items.map fun a => (place a, id a)).Nodup) :
    rank others = rank items := by
  have hranked : (rank others).Perm (rank items) :=
    (hrank.perm others).trans (hperm.symm.trans (hrank.perm items).symm)
  apply hranked.eq_of_pairwise _ (hrank.sorted others) (hrank.sorted items)
  intro a b ha hb hab hba
  refine List.inj_on_of_nodup_map hdistinct ?_ ((hrank.perm items).mem_iff.mp hb) ?_
  · exact hperm.mem_iff.mpr ((hrank.perm others).mem_iff.mp ha)
  · rcases hab with hlt | ⟨hplace, hle⟩ <;> rcases hba with hgt | ⟨hplace', hge⟩
    · omega
    · omega
    · omega
    · exact Prod.ext hplace (congrArg CatalogId.mk (UInt64.le_antisymm hle hge))

end Ranks

/-! ## The ranking -/

/-- The candidate comes before the other one: its confidence is greater, or it is the same and the
identifier of its entry is lower. -/
def Candidate.RanksAbove (a b : Candidate) : Prop :=
  b.confidence < a.confidence ∨
    (b.confidence = a.confidence ∧ a.entry.id.val < b.entry.id.val)

namespace Candidate

variable {a b : Candidate}

theorem ranksBefore_eq_ranksBy (a b : Candidate) :
    ranksBefore a b = ranksBy (fun c => orderKey c.confidence) (·.entry.id) a b :=
  rfl

theorem ranksBefore_trans (a b c : Candidate)
    (hab : ranksBefore a b = true) (hbc : ranksBefore b c = true) :
    ranksBefore a c = true := by
  rw [ranksBefore_eq_ranksBy] at *
  exact ranksBy_trans a b c hab hbc

theorem ranksBefore_total (a b : Candidate) : (ranksBefore a b || ranksBefore b a) = true := by
  rw [ranksBefore_eq_ranksBy, ranksBefore_eq_ranksBy]
  exact ranksBy_total a b

theorem orderKey_le_of_ranksBefore (hbefore : ranksBefore a b = true) :
    orderKey b.confidence ≤ orderKey a.confidence := by
  simp only [ranksBefore, Bool.or_eq_true, Bool.and_eq_true, decide_eq_true_eq,
    beq_iff_eq] at hbefore
  omega

/-- Of two different entries with positive confidences, one is above the other. -/
theorem ranksAbove_of_ranksBefore
    (ha : (0.0 : Float) < a.confidence) (hb : (0.0 : Float) < b.confidence)
    (hne : a.entry.id ≠ b.entry.id) (hbefore : ranksBefore a b = true) :
    RanksAbove a b := by
  rw [ranksBefore, Bool.or_eq_true, Bool.and_eq_true, decide_eq_true_eq, beq_iff_eq,
    decide_eq_true_eq] at hbefore
  rcases hbefore with hgreater | ⟨hsame, hle⟩
  · exact .inl ((orderKey_lt_iff hb ha).mp hgreater)
  · refine .inr ⟨eq_of_orderKey_eq hb ha hsame, UInt64.lt_of_le_of_ne hle ?_⟩
    intro hid
    exact hne (congrArg CatalogId.mk hid)

end Candidate

/-- Candidates are ranked by descending confidences and ascending identifiers. -/
theorem ranks_rank : Ranks (fun c => orderKey c.confidence) (·.entry.id) rank :=
  ranks_stableSort

theorem rank_perm (candidates : List Candidate) : (rank candidates).Perm candidates :=
  ranks_rank.perm candidates

theorem pairwise_ranksBefore_rank (candidates : List Candidate) :
    (rank candidates).Pairwise fun a b => Candidate.ranksBefore a b = true := by
  rw [rank, stableSort_eq_mergeSort]
  exact List.pairwise_mergeSort Candidate.ranksBefore_trans Candidate.ranksBefore_total _

/-- Candidates that are ranked stay as they are when they are ranked again. -/
theorem rank_of_pairwise
    {candidates : List Candidate}
    (hranked : candidates.Pairwise fun a b => Candidate.ranksBefore a b = true) :
    rank candidates = candidates := by
  rw [rank, stableSort_eq_mergeSort, List.mergeSort_of_pairwise hranked]

/-- A part of the candidates is ranked as it is among all of them. -/
theorem rank_sublist {candidates all : List Candidate} (hsub : candidates.Sublist all) :
    (rank candidates).Sublist (rank all) :=
  stableSort_sublist Candidate.ranksBefore_trans Candidate.ranksBefore_total hsub

/-- It makes no difference whether candidates are left out before they are ranked or after. -/
theorem rank_filter (p : Candidate → Bool) (candidates : List Candidate) :
    rank (candidates.filter p) = (rank candidates).filter p :=
  stableSort_filter Candidate.ranksBefore_trans Candidate.ranksBefore_total p candidates

/-- Confidences from zero to one descend in a ranking. -/
theorem pairwise_confidence_rank
    {candidates : List Candidate}
    (hunit : ∀ candidate ∈ candidates,
      (0.0 : Float) ≤ candidate.confidence ∧ candidate.confidence ≤ 1.0) :
    (rank candidates).Pairwise fun a b => b.confidence ≤ a.confidence := by
  apply (pairwise_ranksBefore_rank candidates).imp_of_mem
  intro a b ha hb hbefore
  exact le_of_orderKey_le (hunit a (mem_rank.mp ha)) (hunit b (mem_rank.mp hb))
    (Candidate.orderKey_le_of_ranksBefore hbefore)

/-- Different entries with positive confidences are ranked strictly. -/
theorem pairwise_ranksAbove_rank
    {candidates : List Candidate}
    (hpos : ∀ candidate ∈ candidates, (0.0 : Float) < candidate.confidence)
    (hdistinct : candidates.Pairwise fun a b => a.entry.id ≠ b.entry.id) :
    (rank candidates).Pairwise Candidate.RanksAbove := by
  have hdistinct : (rank candidates).Pairwise fun a b => a.entry.id ≠ b.entry.id :=
    hdistinct.perm (rank_perm candidates).symm Ne.symm
  apply ((pairwise_ranksBefore_rank candidates).and hdistinct).imp_of_mem
  rintro a b ha hb ⟨hbefore, hne⟩
  exact Candidate.ranksAbove_of_ranksBefore (hpos a (mem_rank.mp ha)) (hpos b (mem_rank.mp hb)) hne
    hbefore

/-- What holds of the ranked candidates of an item. -/
structure RankedCandidates (threshold : Float) (c : Catalog) (ranked : List Candidate) : Prop where
  confidence : ∀ candidate ∈ ranked,
    (0.0 : Float) < candidate.confidence ∧ candidate.confidence ≤ 1.0 ∧
      threshold ≤ candidate.confidence
  distinct : ranked.Pairwise fun a b => a.entry.id ≠ b.entry.id
  above : ranked.Pairwise Candidate.RanksAbove
  current : ∀ candidate ∈ ranked, c.get? candidate.entry.id = some candidate.entry

/-- Different entries of the catalog with confidences that reach the threshold need only be
ranked. -/
theorem rankedCandidates_rank
    {threshold : Float} {c : Catalog} {candidates : List Candidate}
    (hconfidence : ∀ candidate ∈ candidates,
      (0.0 : Float) < candidate.confidence ∧ candidate.confidence ≤ 1.0 ∧
        threshold ≤ candidate.confidence)
    (hdistinct : candidates.Pairwise fun a b => a.entry.id ≠ b.entry.id)
    (hcurrent : ∀ candidate ∈ candidates, c.get? candidate.entry.id = some candidate.entry) :
    RankedCandidates threshold c (rank candidates) where
  confidence candidate hmem := hconfidence candidate (mem_rank.mp hmem)
  distinct := hdistinct.perm (rank_perm candidates).symm Ne.symm
  above := pairwise_ranksAbove_rank (fun candidate hmem => (hconfidence candidate hmem).1) hdistinct
  current candidate hmem := hcurrent candidate (mem_rank.mp hmem)

/-! ## What matching finds -/

namespace CandidateIndex

variable {index : CandidateIndex} {settings : MatchSettings} {keys : MatchKeys}
  {threshold : Float} {candidate : Candidate}

/-- A candidate that was scored stands at its slot, with a score that is not zero. -/
theorem scored_of_scoreSlot?
    {slot : Nat} (hscore : index.scoreSlot? settings keys slot = some candidate) :
    index.catalog.slotOf candidate.entry.id = some slot ∧
      ∃ score, candidate.confidence = quantize score ∧ ¬ quantize score ≤ 0.0 := by
  rw [scoreSlot?_eq] at hscore
  obtain ⟨target, -, htarget⟩ := Option.bind_eq_some_iff.mp hscore
  dsimp only at htarget
  split at htarget
  · cases htarget
  · next hpos =>
      obtain ⟨current, hcurrent, rfl⟩ := Option.map_eq_some_iff.mp htarget
      exact ⟨Catalog.slotOf_of_currentEntryAt? hcurrent, _, rfl, hpos⟩

/-- A score that reaches a threshold is a number above zero and not above one. -/
theorem confidence_of_scoreSlot?
    {slot : Nat} (hscore : index.scoreSlot? settings keys slot = some candidate)
    (hreached : threshold ≤ candidate.confidence) :
    (0.0 : Float) < candidate.confidence ∧ candidate.confidence ≤ 1.0 ∧
      threshold ≤ candidate.confidence := by
  obtain ⟨-, score, hconfidence, hpos⟩ := scored_of_scoreSlot? hscore
  have hnan := (isNaN_eq_false_of_le hreached).2
  rw [hconfidence] at hnan hreached ⊢
  exact ⟨lt_of_not_le rfl hnan hpos, quantize_le_one hnan, hreached⟩

/-- Different slots show different entries. -/
theorem pairwise_ids_scoreSlot?
    (index : CandidateIndex) (settings : MatchSettings) (keys : MatchKeys) {slots : List Nat}
    (hslots : slots.Nodup) :
    (slots.filterMap (index.scoreSlot? settings keys)).Pairwise
      fun a b => a.entry.id ≠ b.entry.id := by
  apply List.Pairwise.filterMap _ _ hslots
  intro i j hij a ha b hb hid
  obtain ⟨hi, -⟩ := scored_of_scoreSlot? ha
  obtain ⟨hj, -⟩ := scored_of_scoreSlot? hb
  rw [hid, hj] at hi
  exact hij (Option.some.inj hi).symm

/-- Matching finds the candidate of an ISBN, or it ranks the scores of different slots. -/
theorem matchKeys_cases
    (index : CandidateIndex) (settings : MatchSettings) (keys : MatchKeys) (threshold : Float) :
    (∃ candidate, candidate.confidence = 1.0 ∧
      index.matchKeys settings keys threshold = [candidate]) ∨
    ∃ slots : List Nat, slots.Nodup ∧
      index.matchKeys settings keys threshold =
        rank ((slots.filterMap (index.scoreSlot? settings keys)).filter
          fun c => threshold ≤ c.confidence) := by
  unfold matchKeys
  split
  · refine .inr ⟨[], List.nodup_nil, ?_⟩
    rw [List.filterMap_nil, List.filter_nil, rank, stableSort_eq_mergeSort, List.mergeSort_nil]
  · split
    · next candidate hexact =>
        obtain ⟨isbn, -, hisbn⟩ := Option.bind_eq_some_iff.mp hexact
        rw [exactCandidate?_eq] at hisbn
        obtain ⟨slot, -, hslot⟩ := Option.bind_eq_some_iff.mp hisbn
        obtain ⟨current, -, rfl⟩ := Option.map_eq_some_iff.mp hslot
        exact .inl ⟨_, rfl, rfl⟩
    · exact .inr ⟨_, index.nodup_tokenSlots _ _ _, rfl⟩

/-- The candidates of a match are ranked. -/
theorem rank_matchKeys
    (index : CandidateIndex) (settings : MatchSettings) (keys : MatchKeys) (threshold : Float) :
    rank (index.matchKeys settings keys threshold) =
      index.matchKeys settings keys threshold := by
  apply rank_of_pairwise
  rcases index.matchKeys_cases settings keys threshold with ⟨exact, -, heq⟩ | ⟨slots, -, heq⟩
  · rw [heq]
    exact List.pairwise_singleton _ _
  · rw [heq]
    exact pairwise_ranksBefore_rank _

/-- Candidates reach the threshold, and their confidences are above zero and not above one. -/
theorem confidence_of_mem_matchKeys
    (hthreshold : threshold ≤ 1.0) (hmem : candidate ∈ index.matchKeys settings keys threshold) :
    (0.0 : Float) < candidate.confidence ∧ candidate.confidence ≤ 1.0 ∧
      threshold ≤ candidate.confidence := by
  rcases index.matchKeys_cases settings keys threshold with
    ⟨exact, hconfidence, heq⟩ | ⟨slots, -, heq⟩
  · rw [heq, List.mem_singleton] at hmem
    rw [hmem, hconfidence]
    exact ⟨by decide, by decide, hthreshold⟩
  · rw [heq, mem_rank, List.mem_filter, List.mem_filterMap, decide_eq_true_eq] at hmem
    obtain ⟨⟨slot, -, hscore⟩, hreached⟩ := hmem
    exact confidence_of_scoreSlot? hscore hreached

/-- No two candidates show the same entry. -/
theorem pairwise_ids_matchKeys
    (index : CandidateIndex) (settings : MatchSettings) (keys : MatchKeys) (threshold : Float) :
    (index.matchKeys settings keys threshold).Pairwise fun a b => a.entry.id ≠ b.entry.id := by
  rcases index.matchKeys_cases settings keys threshold with
    ⟨exact, -, heq⟩ | ⟨slots, hslots, heq⟩
  · rw [heq]
    exact List.pairwise_singleton _ _
  · have hscored := index.pairwise_ids_scoreSlot? settings keys hslots
    rw [heq]
    exact (hscored.filter _).perm (rank_perm _).symm Ne.symm

end CandidateIndex

end Repricing
