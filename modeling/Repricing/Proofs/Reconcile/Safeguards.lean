import Repricing.Proofs.Reconcile.Verdict

/-!
# Safeguards against wrong prices

An item is taken over unless a threshold holds it off.  A threshold asks whether a confidence is
below it, and what is no number never is.  So the thresholds hold off candidates with too low a
confidence, and two that are close to each other if both are worth a look, but not a candidate whose
confidence is no number.
-/

namespace Repricing

namespace ReconcilePolicy

variable {policy : ReconcilePolicy} {commit : Bool} {item : Item} {c after : Catalog}
  {top : Candidate} {candidates others ranked : List Candidate} {decision : Decision}

/-- The item is taken for an entry, or a price is written. -/
def TakesOver (policy : ReconcilePolicy) (commit : Bool) (item : Item)
    (candidates : List Candidate) (c : Catalog) : Prop :=
  (policy.reconcile commit item candidates c).1.kind = .autoApplied ∨
    (policy.reconcile commit item candidates c).2 ≠ c

/-- Nothing keeps the item from being taken for its best candidate. -/
structure Takes (policy : ReconcilePolicy) (item : Item) (c : Catalog) (top : Candidate)
    (others : List Candidate) : Prop where
  clears : policy.Clears top others
  known : ∃ entry, c.get? top.entry.id = some entry ∧ item.price.currency = entry.price.currency

theorem Concludes.takes_iff (hconcludes : policy.Concludes commit item c ranked decision after) :
    (decision.kind = .autoApplied ∨ after ≠ c) ↔
      ∃ top others, ranked = top :: others ∧ policy.Takes item c top others := by
  constructor
  · intro htakes
    cases hconcludes with
    | autoApplied hclears hget hcurrency => exact ⟨_, _, rfl, hclears, _, hget, hcurrency⟩
    | _ => simp [Decision.kind, pending] at htakes
  · rintro ⟨top, others, rfl, hclears, entry, hknown, hsame⟩
    cases hconcludes with
    | belowThreshold hbelow => exact (hclears.review hbelow).elim
    | ambiguous _ hambiguous => cases hclears.unambiguous.symm.trans hambiguous
    | lowConfidence _ _ hlow => exact (hclears.high hlow).elim
    | unknown _ hget => cases hknown.symm.trans hget
    | currencyMismatch _ hget hcurrency =>
        obtain rfl := Option.some.inj (hknown.symm.trans hget)
        exact (hcurrency hsame).elim
    | autoApplied => exact .inl rfl

/-- An item is taken over if its best candidate is held off by no threshold, and the catalog has the
entry of this candidate in the currency of the item. -/
theorem takesOver_iff :
    policy.TakesOver commit item candidates c ↔
      ∃ top others, rank candidates = top :: others ∧ policy.Takes item c top others := by
  obtain ⟨decision, after, heq, hconcludes⟩ :=
    policy.concludes_decideRanked commit item c (rank candidates)
  rw [TakesOver, reconcile, heq]
  exact hconcludes.takes_iff

/-! ## Low confidences -/

/-- What is no number is below no threshold, and close to no other confidence. -/
theorem clears_of_isNaN (hnan : top.confidence.isNaN = true) : policy.Clears top others where
  review hbelow := not_le_of_isNaN hnan (le_of_lt hbelow)
  unambiguous := by
    rw [isAmbiguous_eq_false_iff]
    rintro ⟨second, -, -, hclose⟩
    exact not_le_of_isNaN (isNaN_sub_left hnan second.confidence) hclose
  high hlow := not_le_of_isNaN hnan (le_of_lt hlow)

/-- Whatever the confidences are, an item is taken over only if the best one reaches the threshold
for this, unless the best one is no number and the item could be taken for its entry. -/
theorem takesOver_safe_iff
    (hvalid : policy.validate = .ok ()) (commit : Bool) (item : Item)
    (candidates : List Candidate) (c : Catalog) :
    (policy.TakesOver commit item candidates c →
        ∃ top ∈ (rank candidates).head?, policy.autoApplyMin ≤ top.confidence) ↔
      ∀ top ∈ (rank candidates).head?, top.confidence.isNaN = true →
        ∀ entry ∈ c.get? top.entry.id, item.price.currency ≠ entry.price.currency := by
  constructor
  · intro hsafe top htop hnan entry hget hcurrency
    obtain ⟨others, hranked⟩ : ∃ others, rank candidates = top :: others :=
      List.head?_eq_some_iff.mp htop
    obtain ⟨top', htop', hreached⟩ := hsafe (takesOver_iff.mpr
      ⟨top, others, hranked, clears_of_isNaN hnan, entry, hget, hcurrency⟩)
    obtain rfl := Option.some.inj (htop.symm.trans htop')
    rw [(isNaN_eq_false_of_le hreached).2] at hnan
    cases hnan
  · intro hnumber htakes
    obtain ⟨top, others, hranked, hclears, entry, hget, hcurrency⟩ := takesOver_iff.mp htakes
    have htop : top ∈ (rank candidates).head? := by rw [hranked]; rfl
    have hnan : top.confidence.isNaN = false := by
      rw [← Bool.not_eq_true]
      intro hnan
      exact hnumber top htop hnan entry hget hcurrency
    exact ⟨top, htop, le_of_not_lt hnan
      (isNaN_eq_false_of_le (sensible_of_valid hvalid).autoApplyMin.2).1 hclears.high⟩

/-- The offer is taken over because its best candidate reaches the threshold. -/
theorem takesOver_safe_iff_editions :
    TakesOver {} true editionOffer (editionCandidates 0.95 0.6) editions ∧
      ∃ top ∈ (rank (editionCandidates 0.95 0.6)).head?, (0.9 : Float) ≤ top.confidence := by
  have hnumber : ∀ top ∈ (rank (editionCandidates 0.95 0.6)).head?,
      top.confidence.isNaN = false := by decide +kernel
  have htakes : TakesOver {} true editionOffer (editionCandidates 0.95 0.6) editions :=
    .inl (by decide +kernel)
  refine ⟨htakes, (takesOver_safe_iff (rfl : ({} : ReconcilePolicy).validate = .ok ()) true
    editionOffer _ editions).mpr ?_ htakes⟩
  intro top htop hnan
  rw [hnumber top htop] at hnan
  cases hnan

/-- A candidate whose confidence is no number is ranked first, and its entry gets the price. -/
theorem takesOver_of_notANumber :
    let candidates := editionCandidates (0.0 / 0.0) 0.6
    let result := reconcile {} true editionOffer candidates editions
    ({} : ReconcilePolicy).validate = .ok () ∧
      result.1.kind = .autoApplied ∧
      editions.currentPrice ⟨1⟩ = .ok ⟨750.0, .rub⟩ ∧
      result.2.currentPrice ⟨1⟩ = .ok ⟨850.0, .rub⟩ ∧
      ¬ ∃ top ∈ (rank candidates).head?, (0.9 : Float) ≤ top.confidence := by
  decide +kernel

/-! ## Close confidences -/

/-- The two candidates at the head of a ranking lie between the two highest confidences. -/
theorem exists_heads_of_rank
    {first second : Candidate} {rest : List Candidate}
    (hcandidates : candidates.Perm (first :: second :: rest))
    (hunit : ∀ candidate ∈ candidates,
      (0.0 : Float) ≤ candidate.confidence ∧ candidate.confidence ≤ 1.0)
    (hsecond : second.confidence ≤ first.confidence)
    (hrest : ∀ other ∈ rest, other.confidence ≤ second.confidence) :
    ∃ top next later, rank candidates = top :: next :: later ∧
      second.confidence ≤ next.confidence ∧ next.confidence ≤ top.confidence ∧
      top.confidence ≤ first.confidence := by
  have hdescending := pairwise_confidence_rank hunit
  have hperm := (rank_perm candidates).trans hcandidates
  generalize rank candidates = ranked at hdescending hperm ⊢
  rcases ranked with _ | ⟨top, _ | ⟨next, later⟩⟩
  · cases hperm.length_eq
  · cases hperm.length_eq
  have hnextTop : next.confidence ≤ top.confidence :=
    List.rel_of_pairwise_cons hdescending List.mem_cons_self
  have htopFirst : top.confidence ≤ first.confidence := by
    have htop : top ∈ first :: second :: rest := hperm.mem_iff.mp List.mem_cons_self
    rcases List.mem_cons.mp htop with rfl | htop
    · exact le_self_of_le (hunit _ (hcandidates.mem_iff.mpr List.mem_cons_self)).2
    rcases List.mem_cons.mp htop with rfl | hother
    · exact hsecond
    · exact le_trans_of_le (hrest top hother) hsecond
  -- At most one of the two candidates with the highest confidences is at the head.
  obtain ⟨behind, hbehind, hle⟩ :
      ∃ behind ∈ next :: later, second.confidence ≤ behind.confidence := by
    by_cases htop : first = top
    · subst htop
      exact ⟨second, hperm.cons_inv.mem_iff.mpr List.mem_cons_self, le_self_of_le hsecond⟩
    · have hfirst : first ∈ top :: next :: later := hperm.mem_iff.mpr List.mem_cons_self
      exact ⟨first, (List.mem_cons.mp hfirst).resolve_left htop, hsecond⟩
  have hbehindNext : behind.confidence ≤ next.confidence := by
    rcases List.mem_cons.mp hbehind with rfl | hlater
    · exact le_self_of_le hnextTop
    · exact List.rel_of_pairwise_cons hdescending.of_cons hlater
  exact ⟨top, next, later, rfl, le_trans_of_le hle hbehindNext, hnextTop, htopFirst⟩

/-- An item is not taken over if the two highest confidences are within the ambiguity band of each
other, as long as the second one is worth a look. -/
theorem not_takesOver_of_close
    (hvalid : policy.validate = .ok ()) (commit : Bool) (item : Item) (c : Catalog)
    {first second : Candidate} {rest : List Candidate}
    (hcandidates : candidates.Perm (first :: second :: rest))
    (hunit : ∀ candidate ∈ candidates,
      (0.0 : Float) ≤ candidate.confidence ∧ candidate.confidence ≤ 1.0)
    (hsecond : second.confidence ≤ first.confidence)
    (hrest : ∀ other ∈ rest, other.confidence ≤ second.confidence)
    (hreview : policy.reviewMin ≤ second.confidence)
    (hclose : first.confidence - second.confidence ≤ policy.ambiguityBand) :
    ¬ policy.TakesOver commit item candidates c := by
  intro htakes
  have hsensible := sensible_of_valid hvalid
  obtain ⟨top, next, later, hranked, hsecondNext, hnextTop, htopFirst⟩ :=
    exists_heads_of_rank hcandidates hunit hsecond hrest
  obtain ⟨top', others, hranked', hclears, -⟩ := takesOver_iff.mp htakes
  obtain ⟨rfl, rfl⟩ := List.cons.inj (hranked.symm.trans hranked')
  have hfirstUnit := hunit first (hcandidates.mem_iff.mpr (by simp))
  have hsecondUnit := hunit second (hcandidates.mem_iff.mpr (by simp))
  have htopUnit := hunit top (mem_rank.mp (by simp [hranked]))
  have hnextUnit := hunit next (mem_rank.mp (by simp [hranked]))
  refine isAmbiguous_eq_false_iff.mp hclears.unambiguous ⟨next, rfl, ?_, ?_⟩
  · exact le_trans_of_le hreview hsecondNext
  · exact sub_le_add_of_sub_le hsecondUnit hnextUnit htopUnit hfirstUnit hsensible.ambiguityBand
      (by decide) hsecondNext hnextTop htopFirst hclose

/-- The second edition is too close to the first one. -/
theorem not_takesOver_of_close_editions :
    ¬ TakesOver {} true editionOffer (editionCandidates 0.95 0.92) editions :=
  not_takesOver_of_close (rfl : ({} : ReconcilePolicy).validate = .ok ()) true editionOffer editions
    (List.Perm.swap _ _ _) (by decide +kernel) (by decide +kernel) (by simp) (by decide +kernel)
    (by decide +kernel)

/-- A second edition that is as close, but not worth a look, does not keep the first one from
getting the price. -/
theorem takesOver_despite_close :
    let policy : ReconcilePolicy := { reviewMin := 0.9 }
    let result := policy.reconcile true editionOffer (editionCandidates 0.92 0.88) editions
    policy.validate = .ok () ∧
      (∀ candidate ∈ editionCandidates 0.92 0.88,
        (0.0 : Float) ≤ candidate.confidence ∧ candidate.confidence ≤ 1.0) ∧
      (0.92 : Float) - 0.88 ≤ policy.ambiguityBand ∧
      result.1.kind = .autoApplied ∧
      editions.currentPrice ⟨1⟩ = .ok ⟨750.0, .rub⟩ ∧
      result.2.currentPrice ⟨1⟩ = .ok ⟨850.0, .rub⟩ := by
  decide +kernel

end ReconcilePolicy

end Repricing
