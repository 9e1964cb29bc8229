import Repricing.Proofs.Matching.Ranking
import Repricing.Proofs.Reconcile.Branches
import Repricing.Proofs.Reconcile.History

/-!
# The decision table

Seven things can become of an item, and the confidences of its two best candidates together with the
entry of the best one say which.  The table of them is complete and without overlaps, so that each
verdict is reached under its own conditions and under no others.
-/

namespace Repricing

/-! ## Verdicts -/

/-- What is decided about an item, apart from what is shown of it. -/
inductive Verdict where
  | rejected (reason : RejectReason) (best : Option Float)
  | review (reason : ReviewReason)
  | taken (id : CatalogId)
deriving DecidableEq

/-- The verdict of a decision. -/
def Decision.verdict : Decision → Verdict
  | .autoApplied entry _ _ _ _ _ => .taken entry.id
  | .pendingReview reason _ _ _ => .review reason
  | .rejected reason best => .rejected reason best

theorem Decision.verdict_eq_rejected_iff
    {decision : Decision} {reason : RejectReason} {best : Option Float} :
    decision.verdict = .rejected reason best ↔ decision = .rejected reason best := by
  cases decision <;> simp [verdict]

namespace ReconcilePolicy

variable {policy : ReconcilePolicy} {commit : Bool} {item : Item} {c after : Catalog}
  {top : Candidate} {others ranked : List Candidate} {decision : Decision}

/-- The candidate in second place is worth a look and not far enough from the first one. -/
def HasCloseSecond (policy : ReconcilePolicy) (top : Candidate) (others : List Candidate) : Prop :=
  ∃ second ∈ others.head?, policy.reviewMin ≤ second.confidence ∧
    top.confidence - second.confidence ≤ policy.ambiguityBand + bandTolerance

/-- The best candidate reaches both thresholds, and no other one is close to it. -/
structure StandsOut (policy : ReconcilePolicy) (top : Candidate) (others : List Candidate) :
    Prop where
  review : policy.reviewMin ≤ top.confidence
  alone : ¬ policy.HasCloseSecond top others
  high : policy.autoApplyMin ≤ top.confidence

/-- The verdict that is due to an item with ranked candidates. -/
inductive Due (policy : ReconcilePolicy) (item : Item) (c : Catalog) :
    List Candidate → Verdict → Prop
  | noCandidate : Due policy item c [] (.rejected .noMatch none)
  | belowThreshold {top : Candidate} {others : List Candidate}
      (hbelow : top.confidence < policy.reviewMin) :
      Due policy item c (top :: others) (.rejected .belowThreshold (some top.confidence))
  | ambiguous {top : Candidate} {others : List Candidate}
      (hreview : policy.reviewMin ≤ top.confidence)
      (hclose : policy.HasCloseSecond top others) :
      Due policy item c (top :: others) (.review .ambiguous)
  | lowConfidence {top : Candidate} {others : List Candidate}
      (hreview : policy.reviewMin ≤ top.confidence)
      (halone : ¬ policy.HasCloseSecond top others)
      (hlow : top.confidence < policy.autoApplyMin) :
      Due policy item c (top :: others) (.review .lowConfidence)
  | unknownEntry {top : Candidate} {others : List Candidate}
      (hstands : policy.StandsOut top others) (hget : c.get? top.entry.id = none) :
      Due policy item c (top :: others) (.rejected .noMatch (some top.confidence))
  | currencyMismatch {top : Candidate} {others : List Candidate} {entry : CatalogEntry}
      (hstands : policy.StandsOut top others) (hget : c.get? top.entry.id = some entry)
      (hcurrency : item.price.currency ≠ entry.price.currency) :
      Due policy item c (top :: others) (.review .currencyMismatch)
  | taken {top : Candidate} {others : List Candidate} {entry : CatalogEntry}
      (hstands : policy.StandsOut top others) (hget : c.get? top.entry.id = some entry)
      (hcurrency : item.price.currency = entry.price.currency) :
      Due policy item c (top :: others) (.taken top.entry.id)

/-- No two rows of the table apply. -/
theorem Due.unique
    {verdict other : Verdict} (hdue : policy.Due item c ranked verdict)
    (hother : policy.Due item c ranked other) :
    verdict = other := by
  -- Two rows contradict each other about a threshold, the second candidate or the entry.
  cases hdue <;> cases hother <;> grind [not_lt_of_le, StandsOut]

theorem due_noCandidate_iff :
    policy.Due item c ranked (.rejected .noMatch none) ↔ ranked = [] := by
  constructor
  · intro hdue
    cases hdue
    rfl
  · rintro rfl
    exact .noCandidate

theorem isAmbiguous_eq_true_iff :
    policy.isAmbiguous top.confidence others.head? = true ↔ policy.HasCloseSecond top others := by
  unfold isAmbiguous HasCloseSecond
  cases others.head? <;> simp

theorem isAmbiguous_eq_false_iff :
    policy.isAmbiguous top.confidence others.head? = false ↔
      ¬ policy.HasCloseSecond top others := by
  rw [← isAmbiguous_eq_true_iff, Bool.not_eq_true]

theorem Sensible.reviewMin_le
    (hsensible : policy.Sensible) (htop : top.confidence ≤ 1.0)
    (hreview : ¬ top.confidence < policy.reviewMin) :
    policy.reviewMin ≤ top.confidence :=
  le_of_not_lt_of_le htop hsensible.reviewMin.2 hreview

theorem Clears.standsOut
    (hclears : policy.Clears top others) (hsensible : policy.Sensible)
    (htop : top.confidence ≤ 1.0) :
    policy.StandsOut top others where
  review := hsensible.reviewMin_le htop hclears.review
  alone := isAmbiguous_eq_false_iff.mp hclears.unambiguous
  high := le_of_not_lt_of_le htop hsensible.autoApplyMin.2 hclears.high

/-- The decisions that are made are due. -/
theorem Concludes.due
    (hsensible : policy.Sensible)
    (hone : ∀ candidate ∈ ranked, candidate.confidence ≤ 1.0)
    (hconcludes : policy.Concludes commit item c ranked decision after) :
    policy.Due item c ranked decision.verdict := by
  cases hconcludes with
  | noMatch => exact .noCandidate
  | belowThreshold hbelow => exact .belowThreshold hbelow
  | ambiguous hreview hambiguous =>
      exact .ambiguous (hsensible.reviewMin_le (hone _ List.mem_cons_self) hreview)
        (isAmbiguous_eq_true_iff.mp hambiguous)
  | lowConfidence hreview hunambiguous hlow =>
      exact .lowConfidence (hsensible.reviewMin_le (hone _ List.mem_cons_self) hreview)
        (isAmbiguous_eq_false_iff.mp hunambiguous) hlow
  | unknown hclears hget =>
      exact .unknownEntry (hclears.standsOut hsensible (hone _ List.mem_cons_self)) hget
  | currencyMismatch hclears hget hcurrency =>
      exact .currencyMismatch (hclears.standsOut hsensible (hone _ List.mem_cons_self)) hget
        hcurrency
  | autoApplied hclears hget hcurrency _ _ hcurrent =>
      rw [Decision.verdict, Catalog.id_of_get? hcurrent]
      exact .taken (hclears.standsOut hsensible (hone _ List.mem_cons_self)) hget hcurrency

end ReconcilePolicy

/-! ## What comes with a decision -/

/-- The candidate as a reviewer sees it: with its entry at the current price, if the catalog has the
entry. -/
structure Candidate.ShownAs (c : Catalog) (candidate shown : Candidate) : Prop where
  confidence : shown.confidence = candidate.confidence
  matchedFields : shown.matchedFields = candidate.matchedFields
  known : ∀ entry ∈ c.get? candidate.entry.id,
    shown.entry = entry ∧ c.currentPrice candidate.entry.id = .ok shown.entry.price
  unknown : c.get? candidate.entry.id = none → shown.entry = candidate.entry

theorem Candidate.shownAs_refresh (c : Catalog) (candidate : Candidate) :
    candidate.ShownAs c (ReconcilePolicy.refresh c candidate) where
  confidence := rfl
  matchedFields := rfl
  known entry hget := by
    rw [entry_refresh_of_get? hget]
    exact ⟨rfl, Catalog.currentPrice_of_get? hget⟩
  unknown hget := by rw [refresh_of_unknown hget]

namespace ReconcilePolicy

variable {policy : ReconcilePolicy} {commit : Bool} {item : Item} {c after : Catalog}
  {top : Candidate} {others ranked : List Candidate} {decision : Decision}

/-- What a decision tells besides its verdict, and what becomes of the catalog.  A reviewer is shown
the ranked candidates that are worth a look.  Only an item that is taken for an entry writes a
price, and only if it differs from the current one and prices are to be written. -/
def Reports (policy : ReconcilePolicy) (commit : Bool) (item : Item) (c after : Catalog)
    (ranked : List Candidate) : Decision → Prop
  | .rejected _ _ => after = c
  | .pendingReview _ shown confidence proposed =>
    after = c ∧
      List.Forall₂ (Candidate.ShownAs c)
        (ranked.filter fun candidate => policy.reviewMin ≤ candidate.confidence) shown ∧
      (∃ top ∈ ranked.head?, confidence = top.confidence) ∧
      proposed = item.price
  | .autoApplied entry old new confidence changed applied =>
    (∃ top ∈ ranked.head?, confidence = top.confidence) ∧
      c.currentPrice entry.id = .ok old ∧
      new = item.price ∧
      changed = old.differsFrom new (policy.epsilonFor new.currency) ∧
      applied = (changed && commit) ∧
      after.get? entry.id = some entry ∧
      (applied = false → after = c) ∧
      (applied = true → c.Writes entry.id new after)

theorem reports_pending
    (policy : ReconcilePolicy) (commit : Bool) (item : Item) (reason : ReviewReason) (c : Catalog)
    (htop : policy.reviewMin ≤ top.confidence) :
    policy.Reports commit item c c (top :: others)
      (policy.pending item reason (top :: others) c) := by
  refine ⟨rfl, ?_, ⟨top, rfl, ?_⟩, rfl⟩
  · rw [List.forall₂_map_right_iff, List.forall₂_same]
    intro candidate _
    exact candidate.shownAs_refresh c
  · rw [List.filter_cons_of_pos (by simpa using htop)]
    rfl

theorem reports_autoApplied
    {update : PriceUpdate} {current : CatalogEntry}
    (hoffer : c.applyPrice top.entry.id item.price (policy.epsilonFor item.price.currency) commit =
      .ok (update, after))
    (hcurrent : after.get? top.entry.id = some current) :
    policy.Reports commit item c after (top :: others)
      (.autoApplied current update.old update.new top.confidence update.changed
        update.applied) := by
  have hid : current.id = top.entry.id := Catalog.id_of_get? hcurrent
  have hnew := Catalog.new_of_applyPrice hoffer
  refine ⟨⟨top, rfl, rfl⟩, ?_, hnew, ?_, Catalog.applied_of_applyPrice hoffer, ?_,
    Catalog.eq_of_applyPrice_of_not_applied hoffer, ?_⟩
  · rw [hid, Catalog.currentPrice_of_applyPrice hoffer]
  · obtain ⟨_, _, -, -, -, rfl, -⟩ := Catalog.applyPrice_eq_ok_iff.mp hoffer
    rfl
  · rw [hid, hcurrent]
  · intro happlied
    rw [hid, hnew]
    exact Catalog.writes_of_applyPrice hoffer happlied

/-- What is reported with a decision about an item whose candidates are ranked. -/
theorem Concludes.reports
    (hsensible : policy.Sensible)
    (hone : ∀ candidate ∈ ranked, candidate.confidence ≤ 1.0)
    (hconcludes : policy.Concludes commit item c ranked decision after) :
    policy.Reports commit item c after ranked decision := by
  cases hconcludes with
  | noMatch => rfl
  | belowThreshold => rfl
  | unknown => rfl
  | ambiguous hreview _ =>
      exact policy.reports_pending commit item .ambiguous c
        (hsensible.reviewMin_le (hone _ List.mem_cons_self) hreview)
  | lowConfidence hreview _ _ =>
      exact policy.reports_pending commit item .lowConfidence c
        (hsensible.reviewMin_le (hone _ List.mem_cons_self) hreview)
  | currencyMismatch hclears _ _ =>
      exact policy.reports_pending commit item .currencyMismatch c
        (hclears.standsOut hsensible (hone _ List.mem_cons_self)).review
  | autoApplied _ _ _ hoffer _ hcurrent => exact reports_autoApplied hoffer hcurrent

/-! ## Reconciliations -/

/-- A reconciliation of candidates with confidences from zero to one comes to the verdict that is
due, and to no other one, and reports and writes what goes with it. -/
theorem reconcile_verdict
    (hvalid : policy.validate = .ok ()) (commit : Bool) (item : Item) (c : Catalog)
    {candidates : List Candidate}
    (hunit : ∀ candidate ∈ candidates,
      (0.0 : Float) ≤ candidate.confidence ∧ candidate.confidence ≤ 1.0) :
    let ranked := rank candidates
    let result := policy.reconcile commit item candidates c
    ranked.Perm candidates ∧ (ranked.Pairwise fun a b => a.ranksBefore b = true) ∧
      (result.1 = .rejected .noMatch none ↔ candidates = []) ∧
      (∀ verdict, result.1.verdict = verdict ↔ policy.Due item c ranked verdict) ∧
      policy.Reports commit item c result.2 ranked result.1 := by
  have hsensible := sensible_of_valid hvalid
  have hone : ∀ candidate ∈ rank candidates, candidate.confidence ≤ 1.0 :=
    fun candidate hmem => (hunit candidate (mem_rank.mp hmem)).2
  obtain ⟨decision, after, heq, hconcludes⟩ :=
    policy.concludes_decideRanked commit item c (rank candidates)
  have hdue := hconcludes.due hsensible hone
  dsimp only [reconcile]
  rw [heq]
  have hverdict : ∀ verdict, decision.verdict = verdict ↔
      policy.Due item c (rank candidates) verdict := by
    intro verdict
    constructor
    · rintro rfl
      exact hdue
    · exact hdue.unique
  refine ⟨rank_perm candidates, pairwise_ranksBefore_rank candidates, ?_, hverdict,
    hconcludes.reports hsensible hone⟩
  rw [← Decision.verdict_eq_rejected_iff, hverdict, due_noCandidate_iff,
    ← List.length_eq_zero_iff, (rank_perm candidates).length_eq, List.length_eq_zero_iff]

/-- An edition of a book. -/
def edition (id : UInt64) (amount : Float) : CatalogEntry :=
  { id := ⟨id⟩
    isbn := none
    title := "War and Peace"
    author := "Leo Tolstoy"
    publisher := ""
    price := ⟨amount, .rub⟩
    publicationYear := none }

/-- A catalog of two editions. -/
def editions : Catalog where
  entries := #[edition 1 750.0, edition 2 900.0]
  prices := #[⟨750.0, .rub⟩, ⟨900.0, .rub⟩]
  ascending := by decide
  size_prices := rfl

/-- An offer for the book. -/
def editionOffer : Item :=
  { row := 1
    sku := none
    isbn := none
    title := "War and Peace"
    author := "Leo Tolstoy"
    publisher := ""
    price := ⟨850.0, .rub⟩
    stock := 0 }

/-- The editions as candidates, the second one first. -/
def editionCandidates (first second : Float) : List Candidate :=
  [⟨edition 2 900.0, second, { title := true, author := true }⟩,
   ⟨edition 1 750.0, first, { title := true, author := true }⟩]

/-- The offer is taken for the first edition, since the second one is far behind. -/
theorem reconcile_verdict_editions :
    (reconcile {} true editionOffer (editionCandidates 0.95 0.6) editions).1.verdict =
      .taken ⟨1⟩ := by
  obtain ⟨-, -, -, hverdict, -⟩ :=
    reconcile_verdict (rfl : ({} : ReconcilePolicy).validate = .ok ()) true editionOffer editions
      (show ∀ candidate ∈ editionCandidates 0.95 0.6, _ by decide +kernel)
  have hranked : rank (editionCandidates 0.95 0.6) = (editionCandidates 0.95 0.6).reverse := by
    decide +kernel
  have hget : editions.get? ⟨1⟩ = some (edition 1 750.0) := by decide +kernel
  rw [hverdict, hranked]
  exact .taken
    ⟨by decide +kernel, isAmbiguous_eq_false_iff.mp (by decide +kernel), by decide +kernel⟩
    hget rfl

end ReconcilePolicy

end Repricing
