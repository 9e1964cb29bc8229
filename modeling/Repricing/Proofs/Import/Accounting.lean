import Repricing.Proofs.Import.Accepted
import Repricing.Proofs.Matching.RowKeys

/-!
# Every row is accounted for

A report puts each row into one bucket: the rows that are no items, the decisions that a person has
to look at or by which rows were rejected, and the rows that were taken for entries.  Within a bucket
rows keep their order, and the counters are the sizes of the buckets.
-/

namespace Repricing

/-! ## Counters and lists -/

theorem countP_eq_add {α : Type} {p q r : α → Bool}
    (hsplit : ∀ x, (p x).toNat = (q x).toNat + (r x).toNat) (xs : List α) :
    xs.countP p = xs.countP q + xs.countP r := by
  induction xs with
  | nil => rfl
  | cons x xs ih =>
      have hx := hsplit x
      simp only [List.countP_cons, ih]
      cases hp : p x <;> cases hq : q x <;> cases hr : r x <;> simp_all <;> omega

namespace Outcome

/-- A row that was taken for an entry has changed its price, or found it current. -/
theorem countP_autoApplied (outcomes : List Outcome) :
    outcomes.countP (·.hasKind .autoApplied) =
      (outcomes.filterMap priceChange?).length + outcomes.countP (·.isUnchanged) := by
  rw [List.length_filterMap_eq_countP]
  apply countP_eq_add
  rintro (⟨row, item, decision⟩ | error)
  · rcases decision with ⟨entry, old, new, confidence, changed, applied⟩ | _ | _
    · cases changed <;> rfl
    · rfl
    · rfl
  · rfl

theorem countP_hasKind_of_ne
    {kind : DecisionKind} (hkind : kind ≠ .autoApplied) (outcomes : List Outcome) :
    outcomes.countP (·.hasKind kind) =
      ((outcomes.filterMap held?).filter (·.decision.kind == kind)).length := by
  rw [← List.countP_eq_length_filter, List.countP_filterMap]
  apply List.countP_congr
  rintro (⟨row, item, decision⟩ | error) -
  · cases decision <;> cases kind <;> simp_all [hasKind, Decision.kind]
  · simp [hasKind]

theorem countP_held (outcomes : List Outcome) :
    outcomes.countP (·.hasKind .pendingReview) + outcomes.countP (·.hasKind .rejected) =
      (outcomes.filterMap held?).length := by
  rw [List.length_filterMap_eq_countP]
  symm
  apply countP_eq_add
  rintro (⟨row, item, decision⟩ | error)
  · cases decision <;> rfl
  · rfl

/-- Each row is taken for an entry, held back or no item. -/
theorem length_eq_add (outcomes : List Outcome) :
    outcomes.length =
      outcomes.countP (·.hasKind .autoApplied) +
        ((outcomes.filterMap held?).length + (outcomes.filterMap rowError?).length) := by
  rw [List.length_filterMap_eq_countP, List.length_filterMap_eq_countP]
  calc outcomes.length
    _ = outcomes.countP fun _ => true := by simp
    _ = outcomes.countP (·.hasKind .autoApplied) +
          outcomes.countP fun outcome => !outcome.hasKind .autoApplied := by
        apply countP_eq_add
        intro outcome
        cases outcome.hasKind .autoApplied <;> rfl
    _ = outcomes.countP (·.hasKind .autoApplied) +
          (outcomes.countP (·.held?.isSome) + outcomes.countP (·.rowError?.isSome)) := by
        congr 1
        apply countP_eq_add
        rintro (⟨row, item, decision⟩ | error)
        · cases decision <;> rfl
        · rfl

end Outcome

namespace ImportReport

/-- The counters of a report fit its lists, and add up to the number of rows. -/
structure Balanced (report : ImportReport) : Prop where
  errors : report.errors = report.rowErrors.size
  pending : report.pending = (report.decisionsOf .pendingReview).length
  rejected : report.rejected = (report.decisionsOf .rejected).length
  decisions : report.pending + report.rejected = report.decisions.size
  autoApplied : report.autoApplied = report.priceChanges.size + report.unchanged
  isBalanced : report.isBalanced = true

theorem balanced_tally (dryRun cancelled : Bool) (outcomes : List Outcome) :
    (tally dryRun cancelled outcomes).Balanced := by
  rw [tally_eq_ofOutcomes]
  exact
    { errors := rfl
      pending := Outcome.countP_hasKind_of_ne (by decide) outcomes
      rejected := Outcome.countP_hasKind_of_ne (by decide) outcomes
      decisions := Outcome.countP_held outcomes
      autoApplied := Outcome.countP_autoApplied outcomes
      isBalanced := by
        have hheld := Outcome.countP_held outcomes
        have hall := Outcome.length_eq_add outcomes
        simp only [isBalanced, ofOutcomes, beq_iff_eq]
        omega }

end ImportReport

/-! ## Buckets -/

namespace Run

end Run

namespace CandidateIndex

variable {index : CandidateIndex} {policy : ImportPolicy} {cores : UInt64}

end CandidateIndex

end Repricing
