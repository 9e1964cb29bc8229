import Mathlib.Data.List.Induction
import Repricing.Import.Report

/-!
# What a report says of its outcomes

A report is worked out by adding one outcome after the other.  Here it is read off the outcomes at
once: its lists are the outcomes of a kind in their order, and its counters count them.
-/

namespace Repricing

namespace Outcome

/-- The error of a skipped row. -/
@[simp] def rowError? : Outcome → Option RowError
  | .failed error => some error
  | .decided _ => none

/-- The decision about a row. -/
@[simp] def decision? : Outcome → Option Decision
  | .failed _ => none
  | .decided record => some record.decision

/-- The decision that a person has to look at, or by which the row was rejected. -/
@[simp] def held? : Outcome → Option DecisionRecord
  | .failed _ => none
  | .decided record => if record.decision.kind = .autoApplied then none else some record

/-- The price change that the outcome gives rise to. -/
@[simp] def priceChange? : Outcome → Option PriceChange
  | .decided ⟨row, _, .autoApplied entry old new _ true applied⟩ =>
      some { row, entry := entry.id, old, new, applied }
  | _ => none

/-- Whether the outcome is a decision of a kind. -/
def hasKind (kind : DecisionKind) (outcome : Outcome) : Bool :=
  outcome.decision?.any (·.kind = kind)

/-- Whether the row was taken for an entry whose price was current already. -/
def isUnchanged (outcome : Outcome) : Bool :=
  outcome.hasKind .autoApplied && outcome.priceChange?.isNone

/-- Whether a price was written. -/
def wrote (outcome : Outcome) : Bool :=
  outcome.decision?.any Decision.mutated

end Outcome

namespace ImportReport

/-- The report that outcomes amount to. -/
def ofOutcomes (dryRun cancelled : Bool) (outcomes : List Outcome) : ImportReport :=
  { cancelled
    dryRun
    total := outcomes.length
    autoApplied := outcomes.countP (·.hasKind .autoApplied)
    unchanged := outcomes.countP (·.isUnchanged)
    pending := outcomes.countP (·.hasKind .pendingReview)
    rejected := outcomes.countP (·.hasKind .rejected)
    errors := (outcomes.filterMap Outcome.rowError?).length
    rowErrors := (outcomes.filterMap Outcome.rowError?).toArray
    decisions := (outcomes.filterMap Outcome.held?).toArray
    priceChanges := (outcomes.filterMap Outcome.priceChange?).toArray }

theorem add_ofOutcomes
    (dryRun cancelled : Bool) (outcomes : List Outcome) (outcome : Outcome) :
    (ofOutcomes dryRun cancelled outcomes).add outcome =
      ofOutcomes dryRun cancelled (outcomes ++ [outcome]) := by
  rcases outcome with ⟨row, item, decision⟩ | error
  · cases decision with
    | autoApplied entry old new confidence changed applied =>
        cases changed <;>
          simp [ofOutcomes, add, addDecision, Outcome.isUnchanged, Outcome.hasKind,
            Decision.kind]
    | pendingReview reason candidates confidence price =>
        simp [ofOutcomes, add, addDecision, Outcome.isUnchanged, Outcome.hasKind, Decision.kind]
    | rejected reason best =>
        simp [ofOutcomes, add, addDecision, Outcome.isUnchanged, Outcome.hasKind, Decision.kind]
  · simp [ofOutcomes, add, Outcome.isUnchanged, Outcome.hasKind]

/-- Adding outcomes one after the other gives the report that they amount to. -/
theorem tally_eq_ofOutcomes (dryRun cancelled : Bool) (outcomes : List Outcome) :
    tally dryRun cancelled outcomes = ofOutcomes dryRun cancelled outcomes := by
  induction outcomes using List.reverseRecOn with
  | nil => rfl
  | append_singleton outcomes outcome ih =>
      rw [tally, List.foldl_append, ← tally, ih]
      exact add_ofOutcomes dryRun cancelled outcomes outcome

end ImportReport

end Repricing
