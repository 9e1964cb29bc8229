import Repricing.PriceList.Row
import Repricing.Reconcile.Decision

/-!
# Import reports

A report counts the outcomes of a run, and lists the skipped rows, the items that a person has to look
at or that were rejected, and the prices that changed.
-/

namespace Repricing

/-- A decision with the item that it is about. -/
structure DecisionRecord where
  row : UInt64
  item : Item
  decision : Decision
deriving DecidableEq

/-- A price that changed, or would change in a run that is not dry. -/
structure PriceChange where
  row : UInt64
  entry : CatalogId
  old : Money
  new : Money
  applied : Bool
deriving DecidableEq

/-- What came of a row. -/
inductive Outcome where
  | decided (record : DecisionRecord)
  | failed (error : RowError)
deriving DecidableEq

/-- The report of a run. -/
structure ImportReport where
  cancelled : Bool
  dryRun : Bool
  total : Nat := 0
  autoApplied : Nat := 0
  /-- Items taken over whose prices were current already. -/
  unchanged : Nat := 0
  pending : Nat := 0
  rejected : Nat := 0
  errors : Nat := 0
  rowErrors : Array RowError := #[]
  /-- Items that a person has to look at or that were rejected, in the order of their rows. -/
  decisions : Array DecisionRecord := #[]
  priceChanges : Array PriceChange := #[]
deriving DecidableEq

namespace ImportReport

/-- Adds a decision. -/
def addDecision (report : ImportReport) (record : DecisionRecord) : ImportReport :=
  match record.decision with
  | .autoApplied entry old new _ priceChanged applied =>
    if priceChanged then
      let change := { row := record.row, entry := entry.id, old, new, applied }
      { report with
        autoApplied := report.autoApplied + 1
        priceChanges := report.priceChanges.push change }
    else
      { report with
        autoApplied := report.autoApplied + 1
        unchanged := report.unchanged + 1 }
  | .pendingReview .. =>
    { report with pending := report.pending + 1, decisions := report.decisions.push record }
  | .rejected .. =>
    { report with rejected := report.rejected + 1, decisions := report.decisions.push record }

/-- Adds the outcome of the next row. -/
def add (report : ImportReport) (outcome : Outcome) : ImportReport :=
  match outcome with
  | .decided record => { report with total := report.total + 1 }.addDecision record
  | .failed error =>
    { report with
      total := report.total + 1
      errors := report.errors + 1
      rowErrors := report.rowErrors.push error }

/-- The report of outcomes in the order of their rows. -/
def tally (dryRun cancelled : Bool) (outcomes : List Outcome) : ImportReport :=
  outcomes.foldl add { cancelled, dryRun }

/-- The decisions of a kind. -/
def decisionsOf (report : ImportReport) (kind : DecisionKind) : List DecisionRecord :=
  report.decisions.toList.filter (·.decision.kind == kind)

/-- Whether every row is counted once. -/
def isBalanced (report : ImportReport) : Bool :=
  report.autoApplied + report.pending + report.rejected + report.errors == report.total

end ImportReport

end Repricing
