import Repricing.Codec.Product
import Repricing.Import.Report
import Repricing.Import.Validation
import Repricing.Json.Printer

/-!
# JSON forms of candidates, decisions and reports
-/

namespace Repricing

open Json (Encode Decode Surplus encode)

instance : Encode MatchField where
  encode field := .str field.name

instance : Decode MatchField where
  decode? _ := Json.decodeName? MatchField.ofName?

instance : Encode MatchFields where
  encode fields := encode fields.toList

instance : Encode Candidate where
  encode c := .obj [
    ("entry", encode c.entry),
    ("confidence", encode c.confidence),
    ("matched_fields", encode c.matchedFields)]

instance : Encode ReviewReason where
  encode
    | .lowConfidence => .str "low_confidence"
    | .ambiguous => .str "ambiguous"
    | .currencyMismatch => .str "currency_mismatch"

instance : Encode RejectReason where
  encode
    | .noMatch => .str "no_match"
    | .belowThreshold => .str "below_threshold"

instance : Encode DecisionKind where
  encode
    | .autoApplied => .str "auto_applied"
    | .pendingReview => .str "pending_review"
    | .rejected => .str "rejected"

instance : Encode Decision where
  encode
    | .autoApplied entry oldPrice newPrice confidence priceChanged applied => .obj [
      ("kind", encode DecisionKind.autoApplied),
      ("entry", encode entry),
      ("old_price", encode oldPrice),
      ("new_price", encode newPrice),
      ("confidence", encode confidence),
      ("price_changed", encode priceChanged),
      ("applied", encode applied)]
    | .pendingReview reason candidates confidence proposedPrice => .obj [
      ("kind", encode DecisionKind.pendingReview),
      ("reason", encode reason),
      ("candidates", encode candidates),
      ("confidence", encode confidence),
      ("proposed_price", encode proposedPrice)]
    | .rejected reason bestConfidence => .obj [
      ("kind", encode DecisionKind.rejected),
      ("reason", encode reason),
      ("best_confidence", encode bestConfidence)]

instance : Encode PriceUpdate where
  encode update := .obj [
    ("old", encode update.old),
    ("new", encode update.new),
    ("changed", encode update.changed),
    ("applied", encode update.applied)]

instance : Encode DecisionRecord where
  encode record := .obj [
    ("row", encode record.row),
    ("item", encode record.item),
    ("decision", encode record.decision)]

instance : Encode PriceChange where
  encode change := .obj [
    ("row", encode change.row),
    ("entry", encode change.entry),
    ("old", encode change.old),
    ("new", encode change.new),
    ("applied", encode change.applied)]

/-- What marks a run: its identifier, and when it started and finished. -/
structure RunStamp where
  batchId : String
  startedAt : String
  finishedAt : String
deriving DecidableEq, Repr

namespace ImportReport

/-- The entries of a report. -/
def entries (report : ImportReport) : List (String × Json) := [
  ("cancelled", encode report.cancelled),
  ("dry_run", encode report.dryRun),
  ("total", encode report.total),
  ("auto_applied", encode report.autoApplied),
  ("unchanged", encode report.unchanged),
  ("pending", encode report.pending),
  ("rejected", encode report.rejected),
  ("errors", encode report.errors),
  ("row_errors", encode report.rowErrors.toList),
  ("decisions", encode report.decisions.toList),
  ("price_changes", encode report.priceChanges.toList)]

/-- The report with the mark of its run. -/
def stamped (report : ImportReport) (stamp : RunStamp) : Json :=
  .obj (("batch_id", .str stamp.batchId) :: ("started_at", .str stamp.startedAt)
    :: ("finished_at", .str stamp.finishedAt) :: report.entries)

/-- The report as a JSON document. -/
def document (report : ImportReport) (stamp : RunStamp) : String :=
  Json.pretty (report.stamped stamp)

end ImportReport

instance : Encode RowIssue where
  encode i := .obj [
    ("row", encode i.row),
    ("kind", .str i.issue.kindName),
    ("message", .str i.issue.message)]

/-- The entries of a validation report. -/
def ValidationReport.entries (report : ValidationReport) : List (String × Json) := [
  ("total_rows", encode report.totalRows),
  ("invalid_rows", encode report.invalidRows),
  ("errors", encode report.errors),
  ("warnings", encode report.warnings)]

end Repricing
