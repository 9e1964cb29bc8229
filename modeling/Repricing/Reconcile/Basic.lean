import Repricing.Catalog.Basic
import Repricing.PriceList.Row
import Repricing.Reconcile.Decision
import Repricing.Reconcile.Policy

/-!
# Reconciliation

An item and its candidates are turned into a decision. A confident and unambiguous match in the
currency of the entry is taken over; this is the only way in which a price is written.
-/

namespace Repricing

/-- How much farther apart than the ambiguity band two candidates may be for the sake of rounding. -/
def bandTolerance : Float := 1e-9

namespace ReconcilePolicy

/-- Whether the candidate in second place is too close to the first one to tell them apart. -/
def isAmbiguous (policy : ReconcilePolicy) (confidence : Float) (second : Option Candidate) : Bool :=
  match second with
  | none => false
  | some runnerUp =>
    policy.reviewMin ≤ runnerUp.confidence
      && confidence - runnerUp.confidence ≤ policy.ambiguityBand + bandTolerance

/-- A candidate with the current price of its entry, if the catalog has the entry. -/
def refresh (catalog : Catalog) (candidate : Candidate) : Candidate :=
  { candidate with entry := (catalog.get? candidate.entry.id).getD candidate.entry }

/-- Asks a person. Candidates below the review threshold are left out, and the others are shown with
the prices that earlier items have given their entries. -/
def pending (policy : ReconcilePolicy) (item : Item) (reason : ReviewReason)
    (candidates : List Candidate) (catalog : Catalog) : Decision :=
  let shown := (candidates.filter fun c => policy.reviewMin ≤ c.confidence).map (refresh catalog)
  .pendingReview reason shown ((shown.head?.map (·.confidence)).getD 0.0) item.price

/-- Takes the item for the entry of a candidate, if the catalog has the entry and its price is in the
currency of the item. -/
def applyTop (policy : ReconcilePolicy) (commit : Bool) (item : Item) (top : Candidate)
    (ranked : List Candidate) (catalog : Catalog) : Decision × Catalog :=
  let id := top.entry.id
  match catalog.applyPrice id item.price (policy.epsilonFor item.price.currency) commit with
  | .ok (update, catalog) =>
    let entry := (catalog.get? id).getD top.entry
    (.autoApplied entry update.old update.new top.confidence update.changed update.applied, catalog)
  | .error .notFound => (.rejected .noMatch (some top.confidence), catalog)
  | .error _ => (policy.pending item .currencyMismatch ranked catalog, catalog)

/-- Decides about an item with ranked candidates. -/
def decideRanked (policy : ReconcilePolicy) (commit : Bool) (item : Item) (catalog : Catalog) :
    (ranked : List Candidate) → Decision × Catalog
  | [] => (.rejected .noMatch none, catalog)
  | top :: others =>
    let confidence := top.confidence
    if confidence < policy.reviewMin then
      (.rejected .belowThreshold (some confidence), catalog)
    else if policy.isAmbiguous confidence others.head? then
      (policy.pending item .ambiguous (top :: others) catalog, catalog)
    else if confidence < policy.autoApplyMin then
      (policy.pending item .lowConfidence (top :: others) catalog, catalog)
    else policy.applyTop commit item top (top :: others) catalog

/-- Decides about an item. With `commit` off, no price is written. -/
def reconcile (policy : ReconcilePolicy) (commit : Bool) (item : Item)
    (candidates : List Candidate) (catalog : Catalog) : Decision × Catalog :=
  policy.decideRanked commit item catalog (rank candidates)

end ReconcilePolicy

/-- Writes the price of an item to an entry. Tells whether it differed by more than `epsilon`. -/
def Catalog.updatePrice (catalog : Catalog) (id : CatalogId) (item : Item) (epsilon : Float) :
    Except EngineError (Bool × Catalog) :=
  (catalog.applyPrice id item.price epsilon true).map fun (update, catalog) =>
    (update.changed, catalog)

end Repricing
