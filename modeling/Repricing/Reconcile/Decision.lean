import Repricing.Matching.Candidate

/-!
# Decisions

What becomes of an item: its price is taken over, a person is asked, or the item is rejected.
-/

namespace Repricing

/-- Why a person is asked. -/
inductive ReviewReason where
  | lowConfidence
  | ambiguous
  | currencyMismatch
deriving DecidableEq, Repr

/-- Why an item is rejected. -/
inductive RejectReason where
  | noMatch
  | belowThreshold
deriving DecidableEq, Repr

/-- The kinds of decisions. -/
inductive DecisionKind where
  | autoApplied
  | pendingReview
  | rejected
deriving DecidableEq, Repr

/-- What becomes of an item. -/
inductive Decision where
  /-- The item is taken for the entry, which is shown with its price after the decision. The price is
  written if it differs and the run is not a dry one. -/
  | autoApplied (entry : CatalogEntry) (oldPrice newPrice : Money) (confidence : Float)
      (priceChanged applied : Bool)
  /-- A person is asked; no price is written. -/
  | pendingReview (reason : ReviewReason) (candidates : List Candidate) (confidence : Float)
      (proposedPrice : Money)
  /-- The item is rejected. -/
  | rejected (reason : RejectReason) (bestConfidence : Option Float)
deriving DecidableEq

namespace Decision

/-- The kind of a decision. -/
def kind : Decision → DecisionKind
  | .autoApplied .. => .autoApplied
  | .pendingReview .. => .pendingReview
  | .rejected .. => .rejected

/-- The confidence of the best candidate, if there was one. -/
def confidence : Decision → Option Float
  | .autoApplied _ _ _ confidence _ _ => some confidence
  | .pendingReview _ _ confidence _ => some confidence
  | .rejected _ bestConfidence => bestConfidence

/-- Whether a price was written. -/
def mutated : Decision → Bool
  | .autoApplied _ _ _ _ _ applied => applied
  | _ => false

end Decision

end Repricing
