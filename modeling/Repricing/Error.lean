import Repricing.Decimal.Layout
import Repricing.Identifier
import Repricing.Money
import Repricing.PriceList.Field

/-!
# Errors

Errors name their cause; the wording is added by `message`.
-/

namespace Repricing

/-- Why data was refused. -/
inductive ValidationFault where
  /-- A currency code is not three letters. -/
  | currencyCode (text : String)
  /-- Two entries of a snapshot share an identifier. -/
  | repeatedId (id : CatalogId)
  /-- A price in another currency than the entry's was offered. -/
  | foreignPrice (id : CatalogId) (held offered : Currency)
  /-- A supplier has no code. -/
  | blankSupplierCode
  /-- Two columns of a supplier have one header. -/
  | repeatedHeader (supplier header : String)
  /-- Two columns of a supplier carry one field. -/
  | repeatedField (supplier : String) (field : PriceField)
  /-- No column of a supplier carries the price. -/
  | noPriceColumn (supplier : String)
  /-- No column of a supplier carries a title or an ISBN. -/
  | noKeyColumn (supplier : String)
deriving DecidableEq

/-- The fault in words. -/
def ValidationFault.message : ValidationFault → String
  | .currencyCode text => "currency code must be three letters, got '" ++ text ++ "'"
  | .repeatedId id => "duplicate catalog id " ++ id.text ++ " in snapshot"
  | .foreignPrice id held offered =>
    "entry " ++ id.text ++ " is priced in " ++ held.code ++ ", refusing a " ++ offered.code
      ++ " price"
  | .blankSupplierCode => "supplier code cannot be empty"
  | .repeatedHeader supplier header =>
    "supplier '" ++ supplier ++ "': header '" ++ header ++ "' is mapped more than once"
  | .repeatedField supplier field =>
    "supplier '" ++ supplier ++ "': field " ++ field.label ++ " is mapped by more than one column"
  | .noPriceColumn supplier => "supplier '" ++ supplier ++ "': no column is mapped to price"
  | .noKeyColumn supplier => "supplier '" ++ supplier ++ "': a title or ISBN column is required"

/-- Settings that are fractions between zero and one. -/
inductive UnitSetting where
  | threshold
  | fieldFloor
  | autoApplyMin
  | reviewMin
  | ambiguityBand
deriving DecidableEq, Repr

/-- Where a setting stands in the configuration. -/
def UnitSetting.path : UnitSetting → String
  | .threshold => "matching.threshold"
  | .fieldFloor => "matching.field_floor"
  | .autoApplyMin => "reconcile.auto_apply_min"
  | .reviewMin => "reconcile.review_min"
  | .ambiguityBand => "reconcile.ambiguity_band"

/-- Why a configuration was refused. -/
inductive ConfigFault where
  /-- The document does not describe a configuration. -/
  | unreadable
  /-- A match weight is negative, infinite or no number. -/
  | badWeight
  /-- The match weights add up to nothing. -/
  | zeroWeights
  /-- A setting is not between zero and one. -/
  | outsideUnit (setting : UnitSetting) (value : Float)
  /-- Matching would look at no candidates. -/
  | noCandidates
  /-- An index would look up no candidates. -/
  | noLookups
  /-- The review threshold is above the one for automatic updates. -/
  | reviewAboveApply (reviewMin autoApplyMin : Float)
  /-- The price tolerance is negative, infinite or no number. -/
  | badEpsilon
  /-- A tolerance is given for something that is no currency. -/
  | badEpsilonCurrency (code : String)
  /-- The tolerance of a currency is negative, infinite or no number. -/
  | badCurrencyEpsilon (code : String)
  /-- A run would have no workers. -/
  | noWorkers
  /-- The tolerated price deviation is negative, infinite or no number. -/
  | badDeviation
deriving DecidableEq

/-- The fault in words. -/
def ConfigFault.message : ConfigFault → String
  | .unreadable => "unreadable document"
  | .badWeight => "match weights must be finite and non-negative"
  | .zeroWeights => "match weights must not all be zero"
  | .outsideUnit setting value =>
    setting.path ++ " must be within [0, 1], got " ++ Decimal.inMessage value
  | .noCandidates => "matching.top_k must be at least 1"
  | .noLookups => "top_k must be at least 1"
  | .reviewAboveApply reviewMin autoApplyMin =>
    "reconcile.review_min (" ++ Decimal.inMessage reviewMin ++ ") must not exceed auto_apply_min ("
      ++ Decimal.inMessage autoApplyMin ++ ")"
  | .badEpsilon => "reconcile.price_epsilon must be finite and non-negative"
  | .badEpsilonCurrency code => "reconcile.currency_epsilon: bad currency '" ++ code ++ "'"
  | .badCurrencyEpsilon code =>
    "reconcile.currency_epsilon." ++ code ++ " must be finite and non-negative"
  | .noWorkers => "import.workers must be at least 1"
  | .badDeviation => "import.max_price_deviation must be finite and non-negative"

/-- Why an identifier was refused. -/
inductive IdFault where
  | catalogId (fault : NumberFault)
  | batchId
deriving DecidableEq

/-- The fault in words. -/
def IdFault.message : IdFault → String
  | .catalogId fault => "CatalogId: " ++ fault.message
  | .batchId => "BatchId: malformed"

/-- Why an operation failed. -/
inductive EngineError where
  | validation (fault : ValidationFault)
  | invalidId (fault : IdFault)
  /-- There is nothing to match against. -/
  | emptySnapshot
  | config (fault : ConfigFault)
  | notFound
deriving DecidableEq

/-- The error in words. -/
def EngineError.message : EngineError → String
  | .validation fault => "validation failed: " ++ fault.message
  | .invalidId fault => "invalid identifier: " ++ fault.message
  | .emptySnapshot => "candidate index unavailable: catalog snapshot is empty"
  | .config fault => "configuration error: " ++ fault.message
  | .notFound => "not found"

/-- Reads a currency code in any case, with blanks around it. -/
def Currency.parse (s : String) : Except EngineError Currency :=
  match Currency.read? s with
  | some currency => .ok currency
  | none => .error (.validation (.currencyCode (Text.trim s)))

/-- The kinds of trouble with a single row. -/
inductive RowErrorKind where
  | malformedRow
  | invalidPrice
  | invalidCurrency
deriving DecidableEq, Repr

/-- The error of a row that was skipped. -/
structure RowError where
  row : UInt64
  kind : RowErrorKind
  message : String
deriving DecidableEq, Repr

/-- The error with the row that it concerns. -/
def RowError.text (e : RowError) : String :=
  "row " ++ String.ofList (Decimal.digitChars e.row.toNat) ++ ": " ++ e.message

/-- Why a row was skipped. -/
inductive RowFault where
  /-- The row has neither an ISBN nor a title to find an entry by. -/
  | noKey
  | priceMissing
  | badPrice (text : String)
  | badCurrency (fault : EngineError)
deriving DecidableEq

namespace RowFault

/-- The kind of the fault. -/
def kind : RowFault → RowErrorKind
  | .noKey => .malformedRow
  | .priceMissing | .badPrice _ => .invalidPrice
  | .badCurrency _ => .invalidCurrency

/-- The fault in words. -/
def message : RowFault → String
  | .noKey => "neither a valid ISBN nor a title is present"
  | .priceMissing => "price is missing"
  | .badPrice text => "price '" ++ text ++ "' is not a non-negative number"
  | .badCurrency fault => fault.message

/-- The error that the fault gives rise to in a row. -/
def error (fault : RowFault) (row : UInt64) : RowError :=
  { row, kind := fault.kind, message := fault.message }

end RowFault

end Repricing
