import Repricing.Matching.Settings
import Repricing.Reconcile.Policy

/-!
# Import policy

The policy of an import run: how to match, how to reconcile, and options of the run itself.
-/

namespace Repricing

/-- Options of an import run. -/
structure ImportOptions where
  /-- How many workers match rows at the same time; all that the machine offers, if not said. -/
  workers : Option UInt64 := none
  /-- Whether prices are written. A run that writes none is a dry run. -/
  updateExistingPrices : Bool := true
  /-- The currency of rows that name none. -/
  defaultCurrency : Currency := .rub
  /-- If there are any, rows in other currencies fail validation. -/
  allowedCurrencies : List Currency := []
  /-- The relative price change beyond which validation warns. -/
  maxPriceDeviation : Float := 0.5
deriving DecidableEq

/-- Whether rows in a currency pass validation. -/
def ImportOptions.allows (options : ImportOptions) (currency : Currency) : Bool :=
  options.allowedCurrencies.isEmpty || options.allowedCurrencies.contains currency

/-- The policy of an import run. -/
structure ImportPolicy where
  matching : MatchSettings := {}
  reconcile : ReconcilePolicy := {}
  options : ImportOptions := {}

namespace ImportPolicy

/-- Refuses a policy that makes no sense. -/
def validate (policy : ImportPolicy) : Except EngineError Unit := do
  policy.matching.validate
  policy.reconcile.validate
  if policy.options.workers = some 0 then throw (.config .noWorkers)
  if !isAmount policy.options.maxPriceDeviation then throw (.config .badDeviation)

/-- The number of workers on a machine that offers `cores`. -/
def workerCount (policy : ImportPolicy) (cores : UInt64) : UInt64 :=
  policy.options.workers.getD cores

/-- Whether no prices are written. -/
def isDryRun (policy : ImportPolicy) : Bool :=
  !policy.options.updateExistingPrices

end ImportPolicy

end Repricing
