import Repricing.Matching.Settings
import Std.Data.ExtTreeMap

/-!
# Reconcile policy

The policy says from which confidence on a price is updated without being asked for, from which one on
a candidate is worth a look, and which price differences count as changes.
-/

namespace Repricing

/-- The thresholds that turn ranked candidates into a decision. -/
structure ReconcilePolicy where
  /-- The least confidence for an automatic update. -/
  autoApplyMin : Float := 0.9
  /-- The least confidence at which a candidate is shown to a reviewer. -/
  reviewMin : Float := 0.5
  /-- The two best candidates are ambiguous if they are no farther apart than this. -/
  ambiguityBand : Float := 0.05
  /-- Price differences up to this amount are no changes. -/
  priceEpsilon : Float := 0.01
  /-- Tolerances that replace `priceEpsilon` in single currencies, by currency codes. -/
  currencyEpsilon : Std.ExtTreeMap String Float := ∅

namespace ReconcilePolicy

/-- The tolerance for prices in a currency. -/
def epsilonFor (policy : ReconcilePolicy) (currency : Currency) : Float :=
  policy.currencyEpsilon.getD currency.code policy.priceEpsilon

/-- Refuses the tolerance of a currency if it is no amount, or its currency no currency. -/
def checkCurrencyEpsilon (code : String) (epsilon : Float) : Except EngineError Unit :=
  if (Currency.read? code).isNone then .error (.config (.badEpsilonCurrency code))
  else if !isAmount epsilon then .error (.config (.badCurrencyEpsilon code))
  else .ok ()

/-- Refuses a policy that makes no sense. -/
def validate (policy : ReconcilePolicy) : Except EngineError Unit := do
  checkUnit .autoApplyMin policy.autoApplyMin
  checkUnit .reviewMin policy.reviewMin
  checkUnit .ambiguityBand policy.ambiguityBand
  if policy.autoApplyMin < policy.reviewMin then
    throw (.config (.reviewAboveApply policy.reviewMin policy.autoApplyMin))
  if !isAmount policy.priceEpsilon then throw (.config .badEpsilon)
  policy.currencyEpsilon.toList.forM fun (code, epsilon) => checkCurrencyEpsilon code epsilon

end ReconcilePolicy

end Repricing
