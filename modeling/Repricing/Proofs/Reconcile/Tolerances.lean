import Repricing.Proofs.PriceList.Currency
import Repricing.Proofs.Reconcile.Verdict

/-!
# Tolerances of currencies

A policy that passes its checks has tolerances for currencies only, but its keys may spell them in
lower case or with blanks.  A tolerance is looked up by the code of a currency.  So a key that does
not spell the currency as its code does is without effect, and the general tolerance stands.
-/

namespace Repricing

namespace ReconcilePolicy

variable {policy : ReconcilePolicy} {commit : Bool} {item : Item} {c : Catalog}
  {candidates : List Candidate} {currency : Currency} {key : String} {epsilon : Float}

/-- A key of the policy, with its tolerance, is the only one that reads as the currency. -/
structure SoleTolerance (policy : ReconcilePolicy) (currency : Currency) (key : String)
    (epsilon : Float) : Prop where
  value : policy.currencyEpsilon[key]? = some epsilon
  reads : Currency.read? key = some currency
  sole : ∀ other ∈ policy.currencyEpsilon, Currency.read? other = some currency → other = key

theorem exists_currency_of_valid
    (hvalid : policy.validate = .ok ()) (hkey : key ∈ policy.currencyEpsilon) :
    ∃ currency, Currency.read? key = some currency := by
  obtain ⟨-, -, -, -, htolerances⟩ := checks_of_valid hvalid
  obtain ⟨epsilon, hvalue⟩ :=
    Option.isSome_iff_exists.mp (Std.ExtTreeMap.mem_iff_isSome_getElem?.mp hkey)
  have hcheck :=
    htolerances (key, epsilon) (Std.ExtTreeMap.mem_toList_iff_getElem?_eq_some.mpr hvalue)
  exact Option.isSome_iff_exists.mp (checkCurrencyEpsilon_eq_ok_iff.mp hcheck).1

/-- Without a tolerance under the code of a currency the general one stands. -/
theorem epsilonFor_of_not_mem (hcode : currency.code ∉ policy.currencyEpsilon) :
    policy.epsilonFor currency = policy.priceEpsilon :=
  Std.ExtTreeMap.getD_eq_fallback hcode

theorem SoleTolerance.epsilonFor_eq (hsole : policy.SoleTolerance currency key epsilon) :
    policy.epsilonFor currency = if key = currency.code then epsilon else policy.priceEpsilon := by
  by_cases hkey : key = currency.code
  · have hvalue := hsole.value
    rw [hkey] at hvalue
    rw [if_pos hkey, epsilonFor, Std.ExtTreeMap.getD_eq_getD_getElem?, hvalue, Option.getD_some]
  · rw [if_neg hkey]
    apply epsilonFor_of_not_mem
    -- The code would be a second key that reads as the currency.
    intro hcode
    exact hkey (hsole.sole _ hcode currency.read?_code).symm

/-- An item that is taken for an entry is compared with its price by the tolerance of its
currency. -/
theorem reports_of_reconcile_eq_autoApplied
    {entry : CatalogEntry} {old new : Money} {confidence : Float} {changed applied : Bool}
    (hdecision : (policy.reconcile commit item candidates c).1 =
      .autoApplied entry old new confidence changed applied) :
    policy.Reports commit item c (policy.reconcile commit item candidates c).2 (rank candidates)
      (.autoApplied entry old new confidence changed applied) := by
  obtain ⟨decision, after, heq, hconcludes⟩ :=
    policy.concludes_decideRanked commit item c (rank candidates)
  rw [reconcile, heq] at hdecision ⊢
  rw [← hdecision]
  generalize rank candidates = ranked at hconcludes ⊢
  cases hconcludes with
  | autoApplied _ _ _ hoffer _ hcurrent => exact reports_autoApplied hoffer hcurrent
  | _ => cases hdecision

/-- Each key of a valid policy reads as a currency.  A key that is the only one for its currency
takes effect if it is spelled as the code is.  Otherwise the general tolerance stands, as it does
without a key.  Items are compared with prices by the tolerance that is looked up. -/
theorem epsilonFor_of_valid (hvalid : policy.validate = .ok ()) (currency : Currency) :
    (∀ key ∈ policy.currencyEpsilon, ∃ other, Currency.read? key = some other) ∧
    ((∀ key ∈ policy.currencyEpsilon, Currency.read? key ≠ some currency) →
      policy.epsilonFor currency = policy.priceEpsilon) ∧
    (∀ key epsilon, policy.SoleTolerance currency key epsilon →
      policy.epsilonFor currency =
        if key = currency.code then epsilon else policy.priceEpsilon) ∧
    ∀ (commit : Bool) (item : Item) (candidates : List Candidate) (c : Catalog)
      (entry : CatalogEntry) (old new : Money) (confidence : Float) (changed applied : Bool),
      item.price.currency = currency →
      (policy.reconcile commit item candidates c).1 =
        .autoApplied entry old new confidence changed applied →
      new = item.price ∧
        changed = old.differsFrom item.price (policy.epsilonFor currency) ∧
        applied = (changed && commit) := by
  refine ⟨fun key hkey => exists_currency_of_valid hvalid hkey, ?_, ?_, ?_⟩
  · intro hnone
    apply epsilonFor_of_not_mem
    intro hcode
    exact hnone _ hcode currency.read?_code
  · intro key epsilon hsole
    exact hsole.epsilonFor_eq
  · intro commit item candidates c entry old new confidence changed applied hcurrency hdecision
    obtain ⟨-, -, hnew, hchanged, happlied, -⟩ := reports_of_reconcile_eq_autoApplied hdecision
    rw [hnew, hcurrency] at hchanged
    exact ⟨hnew, hchanged, happlied⟩

/-- The Japanese yen. -/
def yen : Currency :=
  ⟨"JPY", by decide⟩

/-- A tolerance of one yen, under a key. -/
def yenPolicy (key : String) : ReconcilePolicy :=
  { currencyEpsilon := (∅ : Std.ExtTreeMap String Float).insert key 1.0 }

theorem soleTolerance_yenPolicy (hreads : Currency.read? key = some yen) :
    (yenPolicy key).SoleTolerance yen key 1.0 where
  value := Std.ExtTreeMap.getElem?_insert_self
  reads := hreads
  sole other hother _ := by
    rcases Std.ExtTreeMap.mem_insert.mp hother with hsame | hempty
    · exact (compare_eq_iff_eq.mp hsame).symm
    · exact (Std.ExtTreeMap.not_mem_empty hempty).elim

/-- A catalog with one edition at 1000 yen. -/
def yenCatalog : Catalog where
  entries := #[{ edition 1 1000.0 with price := ⟨1000.0, yen⟩ }]
  prices := #[⟨1000.0, yen⟩]
  ascending := by decide
  size_prices := rfl

/-- An offer for half a yen more. -/
def yenOffer : Item :=
  { editionOffer with price := ⟨1000.5, yen⟩ }

/-- The edition as the only candidate. -/
def yenCandidates : List Candidate :=
  [⟨{ edition 1 1000.0 with price := ⟨1000.0, yen⟩ }, 0.95, { title := true }⟩]

/-- Half a yen is no change under a tolerance of one yen. -/
theorem epsilonFor_of_valid_yen :
    (yenPolicy "JPY").validate = .ok () ∧
      (yenPolicy "JPY").SoleTolerance yen "JPY" 1.0 ∧
      (yenPolicy "JPY").epsilonFor yen = 1.0 ∧
      ((yenPolicy "JPY").reconcile true yenOffer yenCandidates yenCatalog).1.kind =
        .autoApplied ∧
      ((yenPolicy "JPY").reconcile true yenOffer yenCandidates yenCatalog).2.currentPrice ⟨1⟩ =
        .ok ⟨1000.0, yen⟩ := by
  have hvalid : (yenPolicy "JPY").validate = .ok () := by decide +kernel
  have hsole := soleTolerance_yenPolicy (show Currency.read? "JPY" = some yen by decide +kernel)
  obtain ⟨-, -, hlookup, -⟩ := epsilonFor_of_valid hvalid yen
  exact ⟨hvalid, hsole, hlookup "JPY" 1.0 hsole, by decide +kernel, by decide +kernel⟩

/-- A tolerance under a key in lower case passes the checks, but the offer changes the price. -/
theorem epsilonFor_of_lowerCase_key :
    (yenPolicy "jpy").validate = .ok () ∧
      (yenPolicy "jpy").SoleTolerance yen "jpy" 1.0 ∧
      (yenPolicy "jpy").epsilonFor yen = 0.01 ∧
      ((yenPolicy "jpy").reconcile true yenOffer yenCandidates yenCatalog).1.kind =
        .autoApplied ∧
      ((yenPolicy "jpy").reconcile true yenOffer yenCandidates yenCatalog).2.currentPrice ⟨1⟩ =
        .ok ⟨1000.5, yen⟩ := by
  have hsole := soleTolerance_yenPolicy (show Currency.read? "jpy" = some yen by decide +kernel)
  exact ⟨by decide +kernel, hsole, by decide +kernel, by decide +kernel, by decide +kernel⟩

end ReconcilePolicy

end Repricing
