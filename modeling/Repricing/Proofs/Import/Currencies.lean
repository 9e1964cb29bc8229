import Repricing.Proofs.Import.Issues

/-!
# Allowed currencies

When a policy allows only some currencies, a row that passes validation and names a currency is
priced in an allowed one.  A row that names none is priced in the currency that stands in for it,
and validation takes this one as it is.  So rows that pass are priced in allowed currencies if this
currency is allowed, and only then.
-/

namespace Repricing

/-! ## Currencies of items -/

theorem ImportOptions.mem_of_allows
    {options : ImportOptions} {currency : Currency} (hlisted : options.allowedCurrencies ≠ [])
    (hallows : options.allows currency = true) :
    currency ∈ options.allowedCurrencies := by
  rw [allows, Bool.or_eq_true, List.isEmpty_iff, List.contains_iff_mem] at hallows
  exact hallows.resolve_left hlisted

/-! ## Rows without errors -/

namespace RawRow

variable {raw : RawRow} {options : ImportOptions} {currency : Currency}

/-- The accepted currency of a row is the one that it names, if it can be read and is allowed, or
the one that stands in for a currency that is not named. -/
theorem acceptedCurrency?_eq_some_iff :
    raw.acceptedCurrency? options = some currency ↔
      (Text.present raw.currency = none ∧ currency = options.defaultCurrency) ∨
        ∃ text, Text.present raw.currency = some text ∧ Currency.read? text = some currency ∧
          options.allows currency = true := by
  unfold acceptedCurrency?
  cases Text.present raw.currency with
  | none =>
      constructor
      · intro haccepted
        exact .inl ⟨rfl, (Option.some.inj haccepted).symm⟩
      · rintro (⟨-, rfl⟩ | ⟨text, hnamed, -⟩)
        · rfl
        · cases hnamed
  | some text => simp [Option.filter_eq_some_iff]

theorem exists_amount_of_clean (hclean : raw.faults options = []) :
    ∃ amount, raw.amount = .ok amount := by
  cases hamount : raw.amount with
  | ok amount => exact ⟨amount, rfl⟩
  | error fault =>
      obtain ⟨issue, hissue⟩ : ∃ issue, issue ∈ raw.priceIssues := by
        rcases fault_of_amount hamount with rfl | ⟨text, rfl⟩
        · exact ⟨_, mem_priceIssues.mpr (.inl ⟨rfl, hamount⟩)⟩
        · exact ⟨_, mem_priceIssues.mpr (.inr ⟨text, rfl, hamount⟩)⟩
      have hfault : issue ∈ raw.faults options :=
        List.mem_append_left _ (List.mem_append_right _ hissue)
      rw [hclean] at hfault
      cases hfault

theorem exists_acceptedCurrency (hclean : raw.faults options = []) :
    ∃ currency, raw.acceptedCurrency? options = some currency := by
  cases hcurrency : Text.present raw.currency with
  | none => exact ⟨_, acceptedCurrency?_eq_some_iff.mpr (.inl ⟨hcurrency, rfl⟩)⟩
  | some text =>
      cases hread : (Currency.read? text).filter options.allows with
      | some currency =>
          obtain ⟨hcode, hallows⟩ := Option.filter_eq_some_iff.mp hread
          exact ⟨currency,
            acceptedCurrency?_eq_some_iff.mpr (.inr ⟨text, hcurrency, hcode, hallows⟩)⟩
      | none =>
          have hfault : .unknownCurrency text ∈ raw.faults options :=
            List.mem_append_right _ (mem_currencyIssues.mpr ⟨text, rfl, hcurrency, hread⟩)
          rw [hclean] at hfault
          cases hfault

end RawRow

/-! ## Rows that pass -/

namespace ImportPolicy

variable {policy : ImportPolicy} {compared : Option CandidateIndex} {rows : List RawRow}
  {i : Nat} {raw : RawRow}

/-- Validation finds no error in the row at a place of the list. -/
def PassesAt (policy : ImportPolicy) (compared : Option CandidateIndex) (rows : List RawRow)
    (i : Nat) : Prop :=
  ∃ found, (policy.issuesFrom compared ∅ rows)[i]? = some found ∧
    ∀ issue ∈ found, issue.issue.isError = false

/-- A row passes if the report has no error under its number. -/
theorem passesAt_of_errors
    (hraw : rows[i]? = some raw)
    (hnone : ∀ error ∈ (policy.validateRows compared rows).errors, error.row ≠ raw.row) :
    policy.PassesAt compared rows i := by
  refine ⟨_, policy.getElem?_issuesFrom compared ∅ raw hraw, ?_⟩
  intro issue hissue
  by_contra herror
  rw [Bool.not_eq_false] at herror
  have hreported : issue ∈ (policy.validateRows compared rows).errors := by
    apply List.mem_filter.mpr
    constructor
    · have hfound := List.mem_of_getElem? (policy.getElem?_issuesFrom compared ∅ raw hraw)
      exact List.mem_flatten.mpr ⟨_, hfound, hissue⟩
    · exact herror
  obtain ⟨_, -, rfl⟩ := List.mem_map.mp hissue
  exact hnone _ hreported rfl

theorem PassesAt.faults_eq_nil
    (hpasses : policy.PassesAt compared rows i) (hraw : rows[i]? = some raw) :
    raw.faults policy.options = [] := by
  obtain ⟨found, hfound, hclean⟩ := hpasses
  rw [policy.getElem?_issuesFrom compared ∅ raw hraw] at hfound
  obtain rfl := Option.some.inj hfound
  rw [List.eq_nil_iff_forall_not_mem]
  intro issue hissue
  have hlisted : issue ∈ policy.rowIssues compared (SeenIsbns.after ∅ (rows.take i)) raw := by
    rw [rowIssues_eq, List.append_assoc]
    exact List.mem_append_left _ hissue
  have hwarning := hclean _ (List.mem_map_of_mem hlisted)
  rw [RawRow.isError_of_mem_faults hissue] at hwarning
  cases hwarning

/-- What a row that passes is priced in. -/
structure PricedBy (options : ImportOptions) (raw : RawRow) (item : Item) : Prop where
  unnamed : Text.present raw.currency = none → item.price.currency = options.defaultCurrency
  named : Text.present raw.currency ≠ none → item.price.currency ∈ options.allowedCurrencies

theorem PassesAt.exists_item
    (hlisted : policy.options.allowedCurrencies ≠ []) (hpasses : policy.PassesAt compared rows i)
    (hraw : rows[i]? = some raw) :
    ∃ item, raw.toItem policy.options.defaultCurrency = .ok item ∧
      PricedBy policy.options raw item := by
  have hclean := hpasses.faults_eq_nil hraw
  obtain ⟨amount, hamount⟩ := RawRow.exists_amount_of_clean hclean
  obtain ⟨currency, haccepted⟩ := RawRow.exists_acceptedCurrency hclean
  rcases RawRow.acceptedCurrency?_eq_some_iff.mp haccepted with
    ⟨hunnamed, rfl⟩ | ⟨text, hnamed, hread, hallows⟩
  · refine ⟨_, RawRow.toItem_eq_ok_iff.mpr ⟨amount, _, hamount,
      RawRow.priceCurrency_of_unnamed hunnamed, rfl⟩, ?_, ?_⟩
    · intro _
      rfl
    · intro hnamed
      exact absurd hunnamed hnamed
  · refine ⟨_, RawRow.toItem_eq_ok_iff.mpr ⟨amount, _, hamount,
      RawRow.priceCurrency_of_named hnamed hread, rfl⟩, ?_, ?_⟩
    · intro hunnamed
      rw [hunnamed] at hnamed
      cases hnamed
    · intro _
      exact ImportOptions.mem_of_allows hlisted hallows

/-! ## Policies -/

/-- Rows that pass validation become items that are priced in allowed currencies. -/
def AdmitsAllowedOnly (policy : ImportPolicy) : Prop :=
  ∀ (compared : Option CandidateIndex) (rows : List RawRow) (i : Nat) (raw : RawRow),
    rows[i]? = some raw → policy.PassesAt compared rows i →
      ∃ item, raw.toItem policy.options.defaultCurrency = .ok item ∧
        item.price.currency ∈ policy.options.allowedCurrencies

/-- A row that names no currency. -/
def unnamedRow : RawRow :=
  { RawRow.blank 1 with title := some "Dead Souls", price := some "410" }

/-- No policy finds an error in the row that names no currency. -/
theorem passesAt_unnamedRow (policy : ImportPolicy) : policy.PassesAt none [unnamedRow] 0 := by
  have hissues : policy.rowIssues none ∅ unnamedRow = [] := by
    have hbasic : unnamedRow.keyIssues ++ unnamedRow.isbnIssues ++ unnamedRow.lengthIssues ++
        unnamedRow.priceIssues = [] := by decide +kernel
    have htitle : unnamedRow.titleIssues = [] := by decide +kernel
    have hcurrency : unnamedRow.currencyIssues policy.options = [] := rfl
    have hseen : SeenIsbns.issues ∅ (MatchKeys.ofRow unnamedRow).isbn = [] := rfl
    unfold rowIssues
    dsimp only
    rw [hbasic, hcurrency, hseen, htitle]
    rfl
  refine ⟨[], ?_, nofun⟩
  rw [issuesFrom, hissues]
  rfl

/-- A row that passes validation becomes an item in an allowed currency, or in the currency that
stands in for the one that it does not name.  All of these items are priced in allowed currencies
if and only if this currency is allowed. -/
theorem admitsAllowedOnly_iff (hlisted : policy.options.allowedCurrencies ≠ []) :
    (∀ (compared : Option CandidateIndex) (rows : List RawRow) (i : Nat) (raw : RawRow),
      rows[i]? = some raw →
      ((∀ error ∈ (policy.validateRows compared rows).errors, error.row ≠ raw.row) →
        policy.PassesAt compared rows i) ∧
      (policy.PassesAt compared rows i →
        ∃ item, raw.toItem policy.options.defaultCurrency = .ok item ∧
          PricedBy policy.options raw item)) ∧
    (policy.AdmitsAllowedOnly ↔
      policy.options.defaultCurrency ∈ policy.options.allowedCurrencies) := by
  refine ⟨?_, ?_, ?_⟩
  · intro compared rows i raw hraw
    constructor
    · exact passesAt_of_errors hraw
    · intro hpasses
      exact hpasses.exists_item hlisted hraw
  · intro hadmits
    obtain ⟨item, hitem, hmem⟩ := hadmits none _ 0 unnamedRow rfl policy.passesAt_unnamedRow
    obtain ⟨item', hitem', hpriced⟩ := policy.passesAt_unnamedRow.exists_item hlisted rfl
    obtain rfl := Except.ok.inj (hitem.symm.trans hitem')
    rw [hpriced.unnamed rfl] at hmem
    exact hmem
  · intro hdefault compared rows i raw hraw hpasses
    obtain ⟨item, hitem, hpriced⟩ := hpasses.exists_item hlisted hraw
    refine ⟨item, hitem, ?_⟩
    by_cases hunnamed : Text.present raw.currency = none
    · rw [hpriced.unnamed hunnamed]
      exact hdefault
    · exact hpriced.named hunnamed

/-- The US dollar. -/
def usd : Currency :=
  ⟨"USD", by decide⟩

/-- Only dollars are allowed, with a currency for the rows that name none. -/
def dollarsOnly (default : Currency) : ImportPolicy :=
  { options := { defaultCurrency := default, allowedCurrencies := [usd] } }

/-- If dollars stand in for currencies that are not named, only dollars pass. -/
theorem admitsAllowedOnly_dollarsOnly :
    (dollarsOnly usd).options.allowedCurrencies ≠ [] ∧
      (dollarsOnly usd).PassesAt none [unnamedRow] 0 ∧
      (dollarsOnly usd).AdmitsAllowedOnly := by
  have hlisted : (dollarsOnly usd).options.allowedCurrencies ≠ [] := by decide
  obtain ⟨hrows, hadmits⟩ := admitsAllowedOnly_iff hlisted
  obtain ⟨hpasses, -⟩ := hrows none [unnamedRow] 0 unnamedRow rfl
  exact ⟨hlisted, hpasses (by decide +kernel), hadmits.mpr (by decide)⟩

/-- If roubles stand in for currencies that are not named, the row that names none passes and is
priced in roubles. -/
theorem validateRows_dollarsOnly_rub :
    (dollarsOnly .rub).validate = .ok () ∧
      (dollarsOnly .rub).validateRows none [unnamedRow] = ⟨1, 0, [], []⟩ ∧
      (unnamedRow.toItem (dollarsOnly .rub).options.defaultCurrency).map (·.price) =
        .ok ⟨410.0, .rub⟩ ∧
      Currency.rub ∉ (dollarsOnly .rub).options.allowedCurrencies := by
  decide +kernel

end ImportPolicy

end Repricing
