import Repricing.Proofs.Import.Decisions
import Repricing.Proofs.Import.Issues
import Repricing.Proofs.Import.RowIndependence
import Repricing.Proofs.Matching.RowKeys
import Repricing.Proofs.PriceList.Currency

/-!
# Validation and import agree

What a validation finds in a row tells whether an import skips the row, and with which kind of
error.  The other errors of a validation, and its warnings, do not keep a row from being imported.
-/

namespace Repricing

/-! ## What the issues of a row say -/

/-- The price of the row is missing, or is none. -/
def ReportsPrice (issues : List Issue) : Prop :=
  .missingPrice ∈ issues ∨ ∃ text, .invalidPrice text ∈ issues

/-- The currency of the row cannot be read.  One that is merely not allowed does not count. -/
def ReportsCurrency (issues : List Issue) : Prop :=
  ∃ text, .unknownCurrency text ∈ issues ∧ ∃ e, Currency.parse text = .error e

/-- Whether the issue is about what makes a row an item: its key, its price or its currency. -/
def Issue.concernsItem : Issue → Bool
  | .missingKey | .missingPrice | .invalidPrice _ | .unknownCurrency _ => true
  | _ => false

namespace ImportPolicy

variable (policy : ImportPolicy) (compared : Option CandidateIndex) (seen : SeenIsbns)
  (raw : RawRow)

/-- Issues about what makes a row an item are found by looking at its key, its price and its
currency, whatever there is to compare the row with. -/
theorem mem_rowIssues {issue : Issue} (hitem : issue.concernsItem = true) :
    issue ∈ policy.rowIssues compared seen raw ↔
      (issue = .missingKey ∧ (MatchKeys.ofRow raw).isUsable = false) ∨
      ((issue = .missingPrice ∧ raw.amount = .error .priceMissing) ∨
        ∃ text, issue = .invalidPrice text ∧ raw.amount = .error (.badPrice text)) ∨
      ∃ text, issue = .unknownCurrency text ∧ Text.present raw.currency = some text ∧
        (Currency.read? text).filter policy.options.allows = none := by
  have hisbn : issue ∉ raw.isbnIssues := by
    intro hmem
    obtain ⟨isbn, rfl⟩ := RawRow.exists_of_mem_isbnIssues hmem
    cases hitem
  have hlength : issue ∉ raw.lengthIssues := by
    intro hmem
    obtain rfl := RawRow.eq_of_mem_lengthIssues hmem
    cases hitem
  have hseen : issue ∉ seen.issues (MatchKeys.ofRow raw).isbn := by
    intro hmem
    obtain ⟨isbn, first, rfl⟩ := SeenIsbns.exists_of_mem_issues hmem
    cases hitem
  have hremarks : issue ∉ raw.remarks policy compared := by
    intro hmem
    rcases RawRow.of_mem_remarks hmem with rfl | ⟨offered, current, entry, change, rfl⟩
    · cases hitem
    · cases hitem
  rw [rowIssues_eq, ← RawRow.mem_keyIssues, ← RawRow.mem_priceIssues, ← RawRow.mem_currencyIssues]
  simp [RawRow.faults, hisbn, hlength, hseen, hremarks]

theorem missingKey_mem_rowIssues :
    .missingKey ∈ policy.rowIssues compared seen raw ↔
      (MatchKeys.ofRow raw).isUsable = false := by
  rw [mem_rowIssues _ _ _ _ rfl]
  simp

theorem reportsPrice_rowIssues :
    ReportsPrice (policy.rowIssues compared seen raw) ↔ ∃ fault, raw.amount = .error fault := by
  have hmissing : .missingPrice ∈ policy.rowIssues compared seen raw ↔
      raw.amount = .error .priceMissing := by
    rw [mem_rowIssues _ _ _ _ rfl]
    simp
  have hinvalid : ∀ text, .invalidPrice text ∈ policy.rowIssues compared seen raw ↔
      raw.amount = .error (.badPrice text) := by
    intro text
    rw [mem_rowIssues _ _ _ _ rfl]
    simp
  simp only [ReportsPrice, hmissing, hinvalid]
  constructor
  · rintro (hamount | ⟨text, hamount⟩)
    · exact ⟨_, hamount⟩
    · exact ⟨_, hamount⟩
  · rintro ⟨fault, hamount⟩
    rcases RawRow.fault_of_amount hamount with rfl | ⟨text, rfl⟩
    · exact .inl hamount
    · exact .inr ⟨text, hamount⟩

theorem reportsCurrency_rowIssues :
    ReportsCurrency (policy.rowIssues compared seen raw) ↔
      ∃ fault, raw.priceCurrency policy.options.defaultCurrency = .error fault := by
  have hunknown : ∀ text, .unknownCurrency text ∈ policy.rowIssues compared seen raw ↔
      Text.present raw.currency = some text ∧
        (Currency.read? text).filter policy.options.allows = none := by
    intro text
    rw [mem_rowIssues _ _ _ _ rfl]
    simp
  simp only [ReportsCurrency, hunknown, RawRow.priceCurrency_eq_error_iff, and_assoc]
  constructor
  · rintro ⟨text, hpresent, -, e, hparse⟩
    exact ⟨_, text, e, hpresent, hparse, rfl⟩
  · rintro ⟨_, text, e, hpresent, hparse, -⟩
    exact ⟨text, hpresent, by rw [Currency.read?_of_parse_error hparse]; rfl, e, hparse⟩

end ImportPolicy

/-! ## What an import makes of a row -/

/-- The issues of a row say what kind of error the import skips it with. -/
structure RowError.ToldBy (error : RowError) (issues : List Issue) : Prop where
  malformedRow : error.kind = .malformedRow ↔ .missingKey ∈ issues
  invalidPrice : error.kind = .invalidPrice ↔ .missingKey ∉ issues ∧ ReportsPrice issues
  invalidCurrency : error.kind = .invalidCurrency ↔
    .missingKey ∉ issues ∧ ¬ ReportsPrice issues ∧ ReportsCurrency issues

/-- The issues of a row say whether the import skips it, and with what kind of error. -/
structure Outcome.Foretold (outcome : Outcome) (raw : RawRow) (issues : List Issue) : Prop where
  failed : (∃ error, outcome = .failed error) ↔
    .missingKey ∈ issues ∨ ReportsPrice issues ∨ ReportsCurrency issues
  told : ∀ error, outcome = .failed error → error.row = raw.row ∧ error.ToldBy issues

/-- A row that is skipped is foretold by the issues that tell its error. -/
theorem Outcome.foretold_of_told
    {error : RowError} {raw : RawRow} {issues : List Issue} (hrow : error.row = raw.row)
    (htold : error.ToldBy issues) :
    (Outcome.failed error).Foretold raw issues := by
  constructor
  · refine ⟨fun _ => ?_, fun _ => ⟨error, rfl⟩⟩
    cases hkind : error.kind with
    | malformedRow => exact .inl (htold.malformedRow.mp hkind)
    | invalidPrice => exact .inr (.inl (htold.invalidPrice.mp hkind).2)
    | invalidCurrency => exact .inr (.inr (htold.invalidCurrency.mp hkind).2.2)
  · intro error' herror
    obtain rfl := Outcome.failed.inj herror
    exact ⟨hrow, htold⟩

namespace Run

/-- What validation finds in a row, next to whatever index and after whatever rows, foretells what
an import makes of it, at whatever prices. -/
theorem foretold_handle
    (run : Run) (c : Catalog) (raw : RawRow) (compared : Option CandidateIndex)
    (seen : SeenIsbns) :
    (run.handle c raw).1.Foretold raw (run.policy.rowIssues compared seen raw) := by
  have hmissing := run.policy.missingKey_mem_rowIssues compared seen raw
  have hprices := run.policy.reportsPrice_rowIssues compared seen raw
  have hcurrencies := run.policy.reportsCurrency_rowIssues compared seen raw
  have hconversion := KeyedItem.conversion_ofRow raw run.policy.options.defaultCurrency
  cases hrow : KeyedItem.ofRow raw run.policy.options.defaultCurrency with
  | ok keyed =>
      obtain ⟨decision, after, hhandle, -⟩ := exists_decides (c := c) hrow
      rw [hrow] at hconversion
      rw [hhandle]
      cases hconversion with
      | item hkey hprice hcurrency =>
          constructor
          · simp [hmissing, hprices, hcurrencies, hkey, hprice, hcurrency]
          · intro error herror
            cases herror
  | error error =>
      rw [hrow] at hconversion
      rw [handle_of_error hrow]
      cases hconversion with
      | noKey hkey =>
          apply Outcome.foretold_of_told rfl
          constructor <;> simp [RowFault.error, RowFault.kind, hmissing, hkey]
      | badPrice hkey hprice =>
          have hkind := RawRow.kind_of_amount hprice
          apply Outcome.foretold_of_told rfl
          constructor <;> simp [RowFault.error, hkind, hmissing, hprices, hkey, hprice]
      | badCurrency hkey hprice hcurrency =>
          have hkind := RawRow.kind_of_priceCurrency hcurrency
          apply Outcome.foretold_of_told rfl
          constructor <;>
            simp [RowFault.error, hkind, hmissing, hprices, hcurrencies, hkey, hprice, hcurrency]

end Run

/-! ## Reports -/

/-- Whatever keeps a row from being imported is an error of the validation. -/
theorem exists_isError
    {issues : List Issue}
    (hblocked : .missingKey ∈ issues ∨ ReportsPrice issues ∨ ReportsCurrency issues) :
    ∃ issue ∈ issues, issue.isError = true := by
  rcases hblocked with hkey | (hmissing | ⟨text, hinvalid⟩) | ⟨text, hunknown, -⟩
  · exact ⟨_, hkey, rfl⟩
  · exact ⟨_, hmissing, rfl⟩
  · exact ⟨_, hinvalid, rfl⟩
  · exact ⟨_, hunknown, rfl⟩

/-- What is found in each of the rows foretells its outcome. -/
def Foretells (rows : List RawRow) (found : List (List RowIssue)) (outcomes : List Outcome) :
    Prop :=
  ∀ (i : Nat) (raw : RawRow), rows[i]? = some raw → ∃ (issues : List Issue) (outcome : Outcome),
    found[i]? = some (issues.map (RowIssue.mk raw.row)) ∧
    outcomes[i]? = some outcome ∧
    outcome.Foretold raw issues

theorem Run.foretells_handleAll
    (run : Run) (c : Catalog) (compared : Option CandidateIndex) (rows : List RawRow) :
    Foretells rows (run.policy.issuesFrom compared ∅ rows) (run.handleAll c rows).1 := by
  intro i raw hraw
  have hfound := run.policy.getElem?_issuesFrom compared ∅ raw hraw
  have houtcome := run.getElem?_handleAll c rows i
  rw [hraw, Option.map_some] at houtcome
  exact ⟨_, _, hfound, houtcome, run.foretold_handle _ raw compared _⟩

/-- Rows in which no errors are found are not skipped. -/
theorem rowError?_of_foretells
    {rows : List RawRow} {found : List (List RowIssue)} {outcomes : List Outcome}
    (hforetells : Foretells rows found outcomes) (hlength : outcomes.length = rows.length)
    (hvalid : found.flatten.filter (·.issue.isError) = []) {outcome : Outcome}
    (hmem : outcome ∈ outcomes) :
    outcome.rowError? = none := by
  obtain ⟨i, houtcome⟩ := List.mem_iff_getElem?.mp hmem
  obtain ⟨hi, -⟩ := List.getElem?_eq_some_iff.mp houtcome
  rw [hlength] at hi
  obtain ⟨issues, outcome', hfound, houtcome', hforetold⟩ :=
    hforetells i rows[i] (List.getElem?_eq_getElem hi)
  obtain rfl := Option.some.inj (houtcome.symm.trans houtcome')
  cases outcome with
  | decided record => rfl
  | failed error =>
      obtain ⟨issue, hissue, herror⟩ := exists_isError (hforetold.failed.mp ⟨error, rfl⟩)
      have hlisted : ⟨rows[i].row, issue⟩ ∈ found.flatten :=
        List.mem_flatten.mpr ⟨_, List.mem_of_getElem? hfound, List.mem_map_of_mem hissue⟩
      have hreported : ⟨rows[i].row, issue⟩ ∈ found.flatten.filter (·.issue.isError) :=
        List.mem_filter.mpr ⟨hlisted, herror⟩
      rw [hvalid] at hreported
      cases hreported

namespace CandidateIndex

variable {index : CandidateIndex} {policy : ImportPolicy} {cores : UInt64}

/-- What an import makes of a list of rows is foretold row by row by a validation, whether or not
the validation has an index to compare prices with.  If the validation finds no errors, there are
none in the import. -/
theorem importBatch_validated
    (hindex : index.Reachable) (haccepted : policy.Accepted cores)
    (compared : Option CandidateIndex) (rows : List RawRow) :
    let found := policy.issuesFrom compared ∅ rows
    let outcomes := (index.progress policy cores .never rows).outcomes
    ∃ report after,
      index.importBatch policy cores .never rows = .ok (report, after) ∧
      report.Lists outcomes ∧
      (policy.validateRows compared rows).errors = found.flatten.filter (·.issue.isError) ∧
      outcomes.length = rows.length ∧ found.length = rows.length ∧
      Foretells rows found outcomes ∧
      ((policy.validateRows compared rows).isValid = true → report.errors = 0) := by
  intro found outcomes
  have houtcomes : outcomes = (Run.handleAll ⟨index, policy⟩ index.catalog rows).1 := by
    simp only [outcomes, progress_never index haccepted]
  have hlength : outcomes.length = rows.length := by rw [houtcomes, Run.length_handleAll]
  have hforetells : Foretells rows found outcomes := by
    rw [houtcomes]
    exact Run.foretells_handleAll ⟨index, policy⟩ index.catalog compared rows
  refine ⟨_, _, importBatch_of_valid hindex.isEmpty_eq_false haccepted.valid,
    ImportReport.lists_tally _ _ _, rfl, hlength, policy.length_issuesFrom compared ∅ rows,
    hforetells, ?_⟩
  intro hvalid
  have hclean : ∀ outcome ∈ outcomes, outcome.rowError? = none := fun _ hmem =>
    rowError?_of_foretells hforetells hlength (List.isEmpty_iff.mp hvalid) hmem
  rw [ImportReport.tally_eq_ofOutcomes]
  exact List.length_eq_zero_iff.mpr (List.filterMap_eq_nil_iff.mpr hclean)

/-- A row of which neither the price nor the currency can be read, after one that is in order. -/
def flawedRows : List RawRow :=
  [sampleRow 1 "850" none, sampleRow 2 "free" (some "12")]

/-- The row is skipped for its price. -/
theorem importBatch_validated_sample :
    ∃ index error,
      build sampleEntries 20 = .ok index ∧
      (({} : ImportPolicy).validateRows none flawedRows).errors =
        [⟨2, .invalidPrice "free"⟩, ⟨2, .unknownCurrency "12"⟩] ∧
      (index.progress {} 4 .never flawedRows).outcomes[1]? = some (.failed error) ∧
      error.row = 2 ∧ error.kind = .invalidPrice := by
  obtain ⟨index, hbuild⟩ := exists_build_sampleEntries
  have haccepted : ({} : ImportPolicy).Accepted 4 := ⟨rfl, by decide, by decide⟩
  obtain ⟨report, after, -, -, -, -, -, hrows, -⟩ :=
    importBatch_validated (.built hbuild) haccepted none flawedRows
  obtain ⟨issues, outcome, hfound, houtcome, hforetold⟩ := hrows 1 _ rfl
  let expected : List Issue :=
    [.invalidPrice "free", .unknownCurrency "12", .duplicateIsbn "9785699123456" 1]
  have hexpected : (({} : ImportPolicy).issuesFrom none ∅ flawedRows)[1]? =
      some (expected.map (RowIssue.mk 2)) := by decide +kernel
  have hmk : Function.Injective (RowIssue.mk 2) := fun _ _ heq => (RowIssue.mk.inj heq).2
  have hissues : issues = expected :=
    List.map_injective_iff.mpr hmk (Option.some.inj (hfound.symm.trans hexpected))
  have hkey : .missingKey ∉ issues := by simp [hissues, expected]
  have hprice : ReportsPrice issues := .inr ⟨"free", hissues ▸ List.mem_cons_self⟩
  obtain ⟨error, rfl⟩ := hforetold.failed.mpr (.inr (.inl hprice))
  obtain ⟨hrow, htold⟩ := hforetold.told error rfl
  exact ⟨index, error, hbuild, by decide +kernel, houtcome, hrow,
    htold.invalidPrice.mpr ⟨hkey, hprice⟩⟩

end CandidateIndex

end Repricing
