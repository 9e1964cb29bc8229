import Repricing.Import.Validation
import Repricing.Proofs.Matching.Postings
import Repricing.Proofs.PriceList.Conversion

/-!
# The issues of a row

Five checks find the errors of a row, and they look at nothing but the row.  Its warnings tell of
an ISBN that appeared before, of odd characters, and of a price that is far from the current one.
Only the first of these depends on the rows before, by the first of them that has the ISBN.
-/

namespace Repricing

namespace Issue

/-- Whether the issue is an ISBN that appeared before. -/
def isDuplicate : Issue → Bool
  | .duplicateIsbn _ _ => true
  | _ => false

variable {issue : Issue}

theorem exists_of_isDuplicate (hduplicate : issue.isDuplicate = true) :
    ∃ isbn first, issue = .duplicateIsbn isbn first := by
  cases issue with
  | duplicateIsbn isbn first => exact ⟨isbn, first, rfl⟩
  | _ => cases hduplicate

end Issue

variable {issue : Issue}

/-! ## What the checks find -/

namespace RawRow

variable {raw : RawRow} {policy : ImportPolicy} {options : ImportOptions}

theorem mem_keyIssues :
    issue ∈ raw.keyIssues ↔ issue = .missingKey ∧ (MatchKeys.ofRow raw).isUsable = false := by
  unfold keyIssues
  cases (MatchKeys.ofRow raw).isUsable <;> simp

theorem exists_of_mem_isbnIssues (hmem : issue ∈ raw.isbnIssues) :
    ∃ isbn, issue = .malformedIsbn isbn := by
  unfold isbnIssues at hmem
  split at hmem
  · cases hmem
  · split at hmem
    · exact ⟨_, List.mem_singleton.mp hmem⟩
    · cases hmem

theorem eq_of_mem_lengthIssues (hmem : issue ∈ raw.lengthIssues) : issue = .titleTooLong := by
  unfold lengthIssues at hmem
  split at hmem
  · exact List.mem_singleton.mp hmem
  · cases hmem

/-- Validation finds fault with the prices that cannot be read, and with no others. -/
theorem mem_priceIssues :
    issue ∈ raw.priceIssues ↔
      (issue = .missingPrice ∧ raw.amount = .error .priceMissing) ∨
        ∃ text, issue = .invalidPrice text ∧ raw.amount = .error (.badPrice text) := by
  unfold priceIssues amount
  cases Text.present raw.price with
  | none => simp
  | some text =>
      dsimp only
      cases readPrice? text with
      | none => simp [eq_comm]
      | some amount => simp

/-- Validation finds fault with the currencies that cannot be read, and with those that are not
allowed. -/
theorem mem_currencyIssues :
    issue ∈ raw.currencyIssues options ↔
      ∃ text, issue = .unknownCurrency text ∧ Text.present raw.currency = some text ∧
        (Currency.read? text).filter options.allows = none := by
  unfold currencyIssues acceptedCurrency?
  cases Text.present raw.currency with
  | none => simp
  | some text =>
      dsimp only
      constructor
      · intro hmem
        split at hmem
        · next hread =>
            exact ⟨text, List.mem_singleton.mp hmem, rfl, Option.isNone_iff_eq_none.mp hread⟩
        · cases hmem
      · rintro ⟨_, rfl, heq, hread⟩
        obtain rfl := Option.some.inj heq
        rw [if_pos (Option.isNone_iff_eq_none.mpr hread)]
        exact List.mem_singleton_self _

theorem eq_of_mem_titleIssues (hmem : issue ∈ raw.titleIssues) : issue = .specialCharacters := by
  unfold titleIssues at hmem
  split at hmem
  · exact List.mem_singleton.mp hmem
  · cases hmem

theorem exists_of_mem_deviationIssues
    {index : CandidateIndex} {currency : Currency}
    (hmem : issue ∈ raw.deviationIssues policy index currency) :
    ∃ offered current entry change, issue = .priceDeviation offered current entry change := by
  unfold deviationIssues at hmem
  split at hmem
  · cases hmem
  · split at hmem
    · cases hmem
    · dsimp only at hmem
      split at hmem
      · cases hmem
      · split at hmem
        · exact ⟨_, _, _, _, List.mem_singleton.mp hmem⟩
        · cases hmem

/-! ## Errors and warnings -/

/-- The errors of a row. -/
def faults (raw : RawRow) (options : ImportOptions) : List Issue :=
  raw.keyIssues ++ raw.isbnIssues ++ raw.lengthIssues ++ raw.priceIssues
    ++ raw.currencyIssues options

theorem isError_of_mem_faults (hmem : issue ∈ raw.faults options) : issue.isError = true := by
  simp only [faults, List.mem_append] at hmem
  rcases hmem with (((hkey | hisbn) | hlength) | hprice) | hcurrency
  · obtain ⟨rfl, -⟩ := mem_keyIssues.mp hkey
    rfl
  · obtain ⟨isbn, rfl⟩ := exists_of_mem_isbnIssues hisbn
    rfl
  · obtain rfl := eq_of_mem_lengthIssues hlength
    rfl
  · rcases mem_priceIssues.mp hprice with ⟨rfl, -⟩ | ⟨text, rfl, -⟩
    · rfl
    · rfl
  · obtain ⟨text, rfl, -⟩ := mem_currencyIssues.mp hcurrency
    rfl

theorem any_isError_faults :
    (raw.faults options).any Issue.isError = !(raw.faults options).isEmpty := by
  cases hfaults : raw.faults options with
  | nil => rfl
  | cons issue rest =>
      have hissue : issue ∈ raw.faults options := hfaults ▸ List.mem_cons_self
      rw [List.any_cons, isError_of_mem_faults hissue]
      rfl

/-- The warnings that a row gets whatever rows come before it.  Its price is compared with the
current one only if the row has no errors. -/
def remarks (raw : RawRow) (policy : ImportPolicy) (compared : Option CandidateIndex) :
    List Issue :=
  raw.titleIssues ++
    match (raw.faults policy.options).isEmpty, compared,
      raw.acceptedCurrency? policy.options with
    | true, some index, some currency => raw.deviationIssues policy index currency
    | _, _, _ => []

/-- The warnings of a row by itself are about odd characters and far prices. -/
theorem of_mem_remarks
    {compared : Option CandidateIndex} (hmem : issue ∈ raw.remarks policy compared) :
    issue = .specialCharacters ∨
      ∃ offered current entry change, issue = .priceDeviation offered current entry change := by
  unfold remarks at hmem
  rcases List.mem_append.mp hmem with htitle | hdeviation
  · exact .inl (eq_of_mem_titleIssues htitle)
  · split at hdeviation
    · exact .inr (exists_of_mem_deviationIssues hdeviation)
    · cases hdeviation

end RawRow

/-! ## ISBNs that appeared before -/

namespace SeenIsbns

variable {seen : SeenIsbns} {isbn : Option String}

theorem exists_of_mem_issues (hmem : issue ∈ seen.issues isbn) :
    ∃ isbn first, issue = .duplicateIsbn isbn first := by
  unfold issues at hmem
  split at hmem
  · cases hmem
  · split at hmem
    · exact ⟨_, _, List.mem_singleton.mp hmem⟩
    · cases hmem

theorem any_isError_issues : (seen.issues isbn).any Issue.isError = false := by
  rw [List.any_eq_false]
  intro issue hissue
  obtain ⟨isbn, first, rfl⟩ := exists_of_mem_issues hissue
  exact Bool.false_ne_true

theorem getElem?_note (seen : SeenIsbns) (noted : Option String) (row : UInt64) (isbn : String) :
    (seen.note noted row)[isbn]? =
      seen[isbn]?.or (if noted = some isbn then some row else none) := by
  cases noted with
  | none => simp [note]
  | some other => simp only [note, getElem?_insertIfNew, Option.some.injEq]

/-- The ISBNs of rows, noted one row after the other. -/
def after (seen : SeenIsbns) (rows : List RawRow) : SeenIsbns :=
  rows.foldl (fun seen raw => seen.note (MatchKeys.ofRow raw).isbn raw.row) seen

/-- An ISBN stands with the number of the first row that has it. -/
theorem getElem?_after (seen : SeenIsbns) (rows : List RawRow) (isbn : String) :
    (seen.after rows)[isbn]? =
      seen[isbn]?.or
        ((rows.find? fun raw => (MatchKeys.ofRow raw).isbn == some isbn).map (·.row)) := by
  induction rows generalizing seen with
  | nil => simp [after]
  | cons first rest ih =>
      have hafter : seen.after (first :: rest) =
          (seen.note (MatchKeys.ofRow first).isbn first.row).after rest := rfl
      rw [hafter, ih, getElem?_note, Option.or_assoc, List.find?_cons]
      by_cases hisbn : (MatchKeys.ofRow first).isbn = some isbn
      · simp [hisbn]
      · have hother : ((MatchKeys.ofRow first).isbn == some isbn) = false :=
          beq_eq_false_iff_ne.mpr hisbn
        simp [hisbn, hother]

end SeenIsbns

/-- The warning about a row whose ISBN an earlier row has.  It names the first of these rows. -/
def RawRow.repeats (raw : RawRow) (earlier : List RawRow) : List Issue :=
  ((MatchKeys.ofRow raw).isbn.bind fun isbn =>
    (earlier.find? fun other => (MatchKeys.ofRow other).isbn == some isbn).map fun first =>
      .duplicateIsbn isbn first.row).toList

theorem SeenIsbns.issues_after (earlier : List RawRow) (raw : RawRow) :
    (SeenIsbns.after ∅ earlier).issues (MatchKeys.ofRow raw).isbn = raw.repeats earlier := by
  unfold issues RawRow.repeats
  cases (MatchKeys.ofRow raw).isbn with
  | none => rfl
  | some isbn =>
      dsimp only [Option.bind_some]
      rw [getElem?_after, Std.TreeMap.getElem?_emptyc, Option.none_or]
      cases earlier.find? fun other => (MatchKeys.ofRow other).isbn == some isbn with
      | none => rfl
      | some first => rfl

/-! ## The issues of a row of a list -/

namespace ImportPolicy

variable (policy : ImportPolicy) (compared : Option CandidateIndex) (seen : SeenIsbns)
  (raw : RawRow)

/-- A row has an error if one of the five checks finds one. -/
theorem any_isError_eq :
    (raw.faults policy.options ++ seen.issues (MatchKeys.ofRow raw).isbn
      ++ raw.titleIssues).any Issue.isError = !(raw.faults policy.options).isEmpty := by
  have htitle : raw.titleIssues.any Issue.isError = false := by
    rw [List.any_eq_false]
    intro issue hissue
    obtain rfl := RawRow.eq_of_mem_titleIssues hissue
    exact Bool.false_ne_true
  rw [List.any_append, List.any_append, SeenIsbns.any_isError_issues, htitle, Bool.or_false,
    Bool.or_false, RawRow.any_isError_faults]

/-- The issues of a row are its errors, the warning about its ISBN, and its other warnings. -/
theorem rowIssues_eq :
    policy.rowIssues compared seen raw =
      raw.faults policy.options ++ seen.issues (MatchKeys.ofRow raw).isbn
        ++ raw.remarks policy compared := by
  have hany := policy.any_isError_eq seen raw
  unfold RawRow.faults at hany
  unfold rowIssues RawRow.remarks RawRow.faults
  dsimp only
  rw [hany, ← List.append_assoc]
  cases List.isEmpty _ with
  | false => simp
  | true =>
      cases compared with
      | none => simp
      | some index =>
          cases raw.acceptedCurrency? policy.options with
          | none => simp
          | some currency => rfl

/-- What does not concern earlier rows is found in a row whatever rows come before it. -/
theorem filter_rowIssues
    {p : Issue → Bool} (hlocal : ∀ isbn first, p (.duplicateIsbn isbn first) = false) :
    (policy.rowIssues compared seen raw).filter p =
      (raw.faults policy.options ++ raw.remarks policy compared).filter p := by
  have hseen : (seen.issues (MatchKeys.ofRow raw).isbn).filter p = [] := by
    rw [List.filter_eq_nil_iff]
    intro issue hissue
    obtain ⟨isbn, first, rfl⟩ := SeenIsbns.exists_of_mem_issues hissue
    rw [hlocal]
    exact Bool.false_ne_true
  rw [rowIssues_eq, List.filter_append, List.filter_append, hseen, List.append_nil,
    List.filter_append]

theorem length_issuesFrom (rows : List RawRow) :
    (policy.issuesFrom compared seen rows).length = rows.length := by
  induction rows generalizing seen with
  | nil => rfl
  | cons first rest ih =>
      rw [issuesFrom, List.length_cons, List.length_cons, ih]

/-- The issues of a row of a list are worked out from the row and the ISBNs of the rows before. -/
theorem getElem?_issuesFrom
    {rows : List RawRow} {i : Nat} (hraw : rows[i]? = some raw) :
    (policy.issuesFrom compared seen rows)[i]? =
      some ((policy.rowIssues compared (seen.after (rows.take i)) raw).map
        (RowIssue.mk raw.row)) := by
  induction rows generalizing seen i with
  | nil => cases hraw
  | cons first rest ih =>
      rw [issuesFrom]
      cases i with
      | zero =>
          obtain rfl := Option.some.inj hraw
          rfl
      | succ i => exact ih _ hraw

end ImportPolicy

end Repricing
