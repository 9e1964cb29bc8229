import Repricing.Proofs.Import.Issues

/-!
# Validation reports

The report about two lists of rows, one after the other, puts together the reports about each.
Only the warnings about ISBNs that appeared before look across: they name the first row that has
the ISBN, be it in order or not.
-/

namespace Repricing

/-! ## Issues that do not concern earlier rows -/

namespace ImportPolicy

variable (policy : ImportPolicy) (compared : Option CandidateIndex)

/-- What does not concern earlier rows is listed row by row. -/
theorem filter_flatten_issuesFrom
    (seen : SeenIsbns) (rows : List RawRow) {p : Issue → Bool}
    (hlocal : ∀ isbn first, p (.duplicateIsbn isbn first) = false) :
    (policy.issuesFrom compared seen rows).flatten.filter (fun issue => p issue.issue) =
      rows.flatMap fun raw =>
        ((raw.faults policy.options ++ raw.remarks policy compared).filter p).map
          (RowIssue.mk raw.row) := by
  induction rows generalizing seen with
  | nil => rfl
  | cons raw rest ih =>
      rw [issuesFrom, List.flatten_cons, List.filter_append, ih, List.flatMap_cons,
        List.filter_map, ← policy.filter_rowIssues compared seen raw hlocal]
      rfl

/-- Whether a row has errors does not depend on the rows before it. -/
theorem countP_issuesFrom (seen : SeenIsbns) (rows : List RawRow) :
    ((policy.issuesFrom compared seen rows).countP fun ofRow => ofRow.any (·.issue.isError)) =
      rows.countP fun raw => !(raw.faults policy.options).isEmpty := by
  induction rows generalizing seen with
  | nil => rfl
  | cons raw rest ih =>
      have hremarks : (raw.remarks policy compared).any Issue.isError = false := by
        rw [List.any_eq_false]
        intro issue hissue
        rcases RawRow.of_mem_remarks hissue with rfl | ⟨offered, current, entry, change, rfl⟩
        · exact Bool.false_ne_true
        · exact Bool.false_ne_true
      have hany : (policy.rowIssues compared seen raw).any Issue.isError =
          !(raw.faults policy.options).isEmpty := by
        rw [rowIssues_eq, List.any_append, List.any_append, SeenIsbns.any_isError_issues, hremarks,
          Bool.or_false, Bool.or_false, RawRow.any_isError_faults]
      rw [issuesFrom, List.countP_cons, List.countP_cons, ih, List.any_map, ← hany]
      rfl

end ImportPolicy

/-! ## Repeated ISBNs -/

/-- Whether two rows have the same ISBN. -/
def RawRow.SharesIsbn (raw other : RawRow) : Prop :=
  ∃ isbn, (MatchKeys.ofRow raw).isbn = some isbn ∧ (MatchKeys.ofRow other).isbn = some isbn

/-- The warnings about the ISBN of a row, given the rows before it. -/
inductive RawRow.Repetition (raw : RawRow) (earlier : List RawRow) : List Issue → Prop where
  | unseen (hnew : ∀ other ∈ earlier, ¬ raw.SharesIsbn other) : Repetition raw earlier []
  | seen (before after : List RawRow) (first : RawRow) (isbn : String)
      (hearlier : earlier = before ++ first :: after)
      (hnew : ∀ other ∈ before, ¬ raw.SharesIsbn other)
      (hraw : (MatchKeys.ofRow raw).isbn = some isbn)
      (hfirst : (MatchKeys.ofRow first).isbn = some isbn) :
      Repetition raw earlier [.duplicateIsbn isbn first.row]

theorem RawRow.repetition_repeats (raw : RawRow) (earlier : List RawRow) :
    raw.Repetition earlier (raw.repeats earlier) := by
  unfold repeats
  cases hraw : (MatchKeys.ofRow raw).isbn with
  | none =>
      apply Repetition.unseen
      rintro other - ⟨isbn, hisbn, -⟩
      rw [hraw] at hisbn
      cases hisbn
  | some isbn =>
      have hshares : ∀ other, raw.SharesIsbn other ↔ (MatchKeys.ofRow other).isbn = some isbn := by
        intro other
        simp [SharesIsbn, hraw]
      dsimp only [Option.bind_some]
      cases hfind : earlier.find? fun other => (MatchKeys.ofRow other).isbn == some isbn with
      | none =>
          apply Repetition.unseen
          intro other hother
          rw [hshares, ← beq_iff_eq]
          exact List.find?_eq_none.mp hfind other hother
      | some first =>
          obtain ⟨hfirst, before, after, hearlier, hnew⟩ :=
            List.find?_eq_some_iff_append.mp hfind
          refine .seen before after first isbn hearlier ?_ hraw (beq_iff_eq.mp hfirst)
          intro other hother
          rw [hshares, ← beq_iff_eq, Bool.not_eq_true, ← Bool.not_eq_true']
          exact hnew other hother

/-- All that a validation says about the ISBN of a row next to those of earlier rows. -/
theorem ImportPolicy.filter_isDuplicate_rowIssues
    (policy : ImportPolicy) (compared : Option CandidateIndex) (earlier : List RawRow)
    (raw : RawRow) :
    (policy.rowIssues compared (SeenIsbns.after ∅ earlier) raw).filter Issue.isDuplicate =
      raw.repeats earlier := by
  have hfaults : (raw.faults policy.options).filter Issue.isDuplicate = [] := by
    rw [List.filter_eq_nil_iff]
    intro issue hissue hduplicate
    obtain ⟨isbn, first, rfl⟩ := Issue.exists_of_isDuplicate hduplicate
    cases RawRow.isError_of_mem_faults hissue
  have hremarks : (raw.remarks policy compared).filter Issue.isDuplicate = [] := by
    rw [List.filter_eq_nil_iff]
    intro issue hissue
    rcases RawRow.of_mem_remarks hissue with rfl | ⟨offered, current, entry, change, rfl⟩
    · exact Bool.false_ne_true
    · exact Bool.false_ne_true
  rw [rowIssues_eq, List.filter_append, List.filter_append, hfaults, hremarks, List.nil_append,
    List.append_nil, ← SeenIsbns.issues_after, List.filter_eq_self]
  intro issue hissue
  obtain ⟨isbn, first, rfl⟩ := SeenIsbns.exists_of_mem_issues hissue
  rfl

/-! ## Reports -/

/-- A report says how many rows have errors, and lists errors and warnings apart. -/
structure ValidationReport.Tells (report : ValidationReport) (found : List (List RowIssue)) :
    Prop where
  total : report.totalRows = found.length
  invalid : report.invalidRows = found.countP fun ofRow => ofRow.any (·.issue.isError)
  errors : report.errors = found.flatten.filter (·.issue.isError)
  warnings : report.warnings = found.flatten.filter (!·.issue.isError)
  errorKinds : ∀ error ∈ report.errors, error.issue.isError = true
  warningKinds : ∀ warning ∈ report.warnings, warning.issue.isError = false
  valid : report.isValid = true ↔ report.invalidRows = 0

/-- A report puts together the reports about the first rows and about the others, apart from the
warnings about ISBNs that appeared before. -/
structure ValidationReport.Joins (report first second : ValidationReport) : Prop where
  total : report.totalRows = first.totalRows + second.totalRows
  invalid : report.invalidRows = first.invalidRows + second.invalidRows
  errors : report.errors = first.errors ++ second.errors
  warnings : report.warnings.filter (!·.issue.isDuplicate) =
    first.warnings.filter (!·.issue.isDuplicate) ++ second.warnings.filter (!·.issue.isDuplicate)

namespace ImportPolicy

variable (policy : ImportPolicy) (compared : Option CandidateIndex)

theorem tells_validateRows (rows : List RawRow) :
    (policy.validateRows compared rows).Tells (policy.issuesFrom compared ∅ rows) := by
  refine ⟨(policy.length_issuesFrom compared ∅ rows).symm, rfl, rfl, rfl, ?_, ?_, ?_⟩
  · intro error herror
    exact (List.mem_filter.mp herror).2
  · intro warning hwarning
    rw [← Bool.not_eq_true']
    exact (List.mem_filter.mp hwarning).2
  · have hclean : ∀ found : List (List RowIssue),
        found.flatten.filter (·.issue.isError) = [] ↔
          (found.countP fun ofRow => ofRow.any (·.issue.isError)) = 0 := by
      intro found
      simp [List.filter_eq_nil_iff, List.countP_eq_zero]
    exact List.isEmpty_iff.trans (hclean _)

theorem joins_validateRows (first second : List RawRow) :
    (policy.validateRows compared (first ++ second)).Joins
      (policy.validateRows compared first) (policy.validateRows compared second) := by
  constructor
  · exact List.length_append
  · simp only [validateRows, countP_issuesFrom, List.countP_append]
  · have herrors := fun rows =>
      policy.filter_flatten_issuesFrom compared ∅ rows (p := Issue.isError) fun _ _ => rfl
    simp only [validateRows, herrors, List.flatMap_append]
  · have hwarnings := fun rows =>
      policy.filter_flatten_issuesFrom compared ∅ rows
        (p := fun issue => !issue.isDuplicate && !issue.isError) fun _ _ => rfl
    simp only [validateRows, List.filter_filter, hwarnings, List.flatMap_append]

/-- A validation of rows that follow others adds up, but for the warnings about ISBNs that appeared
before.  A row gets one of these if an earlier row of the list has its ISBN, and it names the first
of them. -/
theorem validateRows_append :
    (∀ first second : List RawRow,
      (policy.validateRows compared (first ++ second)).Joins
        (policy.validateRows compared first) (policy.validateRows compared second)) ∧
    ∀ rows : List RawRow,
      let found := policy.issuesFrom compared ∅ rows
      (policy.validateRows compared rows).Tells found ∧
      ∀ (i : Nat) (raw : RawRow), rows[i]? = some raw →
        ∃ issues : List Issue,
          found[i]? = some (issues.map (RowIssue.mk raw.row)) ∧
          raw.Repetition (rows.take i) (issues.filter Issue.isDuplicate) := by
  refine ⟨policy.joins_validateRows compared, ?_⟩
  intro rows found
  refine ⟨policy.tells_validateRows compared rows, ?_⟩
  intro i raw hraw
  refine ⟨_, policy.getElem?_issuesFrom compared ∅ raw hraw, ?_⟩
  rw [filter_isDuplicate_rowIssues]
  exact raw.repetition_repeats _

/-- Two rows for one book, with a row for another in between.  The first of them has no price. -/
def repeatedRows : List RawRow :=
  [{ RawRow.blank 1 with isbn := some "9785699123456" },
   { RawRow.blank 2 with title := some "Dead Souls", price := some "410" },
   { RawRow.blank 3 with isbn := some "978-5-699-12345-6", price := some "850" }]

/-- The last row repeats the ISBN of the first, although this one is not in order. -/
theorem validateRows_append_sample :
    ∃ issues : List Issue,
      (({} : ImportPolicy).issuesFrom none ∅ repeatedRows)[2]? =
        some (issues.map (RowIssue.mk 3)) ∧
      repeatedRows[2].Repetition (repeatedRows.take 2) (issues.filter Issue.isDuplicate) ∧
      (({} : ImportPolicy).validateRows none repeatedRows).warnings =
        [⟨3, .duplicateIsbn "9785699123456" 1⟩] ∧
      (({} : ImportPolicy).validateRows none repeatedRows).Joins
        (({} : ImportPolicy).validateRows none (repeatedRows.take 2))
        (({} : ImportPolicy).validateRows none (repeatedRows.drop 2)) := by
  obtain ⟨hjoins, hrows⟩ := validateRows_append {} none
  obtain ⟨-, hissues⟩ := hrows repeatedRows
  obtain ⟨issues, hfound, hrepetition⟩ := hissues 2 repeatedRows[2] rfl
  exact ⟨issues, hfound, hrepetition, by decide +kernel,
    hjoins (repeatedRows.take 2) (repeatedRows.drop 2)⟩

end ImportPolicy

end Repricing
