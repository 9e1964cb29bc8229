import Repricing.Proofs.Import.Accepted

/-!
# Rows that write no price can be left out

A row by which no price is written has no influence on other rows.  Leaving such rows out shifts the
chunks of a run, but the outcomes of the other rows and the prices at the end stay as they are.
-/

namespace Repricing

/-- The elements of a list, apart from those at dropped positions. -/
def without {α : Type} (dropped : Nat → Bool) : List α → List α
  | [] => []
  | x :: xs =>
    if dropped 0 then without (fun i => dropped (i + 1)) xs
    else x :: without (fun i => dropped (i + 1)) xs

/-- The lists of the report are made up of the outcomes' items, in their order. -/
structure ImportReport.Lists (report : ImportReport) (outcomes : List Outcome) : Prop where
  rowErrors : report.rowErrors.toList = outcomes.filterMap Outcome.rowError?
  decisions : report.decisions.toList = outcomes.filterMap Outcome.held?
  priceChanges : report.priceChanges.toList = outcomes.filterMap Outcome.priceChange?

theorem ImportReport.lists_tally (dryRun cancelled : Bool) (outcomes : List Outcome) :
    (tally dryRun cancelled outcomes).Lists outcomes := by
  rw [tally_eq_ofOutcomes]
  exact ⟨rfl, rfl, rfl⟩

/-- Without rows that write no price, the other rows come to the same. -/
theorem Run.handleAll_without
    (run : Run) (c : Catalog) (dropped : Nat → Bool) (rows : List RawRow)
    (hdropped : ∀ i outcome, dropped i = true → (run.handleAll c rows).1[i]? = some outcome →
      outcome.wrote = false) :
    run.handleAll c (without dropped rows) =
      (without dropped (run.handleAll c rows).1, run.catalogAfter c rows) := by
  induction rows generalizing c dropped with
  | nil => rfl
  | cons raw rest ih =>
      have hrest := ih (run.handle c raw).2 (fun i => dropped (i + 1)) fun i outcome =>
        hdropped (i + 1) outcome
      rw [catalogAfter, handleAll_cons, ← catalogAfter, without, without]
      cases hfirst : dropped 0 with
      | true =>
          have hkept := run.handle_of_not_wrote c raw (hdropped 0 _ hfirst rfl)
          rw [hkept] at hrest ⊢
          exact hrest
      | false =>
          simp only [Bool.false_eq_true, if_false]
          rw [handleAll_cons, hrest]

namespace CandidateIndex

variable {index : CandidateIndex} {policy : ImportPolicy} {cores : UInt64}

/-- Rows that have written no price can be left out: the outcomes of the other rows, the items of
the report that stem from them, and the prices at the end stay the same. -/
theorem importBatch_without
    (hindex : index.Reachable) (haccepted : policy.Accepted cores) (rows : List RawRow)
    (dropped : Nat → Bool)
    (hdropped : ∀ i outcome, dropped i = true →
      (index.progress policy cores .never rows).outcomes[i]? = some outcome →
        outcome.wrote = false) :
    let outcomes := (index.progress policy cores .never rows).outcomes
    ∃ report report' after,
      index.importBatch policy cores .never rows = .ok (report, after) ∧
      index.importBatch policy cores .never (without dropped rows) = .ok (report', after) ∧
      outcomes.length = rows.length ∧
      (index.progress policy cores .never (without dropped rows)).outcomes =
        without dropped outcomes ∧
      report.Lists outcomes ∧ report'.Lists (without dropped outcomes) := by
  have hlong := importBatch_never hindex haccepted rows
  have hshort := importBatch_never hindex haccepted (without dropped rows)
  rw [progress_never index haccepted] at hdropped
  rw [progress_never index haccepted, progress_never index haccepted]
  rw [Run.catalogAfter, Run.handleAll_without _ _ dropped rows hdropped] at hshort
  rw [Run.handleAll_without _ _ dropped rows hdropped]
  exact ⟨_, _, _, hlong, hshort, Run.length_handleAll _ _ rows, rfl,
    ImportReport.lists_tally _ _ _, ImportReport.lists_tally _ _ _⟩

/-- A row without a key between two rows that change the price of an entry. -/
def interruptedRows : List RawRow :=
  [sampleRow 1 "850" none, RawRow.blank 2, sampleRow 3 "900" none]

/-- The row without a key can be left out. -/
theorem importBatch_without_sample :
    ∃ index, build sampleEntries 20 = .ok index ∧
      (index.progress {} 4 .never interruptedRows).outcomes.map Outcome.wrote =
        [true, false, true] ∧
      (index.progress {} 4 .never [sampleRow 1 "850" none, sampleRow 3 "900" none]).outcomes =
        without (· = 1) (index.progress {} 4 .never interruptedRows).outcomes := by
  obtain ⟨index, hbuild⟩ := exists_build_sampleEntries
  have hwrote : ((build sampleEntries 20).map fun index =>
      (index.progress {} 4 .never interruptedRows).outcomes.map Outcome.wrote) =
        .ok [true, false, true] := by decide +kernel
  rw [hbuild] at hwrote
  have hlist := Except.ok.inj hwrote
  have hdropped : ∀ i outcome, decide (i = 1) = true →
      (index.progress {} 4 .never interruptedRows).outcomes[i]? = some outcome →
        outcome.wrote = false := by
    intro i outcome hi houtcome
    obtain rfl : i = 1 := of_decide_eq_true hi
    have hsecond := congrArg (·[1]?) hlist
    dsimp only at hsecond
    rw [List.getElem?_map, houtcome] at hsecond
    exact Option.some.inj hsecond
  have haccepted : ({} : ImportPolicy).Accepted 4 := ⟨rfl, by decide, by decide⟩
  obtain ⟨report, report', after, -, -, -, hshort, -⟩ :=
    importBatch_without (.built hbuild) haccepted interruptedRows (· = 1) hdropped
  exact ⟨index, hbuild, hlist, hshort⟩

end CandidateIndex

end Repricing
