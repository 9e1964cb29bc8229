import Repricing.Proofs.Import.Accepted
import Repricing.Proofs.Import.Tally

/-!
# Cancelled runs

A cancelled run is a run over fewer rows: those that it has taken up by then, none of them by
halves.  If it is cancelled while a row is handed out, these are the rows of the whole chunks before
that row.
-/

namespace Repricing

theorem ImportReport.tally_cancelled (dryRun cancelled : Bool) (outcomes : List Outcome) :
    tally dryRun cancelled outcomes = { tally dryRun false outcomes with cancelled } := by
  rw [tally_eq_ofOutcomes, tally_eq_ofOutcomes]
  rfl

namespace CandidateIndex

variable {index : CandidateIndex} {policy : ImportPolicy} {cores : UInt64}

/-- A run reports and writes what a run over the rows that it takes up would, which is not
cancelled. -/
theorem importBatch_of_dispatch
    (hindex : index.Reachable) (haccepted : policy.Accepted cores)
    {cancellation : Cancellation} {rows taken : List RawRow} {cancelled : Bool}
    (hdispatch : cancellation.dispatch (64 * (policy.workerCount cores).toNat) 0 rows =
      (taken, cancelled)) :
    ∃ report after,
      index.importBatch policy cores .never taken = .ok (report, after) ∧
      report.cancelled = false ∧
      index.importBatch policy cores cancellation rows =
        .ok ({ report with cancelled }, after) := by
  refine ⟨_, _, importBatch_never hindex haccepted taken, ?_, ?_⟩
  · rw [ImportReport.tally_eq_ofOutcomes]
    rfl
  · have hflag := ImportReport.tally_cancelled policy.isDryRun cancelled
      (Run.handleAll ⟨index, policy⟩ index.catalog taken).1
    rw [← haccepted.toNat_chunkSize] at hdispatch
    rw [importBatch_of_valid hindex.isEmpty_eq_false haccepted.valid, progress, Run.chunks_eq,
      hdispatch]
    dsimp only
    rw [hflag]

/-- A run that is cancelled while the source hands out a row reports and writes what a run over the
whole chunks before this row would, apart from being cancelled.  Cancelled before its start it takes
up nothing, and cancelled after the last row it takes up everything. -/
theorem importBatch_atRow
    (hindex : index.Reachable) (haccepted : policy.Accepted cores) (rows : List RawRow) :
    let size := 64 * (policy.workerCount cores).toNat
    (∀ n, 1 ≤ n → n ≤ rows.length →
      ∃ report after,
        index.importBatch policy cores .never (rows.take (size * ((n - 1) / size))) =
          .ok (report, after) ∧
        index.importBatch policy cores (.atRow n) rows =
          .ok ({ report with cancelled := true }, after)) ∧
    (∃ report,
      index.importBatch policy cores .beforeStart rows = .ok (report, index) ∧
        report.total = 0 ∧ report.cancelled = true) ∧
    ∀ n, rows.length < n →
      ∃ report after,
        index.importBatch policy cores .never rows = .ok (report, after) ∧
        report.cancelled = false ∧
        index.importBatch policy cores (.atRow n) rows = .ok (report, after) := by
  intro size
  have hsize : 0 < size := by
    have hpos := haccepted.chunkSize_pos
    rwa [haccepted.toNat_chunkSize] at hpos
  refine ⟨?_, ?_, ?_⟩
  · intro n hpos hn
    have hdispatch : (Cancellation.atRow n).dispatch size 0 rows =
        (rows.take (size * ((n - 1) / size)), true) :=
      Cancellation.dispatch_atRow hsize 0 rows hpos (by omega)
    obtain ⟨report, after, hrun, -, hcancelled⟩ :=
      importBatch_of_dispatch hindex haccepted hdispatch
    exact ⟨report, after, hrun, hcancelled⟩
  · obtain ⟨report, after, hrun, -, hcancelled⟩ :=
      importBatch_of_dispatch hindex haccepted (Cancellation.dispatch_beforeStart size rows)
    rw [importBatch_never hindex haccepted] at hrun
    obtain ⟨rfl, rfl⟩ := Prod.mk.inj (Except.ok.inj hrun)
    exact ⟨_, hcancelled, rfl, rfl⟩
  · intro n hn
    obtain ⟨report, after, hrun, hnot, hall⟩ :=
      importBatch_of_dispatch hindex haccepted
        (Cancellation.dispatch_atRow_of_length_lt hsize rows hn)
    refine ⟨report, after, hrun, hnot, ?_⟩
    rw [hall, ← hnot]

/-- Rows for a single worker, whose chunks have sixty-four rows. -/
def manyRows : List RawRow :=
  (List.range 150).map fun i => sampleRow (UInt64.ofNat (i + 1)) "850" none

/-- If the run is cancelled while the hundred and twenty-ninth row is handed out, two chunks are
done.  One row earlier it is one chunk. -/
theorem importBatch_atRow_sample :
    ∃ index, build sampleEntries 20 = .ok index ∧
      (∃ report after,
        index.importBatch { options.workers := some 1 } 4 .never (manyRows.take 128) =
          .ok (report, after) ∧
        index.importBatch { options.workers := some 1 } 4 (.atRow 129) manyRows =
          .ok ({ report with cancelled := true }, after)) ∧
      ∃ report after,
        index.importBatch { options.workers := some 1 } 4 .never (manyRows.take 64) =
          .ok (report, after) ∧
        index.importBatch { options.workers := some 1 } 4 (.atRow 128) manyRows =
          .ok ({ report with cancelled := true }, after) := by
  obtain ⟨index, hbuild⟩ := exists_build_sampleEntries
  have haccepted : ({ options.workers := some 1 } : ImportPolicy).Accepted 4 :=
    ⟨rfl, by decide, by decide⟩
  have hlength : manyRows.length = 150 := by simp [manyRows]
  obtain ⟨hrow, -, -⟩ := importBatch_atRow (.built hbuild) haccepted manyRows
  exact ⟨index, hbuild, hrow 129 (by decide) (by omega), hrow 128 (by decide) (by omega)⟩

end CandidateIndex

end Repricing
