import Repricing.Proofs.Import.Accounting
import Repricing.Proofs.Import.ChunkedRun

/-!
# The size of a chunk

A chunk has sixty-four rows for each worker, in 64-bit arithmetic.  From `2 ^ 58` workers on the
product is too large and wraps around.  Where it comes out as zero, the first chunk is taken for the
end of the rows, and the run ends with none of them.
-/

namespace Repricing

/-! ## Wrapping around -/

/-- A chunk has sixty-four rows for each worker as long as the workers are fewer than `2 ^ 58`. -/
theorem toNat_chunkSize_eq_iff (workers : UInt64) :
    (chunkSize workers).toNat = 64 * workers.toNat ↔ workers.toNat < 2 ^ 58 := by
  rw [toNat_chunkSize]
  omega

theorem chunkSize_eq_zero_iff (workers : UInt64) :
    chunkSize workers = 0 ↔ 2 ^ 58 ∣ workers.toNat := by
  rw [← UInt64.toNat_inj, toNat_chunkSize]
  change 64 * workers.toNat % 2 ^ 64 = 0 ↔ _
  omega

theorem chunkSize_pos_iff (workers : UInt64) :
    1 ≤ (chunkSize workers).toNat ↔ ¬ 2 ^ 58 ∣ workers.toNat := by
  rw [← chunkSize_eq_zero_iff, ← UInt64.toNat_inj]
  exact Nat.one_le_iff_ne_zero

namespace ImportPolicy

variable {policy : ImportPolicy}

/-- Any number of workers does, if there is one at least. -/
theorem validate_withWorkers
    (hvalid : policy.validate = .ok ()) {workers : UInt64} (hworkers : workers ≠ 0) :
    ({ policy with options.workers := some workers } : ImportPolicy).validate = .ok () := by
  have hbefore := workers_ne_zero_of_valid hvalid
  have hafter : some workers ≠ some 0 := fun heq => hworkers (Option.some.inj heq)
  unfold validate at hvalid ⊢
  simp only [if_neg hbefore] at hvalid
  simp only [if_neg hafter]
  exact hvalid

end ImportPolicy

/-- Without rows in a chunk the rows are at their end at once. -/
theorem Cancellation.dispatch_never_zero (count : Nat) (rows : List RawRow) :
    never.dispatch 0 count rows = ([], false) := by
  rw [dispatch, List.take_zero, dif_pos rfl]
  rfl

theorem Cancellation.dispatch_never_chunkSize (workers : UInt64) (rows : List RawRow) :
    never.dispatch (chunkSize workers).toNat 0 rows =
      (if 2 ^ 58 ∣ workers.toNat then [] else rows, false) := by
  split
  · next hzero =>
      rw [(chunkSize_eq_zero_iff _).mpr hzero]
      exact dispatch_never_zero 0 rows
  · next hnonzero => exact dispatch_never ((chunkSize_pos_iff _).mpr hnonzero) 0 rows

namespace CandidateIndex

variable {index : CandidateIndex} {policy : ImportPolicy} {cores : UInt64}

/-- A run that is not cancelled handles all rows, or none of them if the size of its chunks comes
out as zero. -/
theorem importBatch_never_of_valid
    (hindex : index.Reachable) (hvalid : policy.validate = .ok ()) (cores : UInt64)
    (rows : List RawRow) :
    index.importBatch policy cores .never rows =
      let taken := if 2 ^ 58 ∣ (policy.workerCount cores).toNat then [] else rows
      .ok (.tally policy.isDryRun false (Run.handleAll ⟨index, policy⟩ index.catalog taken).1,
        { index with catalog := Run.catalogAfter ⟨index, policy⟩ index.catalog taken }) := by
  rw [importBatch_of_valid hindex.isEmpty_eq_false hvalid, progress, Run.chunks_eq,
    Cancellation.dispatch_never_chunkSize]

theorem total_tally (run : Run) (rows : List RawRow) :
    (ImportReport.tally run.policy.isDryRun false
      (run.handleAll run.index.catalog rows).1).total = rows.length := by
  rw [ImportReport.tally_eq_ofOutcomes]
  exact run.length_handleAll run.index.catalog rows

/-- The size of a chunk is the product without wrapping around exactly for fewer than `2 ^ 58`
workers. Beyond them a run still counts every row, and reports and writes what a run with one
worker does, unless the workers are a multiple of `2 ^ 58`. In that case it counts no row and
writes nothing, in a report that is balanced and not cancelled. -/
theorem importBatch_total
    (hindex : index.Reachable) (hvalid : policy.validate = .ok ()) (hcores : cores ≠ 0)
    (rows : List RawRow) :
    let workers := (policy.workerCount cores).toNat
    0 < workers ∧
    ((chunkSize (policy.workerCount cores)).toNat = 64 * workers ↔ workers < 2 ^ 58) ∧
    (1 ≤ (chunkSize (policy.workerCount cores)).toNat ↔ ¬ 2 ^ 58 ∣ workers) ∧
    ∃ report after,
      index.importBatch policy cores .never rows = .ok (report, after) ∧
      report.cancelled = false ∧ report.Balanced ∧
      report.total = (if 2 ^ 58 ∣ workers then 0 else rows.length) ∧
      (2 ^ 58 ∣ workers → after = index) ∧
      (¬ 2 ^ 58 ∣ workers →
        index.importBatch { policy with options.workers := some 1 } cores .never rows =
          .ok (report, after)) := by
  intro workers
  have hworkers : policy.workerCount cores ≠ 0 :=
    ImportPolicy.workerCount_ne_zero_of_valid hvalid hcores
  refine ⟨?_, toNat_chunkSize_eq_iff _, chunkSize_pos_iff _, _, _,
    importBatch_never_of_valid hindex hvalid cores rows, ?_, ImportReport.balanced_tally _ _ _,
    ?_, ?_, ?_⟩
  · exact Nat.pos_of_ne_zero fun hzero => hworkers (UInt64.toNat_inj.mp hzero)
  · rw [ImportReport.tally_eq_ofOutcomes]
    rfl
  · rw [total_tally ⟨index, policy⟩]
    split <;> rfl
  · intro hdvd
    rw [if_pos hdvd]
    rfl
  · intro hnot
    have hone : ({ policy with options.workers := some 1 } : ImportPolicy).Accepted cores :=
      ⟨ImportPolicy.validate_withWorkers hvalid (by decide), hcores,
        (by decide : 64 * (1 : UInt64).toNat < 2 ^ 64)⟩
    have hrun := Run.handleAll_congr ⟨index, { policy with options.workers := some 1 }⟩
      ⟨index, policy⟩ (fun _ _ => rfl) index.catalog rows
    rw [if_neg hnot, importBatch_never hindex hone]
    simp only [Run.catalogAfter, hrun, ImportPolicy.isDryRun]

/-- A run with `2 ^ 58 + 1` workers has sixty-four rows in a chunk, as one with a single worker. -/
theorem importBatch_total_sample :
    ∃ index report after,
      build sampleEntries 20 = .ok index ∧
      ({ options.workers := some 288230376151711745 } : ImportPolicy).validate = .ok () ∧
      index.importBatch { options.workers := some 288230376151711745 } 4 .never sampleRows =
        .ok (report, after) ∧
      report.total = 4 ∧
      index.importBatch { options.workers := some 1 } 4 .never sampleRows =
        .ok (report, after) := by
  obtain ⟨index, hbuild⟩ := exists_build_sampleEntries
  have hvalid : ({ options.workers := some 288230376151711745 } : ImportPolicy).validate =
      .ok () := rfl
  obtain ⟨-, -, -, report, after, hrun, -, -, htotal, -, hone⟩ :=
    importBatch_total (.built hbuild) hvalid (by decide : (4 : UInt64) ≠ 0) sampleRows
  exact ⟨index, report, after, hbuild, hvalid, hrun, htotal, hone (by decide)⟩

/-- A policy with `2 ^ 58` workers makes sense, but the size of its chunks comes out as zero, and a
run over four rows ends with none of them. -/
theorem importBatch_of_wrappedChunkSize :
    ∃ index report,
      build sampleEntries 20 = .ok index ∧
      ({ options.workers := some 288230376151711744 } : ImportPolicy).validate = .ok () ∧
      chunkSize 288230376151711744 = 0 ∧
      index.importBatch { options.workers := some 288230376151711744 } 4 .never sampleRows =
        .ok (report, index) ∧
      report.cancelled = false ∧ report.isBalanced = true ∧
      report.total = 0 ∧ sampleRows.length = 4 := by
  obtain ⟨index, hbuild⟩ := exists_build_sampleEntries
  have hvalid : ({ options.workers := some 288230376151711744 } : ImportPolicy).validate =
      .ok () := rfl
  have hrun := importBatch_never_of_valid (.built hbuild) hvalid 4 sampleRows
  exact ⟨index, _, hbuild, hvalid, rfl, hrun, rfl, rfl, rfl, rfl⟩

end CandidateIndex

end Repricing
