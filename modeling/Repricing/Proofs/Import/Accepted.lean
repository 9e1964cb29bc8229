import Mathlib.Algebra.Group.Nat.Defs
import Repricing.Proofs.Import.Sequential
import Repricing.Proofs.Matching.Reachable

/-!
# Runs under an accepted policy

A run under a policy that makes sense, over an index that has entries, ends with a report.  If the
number of rows in a chunk is not too large for its arithmetic, a run that is not cancelled handles
all rows, one after the other.
-/

namespace Repricing

theorem toNat_chunkSize (workers : UInt64) :
    (chunkSize workers).toNat = 64 * workers.toNat % 2 ^ 64 := by
  rw [chunkSize, UInt64.toNat_mul, rowsPerWorker, Nat.mul_comm]
  rfl

namespace ImportPolicy

/-- What a run takes for granted: the policy makes sense, the machine offers a core at least, and
the size of a chunk fits into 64 bits. -/
structure Accepted (policy : ImportPolicy) (cores : UInt64) : Prop where
  valid : policy.validate = .ok ()
  cores_ne_zero : cores ≠ 0
  fits : 64 * (policy.workerCount cores).toNat < 2 ^ 64

variable {policy : ImportPolicy} {cores : UInt64}

theorem workers_ne_zero_of_valid (hvalid : policy.validate = .ok ()) :
    policy.options.workers ≠ some 0 := by
  intro hworkers
  unfold validate at hvalid
  cases hmatching : policy.matching.validate with
  | error e => simp [hmatching, bind, Except.bind] at hvalid
  | ok =>
      cases hreconcile : policy.reconcile.validate with
      | error e => simp [hmatching, hreconcile, bind, Except.bind] at hvalid
      | ok => simp [hmatching, hreconcile, hworkers, bind, Except.bind] at hvalid

theorem workerCount_ne_zero_of_valid
    (hvalid : policy.validate = .ok ()) (hcores : cores ≠ 0) :
    policy.workerCount cores ≠ 0 := by
  have hworkers := workers_ne_zero_of_valid hvalid
  unfold workerCount
  cases hcount : policy.options.workers with
  | none => exact hcores
  | some workers =>
      rintro rfl
      exact hworkers hcount

theorem Accepted.workerCount_ne_zero (haccepted : policy.Accepted cores) :
    policy.workerCount cores ≠ 0 :=
  workerCount_ne_zero_of_valid haccepted.valid haccepted.cores_ne_zero

theorem Accepted.toNat_chunkSize (haccepted : policy.Accepted cores) :
    (chunkSize (policy.workerCount cores)).toNat = 64 * (policy.workerCount cores).toNat := by
  rw [Repricing.toNat_chunkSize]
  exact Nat.mod_eq_of_lt haccepted.fits

theorem Accepted.chunkSize_pos (haccepted : policy.Accepted cores) :
    0 < (chunkSize (policy.workerCount cores)).toNat := by
  have hworkers : 0 < (policy.workerCount cores).toNat :=
    Nat.pos_of_ne_zero fun hzero => haccepted.workerCount_ne_zero (UInt64.toNat_inj.mp hzero)
  rw [haccepted.toNat_chunkSize]
  omega

end ImportPolicy

namespace CandidateIndex

variable {index : CandidateIndex} {policy : ImportPolicy} {cores : UInt64}
  {cancellation : Cancellation} {rows : List RawRow}

/-- A run ends with the report of its outcomes. -/
theorem importBatch_of_valid
    (hnonempty : index.isEmpty = false) (hvalid : policy.validate = .ok ()) :
    index.importBatch policy cores cancellation rows =
      let progress := index.progress policy cores cancellation rows
      .ok (.tally policy.isDryRun progress.cancelled progress.outcomes,
        { index with catalog := progress.catalog }) := by
  simp [importBatch, hvalid, hnonempty]

/-- The rows that a run takes up. -/
def dispatched (policy : ImportPolicy) (cores : UInt64) (cancellation : Cancellation)
    (rows : List RawRow) : List RawRow :=
  (cancellation.dispatch (chunkSize (policy.workerCount cores)).toNat 0 rows).1

/-- A run handles the rows that it takes up one after the other. -/
theorem outcomes_progress :
    (index.progress policy cores cancellation rows).outcomes =
      (Run.handleAll ⟨index, policy⟩ index.catalog
        (dispatched policy cores cancellation rows)).1 := by
  rw [progress, Run.chunks_eq]
  rfl

theorem catalog_progress :
    (index.progress policy cores cancellation rows).catalog =
      Run.catalogAfter ⟨index, policy⟩ index.catalog
        (dispatched policy cores cancellation rows) := by
  rw [progress, Run.chunks_eq]
  rfl

theorem dispatched_never (haccepted : policy.Accepted cores) :
    dispatched policy cores .never rows = rows := by
  rw [dispatched, Cancellation.dispatch_never haccepted.chunkSize_pos]

/-- A run that is not cancelled handles all rows one after the other. -/
theorem progress_never
    (index : CandidateIndex) (haccepted : policy.Accepted cores) (rows : List RawRow) :
    index.progress policy cores .never rows =
      { cancelled := false
        outcomes := (Run.handleAll ⟨index, policy⟩ index.catalog rows).1
        catalog := Run.catalogAfter ⟨index, policy⟩ index.catalog rows } := by
  rw [progress, Run.chunks_eq, Cancellation.dispatch_never haccepted.chunkSize_pos]

theorem importBatch_never
    (hindex : index.Reachable) (haccepted : policy.Accepted cores) (rows : List RawRow) :
    index.importBatch policy cores .never rows =
      .ok (.tally policy.isDryRun false (Run.handleAll ⟨index, policy⟩ index.catalog rows).1,
        { index with catalog := Run.catalogAfter ⟨index, policy⟩ index.catalog rows }) := by
  rw [importBatch_of_valid hindex.isEmpty_eq_false haccepted.valid, progress_never index haccepted]

/-! ## Imports lead to reachable states -/

/-- A row changes an index by an offer of a price, or not at all. -/
theorem reachable_handle
    (run : Run) {c : Catalog} (hindex : (run.indexAt c).Reachable) (raw : RawRow) :
    (run.indexAt (run.handle c raw).2).Reachable := by
  obtain ⟨outcome, after, heq, hhandled⟩ := run.exists_handled c raw
  rw [heq]
  cases hhandled with
  | failed => exact hindex
  | rejected => exact hindex
  | pending => exact hindex
  | autoApplied _ _ hoffer _ =>
      have hoffered := Reachable.offered hindex hoffer
      exact hoffered

theorem reachable_catalogAfter
    (run : Run) {c : Catalog} (hindex : (run.indexAt c).Reachable) (rows : List RawRow) :
    (run.indexAt (run.catalogAfter c rows)).Reachable := by
  induction rows generalizing c with
  | nil => exact hindex
  | cons raw rest ih => exact ih (reachable_handle run hindex raw)

/-- Imports do not lead out of the states that offers of prices lead to. -/
theorem Reachable.importBatch
    (hindex : index.Reachable) {report : ImportReport} {after : CandidateIndex}
    (hrun : index.importBatch policy cores cancellation rows = .ok (report, after)) :
    after.Reachable := by
  cases hvalid : policy.validate with
  | error e =>
      rw [CandidateIndex.importBatch, hvalid] at hrun
      cases hrun
  | ok =>
      rw [importBatch_of_valid hindex.isEmpty_eq_false hvalid] at hrun
      obtain ⟨-, rfl⟩ := Prod.mk.inj (Except.ok.inj hrun)
      rw [catalog_progress]
      exact reachable_catalogAfter ⟨index, policy⟩ hindex _

/-! ## A small catalog -/

/-- An entry with an ISBN, and one without. -/
def sampleEntries : List CatalogEntry :=
  [{ id := ⟨43⟩
     isbn := none
     title := "Crime and Punishment"
     author := "Fyodor Dostoevsky"
     publisher := ""
     price := ⟨450.0, .rub⟩
     publicationYear := none },
   { id := ⟨42⟩
     isbn := some "978-5-699-12345-6"
     title := "War and Peace"
     author := "Leo Tolstoy"
     publisher := ""
     price := ⟨750.0, .rub⟩
     publicationYear := none }]

/-- A row that names the entry with the ISBN. -/
def sampleRow (row : UInt64) (price : String) (currency : Option String) : RawRow :=
  { RawRow.blank row with isbn := some "9785699123456", price := some price, currency }

/-- Two rows that change the price of one entry, one in another currency, and one without a key. -/
def sampleRows : List RawRow :=
  [sampleRow 1 "850" none, sampleRow 2 "900" none, sampleRow 3 "10" (some "USD"), RawRow.blank 4]

theorem exists_build_sampleEntries : ∃ index, build sampleEntries 20 = .ok index := by
  have hbuilt : (build sampleEntries 20).toBool = true := by decide +kernel
  cases hbuild : build sampleEntries 20 with
  | ok index => exact ⟨index, rfl⟩
  | error e =>
      rw [hbuild] at hbuilt
      cases hbuilt

end CandidateIndex

end Repricing
