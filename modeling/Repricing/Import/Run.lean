import Repricing.Import.Policy
import Repricing.Import.Report
import Repricing.Matching.Search
import Repricing.Reconcile.Basic

/-!
# Import runs

Rows are taken from their source in chunks. All rows of a chunk are matched first, against the prices
at the start of the chunk; then they are reconciled one after the other. A run can be cancelled at any
moment: the rows of the chunk at hand that have not been matched by then are passed over, and no
further chunk is taken.
-/

namespace Repricing

/-- What a run finds whenever it looks whether it has been cancelled. -/
structure Cancellation where
  /-- Before a chunk is taken, when `count` rows have been handed out. -/
  beforeChunk : (count : Nat) → Bool
  /-- Before the row at a place in its chunk is matched. The rows of the chunk have been handed out by
  then, `handedOut` rows in all. -/
  beforeRow : (handedOut place : Nat) → Bool

namespace Cancellation

/-- The run is not cancelled. -/
def never : Cancellation :=
  { beforeChunk := fun _ => false
    beforeRow := fun _ _ => false }

/-- The run is cancelled before it starts. -/
def beforeStart : Cancellation :=
  { beforeChunk := fun _ => true
    beforeRow := fun _ _ => true }

/-- The run is cancelled while the source hands out a row, counted from one. -/
def atRow (n : Nat) : Cancellation :=
  { beforeChunk := fun count => 0 < n && n ≤ count
    beforeRow := fun handedOut _ => 0 < n && n ≤ handedOut }

end Cancellation

/-- A row that has been matched. -/
inductive Prepared where
  | found (item : Item) (candidates : List Candidate)
  | failed (error : RowError)
deriving DecidableEq

/-- What a run works with, apart from the prices. -/
structure Run where
  index : CandidateIndex
  policy : ImportPolicy

namespace Run

/-- The run's index with other prices. -/
def indexAt (run : Run) (catalog : Catalog) : CandidateIndex :=
  { run.index with catalog }

/-- Matches a row against the entries at their prices in `catalog`. -/
def prepare (run : Run) (catalog : Catalog) (raw : RawRow) : Prepared :=
  match KeyedItem.ofRow raw run.policy.options.defaultCurrency with
  | .error error => .failed error
  | .ok keyed => .found keyed.item ((run.indexAt catalog).matchKeyed run.policy.matching keyed)

/-- Matches the rows of a chunk. Those that come up after the run has been cancelled are left out. -/
def prepareChunk (run : Run) (cancellation : Cancellation) (catalog : Catalog) (handedOut : Nat)
    (chunk : List RawRow) : List (Option Prepared) :=
  chunk.mapIdx fun place raw =>
    if cancellation.beforeRow handedOut place then none else some (run.prepare catalog raw)

/-- Reconciles a row that has been matched. -/
def settle (run : Run) (catalog : Catalog) (prepared : Prepared) : Outcome × Catalog :=
  match prepared with
  | .failed error => (.failed error, catalog)
  | .found item candidates =>
    let (decision, catalog) :=
      run.policy.reconcile.reconcile (!run.policy.isDryRun) item candidates catalog
    (.decided { row := item.row, item, decision }, catalog)

/-- Reconciles rows that have been matched, one after the other. -/
def settleAll (run : Run) (catalog : Catalog) : List Prepared → List Outcome × Catalog
  | [] => ([], catalog)
  | prepared :: rest =>
    let (outcome, catalog) := run.settle catalog prepared
    let (outcomes, catalog) := run.settleAll catalog rest
    (outcome :: outcomes, catalog)

/-- What has come of a run. -/
structure Progress where
  cancelled : Bool
  outcomes : List Outcome
  catalog : Catalog

/-- Takes chunk after chunk from the rows until there are none left or the run is cancelled. `count`
rows have been handed out before. -/
def chunks (run : Run) (size : Nat) (cancellation : Cancellation) (count : Nat) (catalog : Catalog)
    (rows : List RawRow) : Progress :=
  let chunk := rows.take size
  if cancellation.beforeChunk count then { cancelled := true, outcomes := [], catalog }
  else if chunk.isEmpty then { cancelled := false, outcomes := [], catalog }
  else
    let handedOut := count + chunk.length
    let prepared := run.prepareChunk cancellation catalog handedOut chunk
    let (outcomes, catalog) := run.settleAll catalog (prepared.filterMap id)
    if prepared.any (·.isNone) then { cancelled := true, outcomes, catalog }
    else
      let rest := run.chunks size cancellation handedOut catalog (rows.drop size)
      { rest with outcomes := outcomes ++ rest.outcomes }
termination_by rows.length
decreasing_by
  rename_i h _
  have nonempty : rows.take size ≠ [] := by simpa [chunk] using h
  have : 0 < size ∧ 0 < rows.length := by
    constructor
    · rcases Nat.eq_zero_or_pos size with h0 | h0
      · simp [h0] at nonempty
      · exact h0
    · rcases rows with _ | ⟨_, _⟩
      · simp at nonempty
      · simp
  simp only [List.length_drop]
  omega

end Run

/-- How many rows a chunk has for each worker. -/
def rowsPerWorker : UInt64 := 64

/-- The number of rows in a chunk, in 64-bit arithmetic. -/
def chunkSize (workers : UInt64) : UInt64 :=
  workers * rowsPerWorker

namespace CandidateIndex

/-- What comes of importing rows on a machine that offers `cores`. -/
def progress (index : CandidateIndex) (policy : ImportPolicy) (cores : UInt64)
    (cancellation : Cancellation) (rows : List RawRow) : Run.Progress :=
  let size := (chunkSize (policy.workerCount cores)).toNat
  Run.chunks ⟨index, policy⟩ size cancellation 0 index.catalog rows

/-- Imports rows on a machine that offers `cores`: the report of the run, and the index with the new
prices. -/
def importBatch (index : CandidateIndex) (policy : ImportPolicy) (cores : UInt64)
    (cancellation : Cancellation) (rows : List RawRow) :
    Except EngineError (ImportReport × CandidateIndex) :=
  match policy.validate with
  | .error e => .error e
  | .ok () =>
    if index.isEmpty then .error .emptySnapshot
    else
      let progress := index.progress policy cores cancellation rows
      .ok (.tally policy.isDryRun progress.cancelled progress.outcomes,
        { index with catalog := progress.catalog })

end CandidateIndex

end Repricing
