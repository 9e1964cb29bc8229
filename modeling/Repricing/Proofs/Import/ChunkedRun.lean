import Repricing.Proofs.Import.Accepted

/-!
# Chunks do not show

Rows are matched in chunks, at the prices at the start of the chunk.  The report and the prices at
the end are nevertheless those of rows handled one after the other.  So they do not depend on the
number of workers, and every price that an outcome shows is the one of its moment.
-/

namespace Repricing

/-! ## Prices that outcomes show -/

/-- The prices that an outcome shows are current: those before the row was handled and, in the entry
that an item was taken for, the one after it. -/
def Outcome.ShowsPrices (before after : Catalog) : Outcome → Prop
  | .failed _ => True
  | .decided record =>
    match record.decision with
    | .autoApplied entry old _ _ _ _ =>
      before.currentPrice entry.id = .ok old ∧ after.get? entry.id = some entry
    | .pendingReview _ candidates _ _ =>
      ∀ candidate ∈ candidates, before.get? candidate.entry.id = some candidate.entry
    | .rejected _ _ => True

variable {c : Catalog}

/-- A candidate for an item shows its entry as it stands in the catalog. -/
theorem Run.get?_of_mem_candidatesFor
    {run : Run} {keyed : KeyedItem} {candidate : Candidate}
    (hmem : candidate ∈ run.candidatesFor c keyed) :
    c.get? candidate.entry.id = some candidate.entry :=
  CandidateIndex.get?_of_mem_matchKeys (run.indexAt c) (mem_rank.mp hmem)

/-- A row that is handled at once shows the prices of the moment. -/
theorem Run.showsPrices_handle (run : Run) (c : Catalog) (raw : RawRow) :
    (run.handle c raw).1.ShowsPrices c (run.handle c raw).2 := by
  obtain ⟨outcome, after, heq, hhandled⟩ := run.exists_handled c raw
  rw [heq]
  cases hhandled with
  | failed => trivial
  | rejected => trivial
  | pending =>
      intro candidate hcandidate
      obtain ⟨original, horiginal, rfl⟩ := List.mem_map.mp hcandidate
      have hget := get?_of_mem_candidatesFor (List.mem_of_mem_filter horiginal)
      rw [refresh_of_current hget, hget]
  | autoApplied _ _ hoffer hcurrent =>
      have hid := Catalog.id_of_get? hcurrent
      refine ⟨?_, ?_⟩
      · rw [hid, Catalog.currentPrice_of_applyPrice hoffer]
      · rw [hid, hcurrent]

theorem Run.catalogAfter_take_succ
    (run : Run) (c : Catalog) {rows : List RawRow} {i : Nat} {raw : RawRow}
    (hraw : rows[i]? = some raw) :
    run.catalogAfter c (rows.take (i + 1)) =
      (run.handle (run.catalogAfter c (rows.take i)) raw).2 := by
  rw [List.take_add_one, hraw, Option.toList_some, catalogAfter, handleAll_append]
  rfl

theorem Run.showsPrices_of_getElem?_handleAll
    (run : Run) (c : Catalog) {rows : List RawRow} {i : Nat} {outcome : Outcome}
    (houtcome : (run.handleAll c rows).1[i]? = some outcome) :
    outcome.ShowsPrices (run.catalogAfter c (rows.take i))
      (run.catalogAfter c (rows.take (i + 1))) := by
  rw [getElem?_handleAll] at houtcome
  obtain ⟨raw, hraw, rfl⟩ := Option.map_eq_some_iff.mp houtcome
  rw [run.catalogAfter_take_succ c hraw]
  exact run.showsPrices_handle _ raw

/-! ## The number of workers -/

theorem Run.handleAll_congr
    (run other : Run) (hhandle : ∀ c raw, run.handle c raw = other.handle c raw)
    (c : Catalog) (rows : List RawRow) :
    run.handleAll c rows = other.handleAll c rows := by
  induction rows generalizing c with
  | nil => rfl
  | cons raw rest ih => rw [handleAll_cons, handleAll_cons, hhandle, ih]

theorem Run.handleAll_indexAt (run : Run) (c d : Catalog) (rows : List RawRow) :
    Run.handleAll ⟨run.indexAt d, run.policy⟩ c rows = run.handleAll c rows :=
  handleAll_congr ⟨run.indexAt d, run.policy⟩ run (fun _ _ => rfl) c rows

namespace CandidateIndex

variable {index : CandidateIndex} {policy : ImportPolicy} {cores : UInt64}

/-- A run at other prices handles the rows at these prices. -/
theorem importBatch_indexAt
    (run : Run) {c : Catalog} (hindex : (run.indexAt c).Reachable)
    (haccepted : run.policy.Accepted cores) (rows : List RawRow) :
    (run.indexAt c).importBatch run.policy cores .never rows =
      .ok (.tally run.policy.isDryRun false (run.handleAll c rows).1,
        run.indexAt (run.catalogAfter c rows)) := by
  have hrun : Run.handleAll ⟨run.indexAt c, run.policy⟩ (run.indexAt c).catalog rows =
      run.handleAll c rows := run.handleAll_indexAt c c rows
  rw [importBatch_never hindex haccepted rows, Run.catalogAfter, hrun]
  rfl

theorem outcomes_progress_indexAt
    (run : Run) (c : Catalog) (haccepted : run.policy.Accepted cores) (rows : List RawRow) :
    ((run.indexAt c).progress run.policy cores .never rows).outcomes =
      (run.handleAll c rows).1 := by
  rw [progress_never _ haccepted]
  exact congrArg Prod.fst (run.handleAll_indexAt c c rows)

/-- A run gives the outcomes, the report and the catalog of rows handled one after the other,
whatever the number of workers, and its outcomes show no price that an earlier row has replaced. -/
theorem importBatch_eq_handleAll
    (hindex : index.Reachable) (haccepted : policy.Accepted cores) (rows : List RawRow) :
    (index.progress policy cores .never rows).outcomes =
        (Run.handleAll ⟨index, policy⟩ index.catalog rows).1 ∧
      index.importBatch policy cores .never rows =
        .ok (.tally policy.isDryRun false (Run.handleAll ⟨index, policy⟩ index.catalog rows).1,
          { index with catalog := Run.catalogAfter ⟨index, policy⟩ index.catalog rows }) ∧
      (∀ (workers : Option UInt64) (cores' : UInt64),
        ({ policy with options.workers := workers } : ImportPolicy).Accepted cores' →
          index.importBatch { policy with options.workers := workers } cores' .never rows =
            index.importBatch policy cores .never rows) ∧
      ∀ (i : Nat) (outcome : Outcome),
        (index.progress policy cores .never rows).outcomes[i]? = some outcome →
          outcome.ShowsPrices (Run.catalogAfter ⟨index, policy⟩ index.catalog (rows.take i))
            (Run.catalogAfter ⟨index, policy⟩ index.catalog (rows.take (i + 1))) := by
  have houtcomes : (index.progress policy cores .never rows).outcomes =
      (Run.handleAll ⟨index, policy⟩ index.catalog rows).1 := by
    rw [progress_never index haccepted]
  refine ⟨houtcomes, importBatch_never hindex haccepted rows, ?_, ?_⟩
  · intro workers cores' haccepted'
    have hrun := Run.handleAll_congr ⟨index, { policy with options.workers := workers }⟩
      ⟨index, policy⟩ (fun _ _ => rfl) index.catalog rows
    rw [importBatch_never hindex haccepted', importBatch_never hindex haccepted]
    simp only [Run.catalogAfter, hrun, ImportPolicy.isDryRun]
  · intro i outcome houtcome
    rw [houtcomes] at houtcome
    exact Run.showsPrices_of_getElem?_handleAll _ _ houtcome

/-- The sample rows make up one chunk.  The third, in another currency, shows what the first two
have written. -/
theorem importBatch_eq_handleAll_sample :
    ∃ index, build sampleEntries 20 = .ok index ∧
      index.importBatch {} 4 .never sampleRows =
        .ok (.tally false false (Run.handleAll ⟨index, {}⟩ index.catalog sampleRows).1,
          { index with catalog := Run.catalogAfter ⟨index, {}⟩ index.catalog sampleRows }) ∧
      index.importBatch { options.workers := some 7 } 1 .never sampleRows =
        index.importBatch {} 4 .never sampleRows ∧
      ∀ outcome, (index.progress {} 4 .never sampleRows).outcomes[2]? = some outcome →
        outcome.ShowsPrices (Run.catalogAfter ⟨index, {}⟩ index.catalog (sampleRows.take 2))
          (Run.catalogAfter ⟨index, {}⟩ index.catalog (sampleRows.take 3)) := by
  obtain ⟨index, hbuild⟩ := exists_build_sampleEntries
  have hfour : ({} : ImportPolicy).Accepted 4 := ⟨rfl, by decide, by decide⟩
  have hseven : ({ options.workers := some 7 } : ImportPolicy).Accepted 1 :=
    ⟨rfl, by decide, by decide⟩
  obtain ⟨-, hrun, hworkers, hprices⟩ :=
    importBatch_eq_handleAll (.built hbuild) hfour sampleRows
  exact ⟨index, hbuild, hrun, hworkers (some 7) 1 hseven, hprices 2⟩

end CandidateIndex

end Repricing
