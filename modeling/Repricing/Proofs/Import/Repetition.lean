import Repricing.Proofs.Import.Accounting
import Repricing.Proofs.Import.AuditLog
import Repricing.Proofs.Import.ChunkedRun
import Repricing.Proofs.Import.FinalPrices

/-!
# Importing rows again

Rows that have been imported find their own prices when they are imported again, or prices within
the tolerance, as long as no two of them are taken for the same entry.  So they change nothing the
second time.
-/

namespace Repricing

namespace Run

variable {run : Run} {c : Catalog} {raw : RawRow} {id : CatalogId} {price : Money}

/-! ## One row -/

/-- A row that is taken for no entry has no price to change. -/
theorem priceChange?_handle_of_not_taken
    (hnot : (run.handle c raw).1.takenFor? = none) :
    (run.handle c raw).1.priceChange? = none := by
  cases hchange : (run.handle c raw).1.priceChange? with
  | none => rfl
  | some change =>
      rw [Outcome.takenFor?_of_priceChange? hchange] at hnot
      cases hnot

/-- A row does not change a price within the tolerance of its own. -/
theorem priceChange?_handle_of_near
    {keyed : KeyedItem} (hrow : KeyedItem.ofRow raw run.policy.options.defaultCurrency = .ok keyed)
    (htaken : (run.handle c raw).1.takenFor? = some id) (hprice : c.currentPrice id = .ok price)
    (hnear : price.differsFrom keyed.item.price
      (run.policy.reconcile.epsilonFor keyed.item.price.currency) = false) :
    (run.handle c raw).1.priceChange? = none := by
  obtain ⟨keyed', update, hrow', hoffer, hchange⟩ := exists_offer_of_takenFor htaken
  obtain rfl : keyed = keyed' := Except.ok.inj (hrow.symm.trans hrow')
  have hbefore := Catalog.currentPrice_of_applyPrice hoffer
  obtain ⟨slot, old, -, -, -, rfl, -⟩ := Catalog.applyPrice_eq_ok_iff.mp hoffer
  obtain rfl : price = old := Except.ok.inj (hprice.symm.trans hbefore)
  rw [hchange]
  exact if_neg (Bool.eq_false_iff.mp hnear)

/-- The last row that is taken for an entry leaves a price within the tolerance of its own, whatever
rows come after it. -/
theorem exists_currentPrice_near
    (hvalid : run.policy.validate = .ok ()) (hcommit : run.policy.isDryRun = false)
    {rest : List RawRow} (htaken : (run.handle c raw).1.takenFor? = some id)
    (hlast : ∀ outcome ∈ (run.handleAll (run.handle c raw).2 rest).1,
      outcome.takenFor? ≠ some id) :
    ∃ keyed final,
      KeyedItem.ofRow raw run.policy.options.defaultCurrency = .ok keyed ∧
      (run.catalogAfter c (raw :: rest)).currentPrice id = .ok final ∧
      final.differsFrom keyed.item.price
        (run.policy.reconcile.epsilonFor keyed.item.price.currency) = false := by
  obtain ⟨keyed, update, hrow, hoffer, -⟩ := exists_offer_of_takenFor htaken
  have hbefore := Catalog.currentPrice_of_applyPrice hoffer
  obtain ⟨final, hfinal, hsettles⟩ := run.settles_handleAll hvalid hcommit hbefore
    (.refl run.policy.reconcile update.old) (raw :: rest)
  have hnone : offersFor run.policy.options.defaultCurrency id rest
      (run.handleAll (run.handle c raw).2 rest).1 = [] := by
    rw [← List.length_eq_zero_iff, length_offersFor_handleAll, List.countP_eq_zero]
    simpa using hlast
  rw [handleAll_cons, offersFor_cons_of_taken htaken hrow, hnone] at hsettles
  have hnear := hsettles.near keyed.item.price rfl
  obtain ⟨slot, old, -, -, hcurrency, rfl, -⟩ := Catalog.applyPrice_eq_ok_iff.mp hoffer
  refine ⟨keyed, final, hrow, hfinal, ?_⟩
  rw [← hcurrency]
  exact hnear

/-! ## Row after row -/

/-- No row has a price to change at the prices that the run has left, if no two are taken for the
same entry. -/
theorem priceChange?_handle_catalogAfter
    (hvalid : run.policy.validate = .ok ()) (hcommit : run.policy.isDryRun = false)
    {rows : List RawRow}
    (hdistinct : ((run.handleAll c rows).1.filterMap Outcome.takenFor?).Nodup) :
    ∀ raw ∈ rows, (run.handle (run.catalogAfter c rows) raw).1.priceChange? = none := by
  induction rows generalizing c with
  | nil => simp
  | cons raw rest ih =>
      have hsame := run.takenFor?_handle_congr (run.alike_catalogAfter c (raw :: rest)) raw
      rw [handleAll_cons] at hdistinct
      cases htaken : (run.handle c raw).1.takenFor? with
      | none =>
          rw [List.filterMap_cons_none htaken] at hdistinct
          exact List.forall_mem_cons.mpr
            ⟨priceChange?_handle_of_not_taken (hsame.trans htaken), ih hdistinct⟩
      | some id =>
          rw [List.filterMap_cons_some htaken, List.nodup_cons] at hdistinct
          obtain ⟨hlast, hdistinct⟩ := hdistinct
          obtain ⟨keyed, final, hrow, hfinal, hnear⟩ :=
            exists_currentPrice_near hvalid hcommit htaken fun outcome houtcome hid =>
              hlast (List.mem_filterMap.mpr ⟨outcome, houtcome, hid⟩)
          exact List.forall_mem_cons.mpr
            ⟨priceChange?_handle_of_near hrow (hsame.trans htaken) hfinal hnear, ih hdistinct⟩

/-- Rows with no prices to change leave the catalog alone. -/
theorem handleAll_of_no_priceChange
    {rows : List RawRow}
    (hnone : ∀ raw ∈ rows, (run.handle c raw).1.priceChange? = none) :
    run.catalogAfter c rows = c ∧ (run.handleAll c rows).1.filterMap Outcome.priceChange? = [] := by
  induction rows with
  | nil => exact ⟨rfl, rfl⟩
  | cons raw rest ih =>
      obtain ⟨hraw, hrest⟩ := List.forall_mem_cons.mp hnone
      have hkept := run.handle_priceChange c raw
      rw [hraw] at hkept
      rw [catalogAfter, handleAll_cons, ← catalogAfter, List.filterMap_cons_none hraw, hkept]
      exact ih hrest

end Run

namespace CandidateIndex

variable {index : CandidateIndex} {policy : ImportPolicy} {cores : UInt64}

/-- Rows of which no two are taken for the same entry write nothing when they are imported again.
Each row comes to what it has come to the first time, apart from the prices of the catalog. -/
theorem importBatch_repeated
    (hindex : index.Reachable) (haccepted : policy.Accepted cores)
    (hcommit : policy.options.updateExistingPrices = true) (rows : List RawRow)
    (hdistinct : ((index.progress policy cores .never rows).outcomes.filterMap
      Outcome.takenFor?).Nodup) :
    let outcomes := (index.progress policy cores .never rows).outcomes
    ∃ after,
      index.importBatch policy cores .never rows = .ok (.tally false false outcomes, after) ∧
      let again := (after.progress policy cores .never rows).outcomes
      let report := ImportReport.tally false false again
      after.importBatch policy cores .never rows = .ok (report, after) ∧
      report.priceChanges = #[] ∧
      report.unchanged = report.autoApplied ∧
      again.map Outcome.unpriced = outcomes.map Outcome.unpriced ∧
      report.SameBuckets (.tally false false outcomes) := by
  let run : Run := ⟨index, policy⟩
  let final := run.catalogAfter index.catalog rows
  have hdry : policy.isDryRun = false := by simp [ImportPolicy.isDryRun, hcommit]
  have hafter : (run.indexAt final).Reachable := reachable_catalogAfter run hindex rows
  have hrun := importBatch_never hindex haccepted rows
  have hagain := importBatch_indexAt run hafter haccepted rows
  rw [progress_never index haccepted] at hdistinct ⊢
  obtain ⟨hkept, hnone⟩ := Run.handleAll_of_no_priceChange
    (run.priceChange?_handle_catalogAfter haccepted.valid hdry hdistinct)
  have hunpriced : (run.handleAll final rows).1.map Outcome.unpriced =
      (run.handleAll index.catalog rows).1.map Outcome.unpriced :=
    Run.handleAll_unpriced run run (fun _ => rfl) ⟨rfl, rfl, rfl⟩
      (run.alike_catalogAfter index.catalog rows) rows
  rw [hdry] at hrun
  rw [hdry, hkept] at hagain
  refine ⟨run.indexAt final, hrun, ?_⟩
  rw [outcomes_progress_indexAt run final haccepted rows]
  have hchanges : (ImportReport.tally false false (run.handleAll final rows).1).priceChanges =
      #[] := by
    rw [ImportReport.tally_eq_ofOutcomes]
    exact congrArg List.toArray hnone
  have hcounts :=
    (ImportReport.balanced_tally false false (run.handleAll final rows).1).autoApplied
  rw [hchanges, Array.size_empty, Nat.zero_add] at hcounts
  exact ⟨hagain, hchanges, hcounts.symm, hunpriced,
    ImportReport.sameBuckets_of_unpriced hunpriced _ _ _ _⟩

/-- A row for each of the two entries. -/
def twoBookRows : List RawRow :=
  [sampleRow 1 "850" none,
   { RawRow.blank 2 with
     title := some "Crime and Punishment"
     author := some "Fyodor Dostoevsky"
     price := some "460" }]

/-- Both prices are written the first time, and none the second time. -/
theorem importBatch_repeated_twoBookRows :
    ∃ index after report again,
      build sampleEntries 20 = .ok index ∧
      index.importBatch {} 4 .never twoBookRows = .ok (report, after) ∧
      report.priceChanges.size = 2 ∧
      after.importBatch {} 4 .never twoBookRows = .ok (again, after) ∧
      again.priceChanges = #[] ∧
      again.unchanged = 2 := by
  obtain ⟨index, hbuild⟩ := exists_build_sampleEntries
  have haccepted : ({} : ImportPolicy).Accepted 4 := ⟨rfl, by decide, by decide⟩
  have hrows : ((build sampleEntries 20).map fun index =>
      let outcomes := (index.progress {} 4 .never twoBookRows).outcomes
      let report := ImportReport.tally false false outcomes
      (outcomes.filterMap Outcome.takenFor?, report.priceChanges.size, report.autoApplied)) =
        .ok ([⟨42⟩, ⟨43⟩], 2, 2) := by decide +kernel
  rw [hbuild] at hrows
  obtain ⟨hentries, hreport⟩ := Prod.mk.inj (Except.ok.inj hrows)
  obtain ⟨hwritten, happlied⟩ := Prod.mk.inj hreport
  obtain ⟨after, hrun, hagain, hnone, hunchanged, -, hbuckets⟩ :=
    importBatch_repeated (.built hbuild) haccepted rfl twoBookRows (by rw [hentries]; decide)
  exact ⟨index, after, _, _, hbuild, hrun, hwritten, hagain, hnone,
    hunchanged.trans (hbuckets.autoApplied.trans happlied)⟩

/-- Two rows for one entry replace each other's price again. -/
example :
    ((build sampleEntries 20).bind fun index =>
      (index.importBatch {} 4 .never sampleRows).bind fun (_, after) =>
        (after.importBatch {} 4 .never sampleRows).map (·.1.priceChanges.size)) = .ok 2 := by
  decide +kernel

end CandidateIndex

end Repricing
