import Repricing.Proofs.Import.Repetition
import Repricing.Proofs.Import.Reordering

/-!
# Dry runs as previews

A dry run tells which prices a run would change.  The two part as soon as a price is written, but
what is made of a row depends on one price only, and only a row that is taken for the same entry
changes that.  So the preview is right as long as no two rows are taken for one entry.
-/

namespace Repricing

/-- The policy with prices written, or for a dry run. -/
def ImportPolicy.withUpdates (policy : ImportPolicy) (updates : Bool) : ImportPolicy :=
  { policy with options.updateExistingPrices := updates }

/-- The change as a dry run lists it. -/
def PriceChange.unapplied (change : PriceChange) : PriceChange :=
  { change with applied := false }

/-- The record with the item's own price in place of all prices of the catalog. -/
def DecisionRecord.unpriced (record : DecisionRecord) : DecisionRecord :=
  { record with decision := record.decision.unpriced }

namespace Outcome

variable {outcomes others : List Outcome}

/-- The price change of the outcome as a dry run lists it. -/
def previewChange? (outcome : Outcome) : Option PriceChange :=
  outcome.priceChange?.map PriceChange.unapplied

theorem held?_unpriced (outcome : Outcome) :
    outcome.unpriced.held? = outcome.held?.map DecisionRecord.unpriced := by
  rcases outcome with ⟨row, item, decision⟩ | error
  · cases decision <;> rfl
  · rfl

theorem map_unpriced_filterMap_held?
    (hunpriced : outcomes.map unpriced = others.map unpriced) :
    (outcomes.filterMap held?).map DecisionRecord.unpriced =
      (others.filterMap held?).map DecisionRecord.unpriced := by
  have hheld := congrArg (List.filterMap held?) hunpriced
  simpa only [List.filterMap_map, List.map_filterMap, Function.comp_def, held?_unpriced]
    using hheld

theorem filterMap_takenFor?_of_unpriced
    (hunpriced : outcomes.map unpriced = others.map unpriced) :
    outcomes.filterMap takenFor? = others.filterMap takenFor? := by
  have htaken := congrArg (List.filterMap takenFor?) hunpriced
  simpa only [List.filterMap_map, Function.comp_def, takenFor?_unpriced] using htaken

theorem map_unapplied_filterMap_priceChange?
    (hsame : outcomes.map previewChange? = others.map previewChange?) :
    (outcomes.filterMap priceChange?).map PriceChange.unapplied =
      (others.filterMap priceChange?).map PriceChange.unapplied := by
  have hchanges := congrArg (List.filterMap id) hsame
  simpa only [List.filterMap_map, List.map_filterMap, Function.comp_def, previewChange?, id]
    using hchanges

end Outcome

theorem PriceChange.map_unapplied_of_not_applied
    {changes : List PriceChange} (hnone : ∀ change ∈ changes, change.applied = false) :
    changes.map unapplied = changes := by
  conv_rhs => rw [← List.map_id changes]
  apply List.map_congr_left
  intro change hchange
  rw [unapplied, ← hnone change hchange, id]

/-! ## One row -/

/-- What an offer finds depends on the current price of the entry, and not on whether prices are
written. -/
theorem Catalog.found_of_applyPrice
    {c d after after' : Catalog} {id : CatalogId} {new : Money} {epsilon : Float}
    {commit commit' : Bool} {update update' : PriceUpdate}
    (hoffer : c.applyPrice id new epsilon commit = .ok (update, after))
    (hoffer' : d.applyPrice id new epsilon commit' = .ok (update', after'))
    (hprice : c.currentPrice id = d.currentPrice id) :
    update.old = update'.old ∧ update.new = update'.new ∧ update.changed = update'.changed := by
  rw [currentPrice_of_applyPrice hoffer, currentPrice_of_applyPrice hoffer'] at hprice
  have hold : update.old = update'.old := Except.ok.inj hprice
  obtain ⟨_, _, -, -, -, rfl, -⟩ := applyPrice_eq_ok_iff.mp hoffer
  obtain ⟨_, _, -, -, -, rfl, -⟩ := applyPrice_eq_ok_iff.mp hoffer'
  exact ⟨hold, rfl, congrArg (·.differsFrom new epsilon) hold⟩

namespace Run

variable (run other : Run) {c d : Catalog}

/-- Two runs find the same change in a row, whether they write prices or not, if the entry that it
is taken for is at the same price. -/
theorem previewChange?_handle
    (hindex : ∀ catalog, run.indexAt catalog = other.indexAt catalog)
    (hpolicy : run.policy.AgreesWith other.policy) (halike : c.Alike d) (raw : RawRow)
    (hprice : ∀ id ∈ (run.handle c raw).1.takenFor?, c.currentPrice id = d.currentPrice id) :
    (run.handle c raw).1.previewChange? = (other.handle d raw).1.previewChange? := by
  have hsame := run.takenFor?_handle_of_agrees other hindex hpolicy halike raw
  unfold Outcome.previewChange?
  cases htaken : (run.handle c raw).1.takenFor? with
  | none =>
      rw [priceChange?_handle_of_not_taken htaken,
        priceChange?_handle_of_not_taken (hsame.symm.trans htaken)]
  | some id =>
      obtain ⟨keyed, update, hrow, hoffer, hchange⟩ := exists_offer_of_takenFor htaken
      obtain ⟨keyed', update', hrow', hoffer', hchange'⟩ :=
        exists_offer_of_takenFor (hsame.symm.trans htaken)
      rw [hpolicy.defaultCurrency] at hrow
      obtain rfl : keyed = keyed' := Except.ok.inj (hrow.symm.trans hrow')
      rw [hpolicy.reconcile] at hoffer
      obtain ⟨hold, hnew, hchanged⟩ :=
        Catalog.found_of_applyPrice hoffer hoffer' (hprice id htaken)
      rw [hchange, hchange', hold, hnew, hchanged]
      cases update'.changed <;> rfl

/-! ## Row after row -/

/-- Two runs list the same changes for rows of which no two are taken for one entry, if the entries
that they are taken for are at the same prices. -/
theorem map_previewChange?_handleAll
    (hindex : ∀ catalog, run.indexAt catalog = other.indexAt catalog)
    (hpolicy : run.policy.AgreesWith other.policy) (halike : c.Alike d) {rows : List RawRow}
    (hdistinct : ((run.handleAll c rows).1.filterMap Outcome.takenFor?).Nodup)
    (hprices : ∀ id ∈ (run.handleAll c rows).1.filterMap Outcome.takenFor?,
      c.currentPrice id = d.currentPrice id) :
    (run.handleAll c rows).1.map Outcome.previewChange? =
      (other.handleAll d rows).1.map Outcome.previewChange? := by
  induction rows generalizing c d with
  | nil => rfl
  | cons raw rest ih =>
      rw [handleAll_cons] at hdistinct hprices
      have hrow := run.previewChange?_handle other hindex hpolicy halike raw
        fun id htaken => hprices id (List.mem_filterMap.mpr ⟨_, List.mem_cons_self, htaken⟩)
      have hsame := run.takenFor?_handle_of_agrees other hindex hpolicy halike raw
      have hafter := ((run.alike_handle c raw).trans halike).trans (other.alike_handle d raw).symm
      -- The rows to come are taken for other entries, whose prices this row leaves alone.
      have hkept : ∀ id ∈ (run.handleAll (run.handle c raw).2 rest).1.filterMap Outcome.takenFor?,
          (run.handle c raw).2.currentPrice id = (other.handle d raw).2.currentPrice id := by
        intro id hid
        have hne : (run.handle c raw).1.takenFor? ≠ some id := by
          intro htaken
          rw [List.filterMap_cons_some htaken, List.nodup_cons] at hdistinct
          exact hdistinct.1 hid
        rw [currentPrice_handle_of_ne hne, currentPrice_handle_of_ne (hsame ▸ hne)]
        obtain ⟨outcome, houtcome, htaken⟩ := List.mem_filterMap.mp hid
        exact hprices id
          (List.mem_filterMap.mpr ⟨outcome, List.mem_cons_of_mem _ houtcome, htaken⟩)
      have hrest := hdistinct.sublist ((List.sublist_cons_self _ _).filterMap _)
      rw [handleAll_cons, handleAll_cons, List.map_cons, List.map_cons, hrow,
        ih hafter hrest hkept]

end Run

/-! ## Reports -/

namespace ImportReport

/-- The report of a dry run previews the one of a run that writes prices: they differ in whether
the changes have been applied, and in the catalog's prices that candidates are shown with. -/
structure Previews (preview report : ImportReport) : Prop where
  dryRun : preview.dryRun = true ∧ report.dryRun = false
  cancelled : preview.cancelled = report.cancelled
  counters : preview.SameCounters report
  rowErrors : preview.rowErrors = report.rowErrors
  decisions : preview.decisions.toList.map DecisionRecord.unpriced =
    report.decisions.toList.map DecisionRecord.unpriced
  priceChanges : preview.priceChanges.toList =
    report.priceChanges.toList.map PriceChange.unapplied
  applied : ∀ change ∈ report.priceChanges.toList, change.applied = true

theorem previews_tally
    {outcomes others : List Outcome}
    (hunpriced : outcomes.map Outcome.unpriced = others.map Outcome.unpriced)
    (hchanges : outcomes.filterMap Outcome.priceChange? =
      (others.filterMap Outcome.priceChange?).map PriceChange.unapplied)
    (happlied : ∀ change ∈ others.filterMap Outcome.priceChange?, change.applied = true)
    (cancelled : Bool) :
    (tally true cancelled outcomes).Previews (tally false cancelled others) := by
  have hcounters := sameCounters_of_perm (.of_eq hunpriced)
    (by rw [hchanges, List.length_map]) true cancelled
  have hbuckets := sameBuckets_of_unpriced hunpriced true false cancelled cancelled
  rw [tally_eq_ofOutcomes, tally_eq_ofOutcomes] at hcounters hbuckets ⊢
  exact
    { dryRun := ⟨rfl, rfl⟩
      cancelled := rfl
      counters := { hcounters with }
      rowErrors := hbuckets.rowErrors
      decisions := Outcome.map_unpriced_filterMap_held? hunpriced
      priceChanges := hchanges
      applied := happlied }

end ImportReport

namespace CandidateIndex

variable {index : CandidateIndex} {policy : ImportPolicy}

/-- What a run reports is what has come of the rows that it has taken up. -/
theorem importBatch_eq_dispatched
    (hindex : index.Reachable) (hvalid : policy.validate = .ok ()) (cores : UInt64)
    (cancellation : Cancellation) (rows : List RawRow) :
    let run : Run := ⟨index, policy⟩
    let taken := dispatched policy cores cancellation rows
    let cancelled := (cancellation.dispatch (chunkSize (policy.workerCount cores)).toNat 0 rows).2
    index.importBatch policy cores cancellation rows =
      .ok (.tally policy.isDryRun cancelled (run.handleAll index.catalog taken).1,
        run.indexAt (run.catalogAfter index.catalog taken)) := by
  rw [importBatch_of_valid hindex.isEmpty_eq_false hvalid, progress, Run.chunks_eq]
  rfl

/-- A dry run over rows of which no two are taken for one entry previews the report of the run that
writes prices, and leaves the prices alone.  This is so however the runs are cancelled, as long as
it happens to both at the same moment. -/
theorem importBatch_preview
    (hindex : index.Reachable) (hvalid : policy.validate = .ok ()) (cores : UInt64)
    (cancellation : Cancellation) (rows : List RawRow)
    (hdistinct : ((index.progress policy cores cancellation rows).outcomes.filterMap
      Outcome.takenFor?).Nodup) :
    ∃ preview report after,
      index.importBatch (policy.withUpdates false) cores cancellation rows =
        .ok (preview, index) ∧
      index.importBatch (policy.withUpdates true) cores cancellation rows =
        .ok (report, after) ∧
      preview.Previews report := by
  let taken := dispatched policy cores cancellation rows
  let run : Run := ⟨index, policy⟩
  let dry : Run := ⟨index, policy.withUpdates false⟩
  let committing : Run := ⟨index, policy.withUpdates true⟩
  have hvalid' : ∀ updates, (policy.withUpdates updates).validate = .ok () := fun _ => hvalid
  have hdry := importBatch_eq_dispatched hindex (hvalid' false) cores cancellation rows
  have hcommitting := importBatch_eq_dispatched hindex (hvalid' true) cores cancellation rows
  dsimp only at hdry
  rw [Run.catalogAfter_of_isDryRun rfl] at hdry
  -- Which entries the rows are taken for does not depend on whether prices are written.
  have hrun : (dry.handleAll index.catalog taken).1.map Outcome.unpriced =
      (run.handleAll index.catalog taken).1.map Outcome.unpriced :=
    dry.handleAll_unpriced run (fun _ => rfl) ⟨rfl, rfl, rfl⟩ (.refl index.catalog) taken
  rw [outcomes_progress, ← Outcome.filterMap_takenFor?_of_unpriced hrun] at hdistinct
  have hunpriced : (dry.handleAll index.catalog taken).1.map Outcome.unpriced =
      (committing.handleAll index.catalog taken).1.map Outcome.unpriced :=
    dry.handleAll_unpriced committing (fun _ => rfl) ⟨rfl, rfl, rfl⟩ (.refl index.catalog) taken
  have hsame : (dry.handleAll index.catalog taken).1.map Outcome.previewChange? =
      (committing.handleAll index.catalog taken).1.map Outcome.previewChange? :=
    dry.map_previewChange?_handleAll committing (fun _ => rfl) ⟨rfl, rfl, rfl⟩ (.refl index.catalog)
      hdistinct fun _ _ => rfl
  have hchanges := Outcome.map_unapplied_filterMap_priceChange? hsame
  rw [PriceChange.map_unapplied_of_not_applied
    (dry.isLog_handleAll index.catalog taken).1.applied_eq] at hchanges
  exact ⟨_, _, _, hdry, hcommitting, ImportReport.previews_tally hunpriced hchanges
    (committing.isLog_handleAll index.catalog taken).1.applied_eq _⟩

/-- Both changes that the run writes are in its preview. -/
theorem importBatch_preview_twoBookRows :
    ∃ index preview report after,
      build sampleEntries 20 = .ok index ∧
      index.importBatch { options.updateExistingPrices := false } 4 .never twoBookRows =
        .ok (preview, index) ∧
      index.importBatch {} 4 .never twoBookRows = .ok (report, after) ∧
      report.priceChanges.size = 2 ∧ preview.Previews report := by
  obtain ⟨index, hbuild⟩ := exists_build_sampleEntries
  have htaken : ((build sampleEntries 20).map fun index =>
      (index.progress {} 4 .never twoBookRows).outcomes.filterMap Outcome.takenFor?) =
        .ok [⟨42⟩, ⟨43⟩] := by decide +kernel
  have hwritten : ((build sampleEntries 20).bind fun index =>
      (index.importBatch {} 4 .never twoBookRows).map (·.1.priceChanges.size)) = .ok 2 := by
    decide +kernel
  rw [hbuild] at htaken
  have hentries : (index.progress {} 4 .never twoBookRows).outcomes.filterMap Outcome.takenFor? =
      [⟨42⟩, ⟨43⟩] := Except.ok.inj htaken
  obtain ⟨preview, report, after, hdry, hcommitting, hpreviews⟩ :=
    importBatch_preview (.built hbuild) (rfl : ({} : ImportPolicy).validate = .ok ()) 4 .never
      twoBookRows (by rw [hentries]; decide)
  have hrun : index.importBatch {} 4 .never twoBookRows = .ok (report, after) := hcommitting
  rw [hbuild, Except.bind, hrun] at hwritten
  exact ⟨index, preview, report, after, hbuild, hdry, hrun, Except.ok.inj hwritten, hpreviews⟩

/-- Of two rows for one entry, the preview has the second one replace the price that the first one
has replaced already. -/
example :
    ((build sampleEntries 20).bind fun index => do
      let (preview, _) ← index.importBatch { options.updateExistingPrices := false } 4 .never
        sampleRows
      let (report, _) ← index.importBatch {} 4 .never sampleRows
      return (preview.priceChanges.map (·.old), report.priceChanges.map (·.old))) =
      .ok (#[⟨750.0, .rub⟩, ⟨750.0, .rub⟩], #[⟨750.0, .rub⟩, ⟨850.0, .rub⟩]) := by
  decide +kernel

end CandidateIndex

end Repricing
