import Repricing.Proofs.Import.Accepted
import Repricing.Proofs.Import.Tally

/-!
# What becomes of a row does not depend on prices

No step looks at the amount of a price in the catalog, apart from the question whether the price has
to be written.  So two runs make the same of a row, up to the prices that they show, whatever else
they import, at whatever prices they begin, and whether they write prices or not.
-/

namespace Repricing

/-! ## Outcomes without prices of the catalog -/

/-- The candidate with another price for its entry. -/
def Candidate.withPrice (candidate : Candidate) (price : Money) : Candidate :=
  { candidate with entry := candidate.entry.withPrice price }

/-- The decision with the item's own price in place of all prices of the catalog, and as if this
price were current already. -/
def Decision.unpriced : Decision → Decision
  | .autoApplied entry _ new confidence _ _ =>
    .autoApplied (entry.withPrice new) new new confidence false false
  | .pendingReview reason candidates confidence price =>
    .pendingReview reason (candidates.map (·.withPrice price)) confidence price
  | .rejected reason best => .rejected reason best

/-- The outcome with the item's own price in place of all prices of the catalog. -/
def Outcome.unpriced : Outcome → Outcome
  | .decided record => .decided { record with decision := record.decision.unpriced }
  | .failed error => .failed error

@[simp] theorem Decision.kind_unpriced (decision : Decision) :
    decision.unpriced.kind = decision.kind := by
  cases decision <;> rfl

@[simp] theorem Outcome.rowError?_unpriced (outcome : Outcome) :
    outcome.unpriced.rowError? = outcome.rowError? := by
  cases outcome <;> rfl

@[simp] theorem Outcome.hasKind_unpriced (kind : DecisionKind) (outcome : Outcome) :
    outcome.unpriced.hasKind kind = outcome.hasKind kind := by
  cases outcome with
  | decided record => simp [hasKind, unpriced]
  | failed error => rfl

theorem Outcome.countP_map_unpriced (kind : DecisionKind) (outcomes : List Outcome) :
    (outcomes.map unpriced).countP (·.hasKind kind) = outcomes.countP (·.hasKind kind) := by
  simp only [List.countP_map, Function.comp_def, hasKind_unpriced]

theorem Outcome.filterMap_rowError?_map_unpriced (outcomes : List Outcome) :
    (outcomes.map unpriced).filterMap rowError? = outcomes.filterMap rowError? := by
  simp only [List.filterMap_map, Function.comp_def, rowError?_unpriced]

/-- The reports agree in how many rows fall into each bucket, and in the errors of skipped rows. -/
structure ImportReport.SameBuckets (report other : ImportReport) : Prop where
  total : report.total = other.total
  autoApplied : report.autoApplied = other.autoApplied
  pending : report.pending = other.pending
  rejected : report.rejected = other.rejected
  errors : report.errors = other.errors
  rowErrors : report.rowErrors = other.rowErrors

theorem ImportReport.sameBuckets_of_unpriced
    {outcomes others : List Outcome}
    (hunpriced : outcomes.map Outcome.unpriced = others.map Outcome.unpriced)
    (dryRun dryRun' cancelled cancelled' : Bool) :
    (tally dryRun cancelled outcomes).SameBuckets (tally dryRun' cancelled' others) := by
  have hkinds : ∀ kind,
      outcomes.countP (·.hasKind kind) = others.countP (·.hasKind kind) := by
    intro kind
    rw [← Outcome.countP_map_unpriced, hunpriced, Outcome.countP_map_unpriced]
  have herrors : outcomes.filterMap Outcome.rowError? = others.filterMap Outcome.rowError? := by
    rw [← Outcome.filterMap_rowError?_map_unpriced, hunpriced,
      Outcome.filterMap_rowError?_map_unpriced]
  have hlength : outcomes.length = others.length := by
    simpa using congrArg List.length hunpriced
  rw [tally_eq_ofOutcomes, tally_eq_ofOutcomes]
  exact ⟨hlength, hkinds .autoApplied, hkinds .pendingReview, hkinds .rejected,
    congrArg List.length herrors, congrArg List.toArray herrors⟩

/-! ## Decisions -/

namespace ReconcilePolicy

variable {c d : Catalog} {commit commit' : Bool} {item : Item}

theorem withPrice_refresh_congr
    (hentries : c.entries = d.entries) (candidate : Candidate) (price : Money) :
    (refresh c candidate).withPrice price = (refresh d candidate).withPrice price := by
  have hget : (c.get? candidate.entry.id).map (·.withPrice price) =
      (d.get? candidate.entry.id).map (·.withPrice price) :=
    Catalog.map_withPrice_get?_congr hentries price
  unfold refresh Candidate.withPrice
  cases hc : c.get? candidate.entry.id with
  | none =>
      rw [hc, Option.map_none, eq_comm, Option.map_eq_none_iff] at hget
      rw [hget]
  | some current =>
      rw [hc, Option.map_some, eq_comm, Option.map_eq_some_iff] at hget
      obtain ⟨other, hother, heq⟩ := hget
      rw [hother, Option.getD_some, Option.getD_some, heq]

theorem pending_unpriced
    (policy : ReconcilePolicy) (hentries : c.entries = d.entries) (item : Item)
    (reason : ReviewReason) (candidates : List Candidate) :
    (policy.pending item reason candidates c).unpriced =
      (policy.pending item reason candidates d).unpriced := by
  have hshown : ∀ candidates : List Candidate,
      (candidates.map (refresh c)).map (·.withPrice item.price) =
        (candidates.map (refresh d)).map (·.withPrice item.price) := by
    intro candidates
    rw [List.map_map, List.map_map]
    exact List.map_congr_left fun candidate _ =>
      withPrice_refresh_congr hentries candidate item.price
  simp only [pending, Decision.unpriced, hshown, List.head?_map, Option.map_map]
  rfl

theorem applyTop_unpriced
    (policy : ReconcilePolicy) (halike : c.Alike d) (commit commit' : Bool) (item : Item)
    (top : Candidate) (ranked : List Candidate) :
    (policy.applyTop commit item top ranked c).1.unpriced =
      (policy.applyTop commit' item top ranked d).1.unpriced := by
  cases hoffer : c.applyPrice top.entry.id item.price
      (policy.epsilonFor item.price.currency) commit with
  | error e =>
      have hoffer' : d.applyPrice top.entry.id item.price
          (policy.epsilonFor item.price.currency) commit' = .error e :=
        halike.applyPrice_eq_error hoffer
      by_cases hunknown : e = .notFound
      · subst hunknown
        rw [applyTop_of_unknown hoffer, applyTop_of_unknown hoffer']
      · rw [applyTop_of_refused hoffer hunknown, applyTop_of_refused hoffer' hunknown]
        exact pending_unpriced policy halike.entries_eq item _ ranked
  | ok answer =>
      obtain ⟨update, after⟩ := answer
      cases hoffer' : d.applyPrice top.entry.id item.price
          (policy.epsilonFor item.price.currency) commit' with
      | error e =>
          rw [halike.symm.applyPrice_eq_error hoffer'] at hoffer
          cases hoffer
      | ok answer' =>
          obtain ⟨update', after'⟩ := answer'
          obtain ⟨current, hcurrent⟩ := Catalog.exists_get?_of_applyPrice hoffer
          obtain ⟨current', hcurrent'⟩ := Catalog.exists_get?_of_applyPrice hoffer'
          have hentries : after.entries = after'.entries :=
            ((Catalog.alike_of_applyPrice hoffer).trans halike).entries_eq.trans
              (Catalog.alike_of_applyPrice hoffer').entries_eq.symm
          have hentry : current.withPrice item.price = current'.withPrice item.price := by
            have hgets : (after.get? top.entry.id).map (·.withPrice item.price) =
                (after'.get? top.entry.id).map (·.withPrice item.price) :=
              Catalog.map_withPrice_get?_congr hentries item.price
            rw [hcurrent, hcurrent'] at hgets
            exact Option.some.inj hgets
          rw [applyTop_of_ok hoffer hcurrent, applyTop_of_ok hoffer' hcurrent']
          simp only [Decision.unpriced, Catalog.new_of_applyPrice hoffer,
            Catalog.new_of_applyPrice hoffer', hentry]

/-- Whether prices are written, and at which prices a catalog stands, shows in the prices of a
decision only. -/
theorem reconcile_unpriced
    (policy : ReconcilePolicy) (halike : c.Alike d) (commit commit' : Bool) (item : Item)
    (candidates : List Candidate) :
    (policy.reconcile commit item candidates c).1.unpriced =
      (policy.reconcile commit' item candidates d).1.unpriced := by
  unfold reconcile
  cases rank candidates with
  | nil => rfl
  | cons top others =>
      have hpending := pending_unpriced policy halike.entries_eq item
      simp only [decideRanked]
      split
      · rfl
      split
      · exact hpending .ambiguous (top :: others)
      split
      · exact hpending .lowConfidence (top :: others)
      · exact applyTop_unpriced policy halike commit commit' item top (top :: others)

end ReconcilePolicy

/-! ## Rows -/

/-- The policies match, reconcile and convert alike.  They may differ in the number of workers and
in whether prices are written. -/
structure ImportPolicy.AgreesWith (policy other : ImportPolicy) : Prop where
  matching : policy.matching = other.matching
  reconcile : policy.reconcile = other.reconcile
  defaultCurrency : policy.options.defaultCurrency = other.options.defaultCurrency

namespace Run

variable (run other : Run) {c d : Catalog}

/-- Candidates that were found at other prices lead to the same decision, up to prices. -/
theorem handle_unpriced
    (hindex : ∀ catalog, run.indexAt catalog = other.indexAt catalog)
    (hpolicy : run.policy.AgreesWith other.policy) (halike : c.Alike d) (raw : RawRow) :
    (run.handle c raw).1.unpriced = (other.handle d raw).1.unpriced := by
  unfold handle
  rw [hpolicy.defaultCurrency, hpolicy.matching, hpolicy.reconcile, hindex]
  cases KeyedItem.ofRow raw other.policy.options.defaultCurrency with
  | error error => rfl
  | ok keyed =>
      have hfound : (other.indexAt c).matchKeyed other.policy.matching keyed =
          ((other.indexAt d).matchKeyed other.policy.matching keyed).map
            (ReconcilePolicy.refresh c) :=
        CandidateIndex.matchKeys_refresh other.index halike.entries_eq _ _ _
      simp only [hfound, ReconcilePolicy.reconcile_map_refresh, Outcome.unpriced]
      rw [ReconcilePolicy.reconcile_unpriced other.policy.reconcile halike
        (!run.policy.isDryRun) (!other.policy.isDryRun)]

/-- The same row comes to the same, up to prices, wherever it stands among which rows. -/
theorem unpriced_of_getElem?_handleAll
    (hindex : ∀ catalog, run.indexAt catalog = other.indexAt catalog)
    (hpolicy : run.policy.AgreesWith other.policy) (halike : c.Alike d)
    {rows rows' : List RawRow} {i j : Nat} {raw : RawRow}
    (hi : rows[i]? = some raw) (hj : rows'[j]? = some raw) :
    ∃ outcome outcome',
      (run.handleAll c rows).1[i]? = some outcome ∧
      (other.handleAll d rows').1[j]? = some outcome' ∧
      outcome.unpriced = outcome'.unpriced := by
  have halike' : (run.catalogAfter c (rows.take i)).Alike
      (other.catalogAfter d (rows'.take j)) :=
    ((run.alike_catalogAfter c (rows.take i)).trans halike).trans
      (other.alike_catalogAfter d (rows'.take j)).symm
  refine ⟨_, _, ?_, ?_, handle_unpriced run other hindex hpolicy halike' raw⟩
  · rw [getElem?_handleAll, hi, Option.map_some]
  · rw [getElem?_handleAll, hj, Option.map_some]

/-- Up to prices, each row comes to what it comes to on its own. -/
theorem map_unpriced_handleAll (halike : c.Alike d) (rows : List RawRow) :
    (run.handleAll c rows).1.map Outcome.unpriced =
      rows.map fun raw => (run.handle d raw).1.unpriced := by
  induction rows generalizing c with
  | nil => rfl
  | cons raw rest ih =>
      rw [handleAll_cons, List.map_cons, List.map_cons,
        ih ((run.alike_handle c raw).trans halike),
        handle_unpriced run run (fun _ => rfl) ⟨rfl, rfl, rfl⟩ halike raw]

theorem handleAll_unpriced
    (hindex : ∀ catalog, run.indexAt catalog = other.indexAt catalog)
    (hpolicy : run.policy.AgreesWith other.policy) (halike : c.Alike d) (rows : List RawRow) :
    (run.handleAll c rows).1.map Outcome.unpriced =
      (other.handleAll d rows).1.map Outcome.unpriced := by
  rw [map_unpriced_handleAll run halike, map_unpriced_handleAll other (.refl d)]
  exact List.map_congr_left fun raw _ => handle_unpriced run other hindex hpolicy (.refl d) raw

end Run

namespace CandidateIndex

variable {index : CandidateIndex} {first second : Catalog} {policy other : ImportPolicy}

/-- Two runs make the same of a row that both take up, up to the prices of the catalog, and two runs
over the same rows put the same rows into each bucket.  The runs may begin at any prices in the
currencies of the snapshot, and either of them may be a dry one. -/
theorem importBatch_unpriced
    (hindex : index.Reachable)
    (hfirst : first.entries = index.catalog.entries) (hfirstIn : first.InSnapshotCurrency)
    (hsecond : second.entries = index.catalog.entries) (hsecondIn : second.InSnapshotCurrency)
    (hvalid : policy.validate = .ok ()) (hvalid' : other.validate = .ok ())
    (hpolicy : policy.AgreesWith other) (cores cores' : UInt64)
    (cancellation cancellation' : Cancellation) (rows rows' : List RawRow) :
    let progress := { index with catalog := first }.progress policy cores cancellation rows
    let progress' := { index with catalog := second }.progress other cores' cancellation' rows'
    let report := ImportReport.tally policy.isDryRun progress.cancelled progress.outcomes
    let report' := ImportReport.tally other.isDryRun progress'.cancelled progress'.outcomes
    let taken := dispatched policy cores cancellation rows
    let taken' := dispatched other cores' cancellation' rows'
    { index with catalog := first }.importBatch policy cores cancellation rows =
        .ok (report, { index with catalog := progress.catalog }) ∧
      { index with catalog := second }.importBatch other cores' cancellation' rows' =
        .ok (report', { index with catalog := progress'.catalog }) ∧
      (taken.Sublist rows ∧ (policy.Accepted cores → cancellation = .never → taken = rows)) ∧
      (taken'.Sublist rows' ∧
        (other.Accepted cores' → cancellation' = .never → taken' = rows')) ∧
      (∀ (i j : Nat) (raw : RawRow), taken[i]? = some raw → taken'[j]? = some raw →
        ∃ outcome outcome',
          progress.outcomes[i]? = some outcome ∧ progress'.outcomes[j]? = some outcome' ∧
            outcome.unpriced = outcome'.unpriced ∧
            ∀ kind, outcome.hasKind kind = outcome'.hasKind kind) ∧
      (taken = taken' →
        progress.outcomes.map Outcome.unpriced = progress'.outcomes.map Outcome.unpriced ∧
          report.SameBuckets report') := by
  have halike : first.Alike second :=
    Catalog.alike_of_inSnapshotCurrency (hfirst.trans hsecond.symm) hfirstIn hsecondIn
  have hnonempty : { index with catalog := first }.isEmpty = false :=
    (index.isEmpty_congr hfirst).trans hindex.isEmpty_eq_false
  have hnonempty' : { index with catalog := second }.isEmpty = false :=
    (index.isEmpty_congr hsecond).trans hindex.isEmpty_eq_false
  intro progress progress' report report' taken taken'
  have houtcomes : progress.outcomes =
      (Run.handleAll ⟨{ index with catalog := first }, policy⟩ first taken).1 := outcomes_progress
  have houtcomes' : progress'.outcomes =
      (Run.handleAll ⟨{ index with catalog := second }, other⟩ second taken').1 :=
    outcomes_progress
  refine ⟨importBatch_of_valid hnonempty hvalid, importBatch_of_valid hnonempty' hvalid',
    ?_, ?_, ?_, ?_⟩
  · refine ⟨cancellation.dispatch_sublist _ 0 rows, ?_⟩
    rintro haccepted rfl
    exact dispatched_never haccepted
  · refine ⟨cancellation'.dispatch_sublist _ 0 rows', ?_⟩
    rintro haccepted rfl
    exact dispatched_never haccepted
  · intro i j raw hi hj
    obtain ⟨outcome, outcome', hoi, hoj, hunpriced⟩ :=
      Run.unpriced_of_getElem?_handleAll ⟨{ index with catalog := first }, policy⟩
        ⟨{ index with catalog := second }, other⟩ (fun _ => rfl) hpolicy halike hi hj
    refine ⟨outcome, outcome', houtcomes ▸ hoi, houtcomes' ▸ hoj, hunpriced, ?_⟩
    intro kind
    rw [← Outcome.hasKind_unpriced, hunpriced, Outcome.hasKind_unpriced]
  · intro htaken
    have hunpriced : progress.outcomes.map Outcome.unpriced =
        progress'.outcomes.map Outcome.unpriced := by
      rw [houtcomes, houtcomes', ← htaken]
      exact Run.handleAll_unpriced ⟨{ index with catalog := first }, policy⟩
        ⟨{ index with catalog := second }, other⟩ (fun _ => rfl) hpolicy halike taken
    exact ⟨hunpriced, ImportReport.sameBuckets_of_unpriced hunpriced _ _ _ _⟩

/-- A dry run over the last two sample rows, at the prices that a run over all of them has written,
makes of them what that run has made of them. -/
theorem importBatch_unpriced_sample :
    ∃ index, build sampleEntries 20 = .ok index ∧
      let progress := index.progress {} 4 .never sampleRows
      let progress' := { index with catalog := progress.catalog }.progress
        { options.updateExistingPrices := false } 1 .never (sampleRows.drop 2)
      ∃ outcome outcome',
        progress.outcomes[2]? = some outcome ∧ progress'.outcomes[0]? = some outcome' ∧
          outcome.unpriced = outcome'.unpriced := by
  obtain ⟨index, hbuild⟩ := exists_build_sampleEntries
  have hindex : index.Reachable := .built hbuild
  have halike : (index.progress {} 4 .never sampleRows).catalog.Alike index.catalog := by
    rw [catalog_progress]
    exact Run.alike_catalogAfter _ _ _
  obtain ⟨-, -, ⟨-, htaken⟩, ⟨-, htaken'⟩, hrow, -⟩ :=
    importBatch_unpriced hindex rfl hindex.inSnapshotCurrency halike.entries_eq
      (halike.inSnapshotCurrency hindex.inSnapshotCurrency)
      (rfl : ({} : ImportPolicy).validate = .ok ())
      (rfl : ({ options.updateExistingPrices := false } : ImportPolicy).validate = .ok ())
      ⟨rfl, rfl, rfl⟩ 4 1 .never .never sampleRows (sampleRows.drop 2)
  have hall := htaken ⟨rfl, by decide, by decide⟩ rfl
  have hall' := htaken' ⟨rfl, by decide, by decide⟩ rfl
  obtain ⟨outcome, outcome', ho, ho', hunpriced, -⟩ :=
    hrow 2 0 (sampleRow 3 "10" (some "USD")) (by rw [hall]; rfl) (by rw [hall']; rfl)
  exact ⟨index, hbuild, outcome, outcome', ho, ho', hunpriced⟩

end CandidateIndex

end Repricing
