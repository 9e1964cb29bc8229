import Repricing.Proofs.Catalog.Reload
import Repricing.Proofs.Import.ChunkedRun
import Repricing.Proofs.Reconcile.History

/-!
# Reloading an index

An index that is built from the snapshot of another one answers like it, and goes on answering like
it whatever is done to both.  So rows may be imported in two runs with a reload between them: the
two reports make up the one of a single run, and the prices are the same.
-/

namespace Repricing

open Catalog (observed)
open ReconcilePolicy (refresh)

variable {c d : Catalog}

/-! ## Reconciliation -/

section SameSnapshot

variable (hsame : c.snapshot = d.snapshot)

include hsame

namespace ReconcilePolicy

theorem refresh_congr (candidate : Candidate) : refresh c candidate = refresh d candidate := by
  rw [refresh, refresh, Catalog.get?_congr hsame]

theorem pending_congr
    (policy : ReconcilePolicy) (item : Item) (reason : ReviewReason)
    (candidates : List Candidate) :
    policy.pending item reason candidates c = policy.pending item reason candidates d := by
  have hrefresh : refresh c = refresh d := funext (refresh_congr hsame)
  simp only [pending, hrefresh]

theorem applyTop_congr
    (policy : ReconcilePolicy) (commit : Bool) (item : Item) (top : Candidate)
    (ranked : List Candidate) :
    observed (policy.applyTop commit item top ranked c) =
      observed (policy.applyTop commit item top ranked d) := by
  rcases Catalog.applyPrice_congr_snapshot hsame top.entry.id item.price
      (policy.epsilonFor item.price.currency) commit with
    ⟨e, hoffer, hoffer'⟩ | ⟨update, after, after', hoffer, hoffer', hafter⟩
  · by_cases hunknown : e = .notFound
    · subst hunknown
      rw [applyTop_of_unknown hoffer, applyTop_of_unknown hoffer', observed, observed, hsame]
    · rw [applyTop_of_refused hoffer hunknown, applyTop_of_refused hoffer' hunknown,
        pending_congr hsame, observed, observed, hsame]
  · obtain ⟨current, hcurrent⟩ := Catalog.exists_get?_of_applyPrice hoffer
    have hcurrent' := (Catalog.get?_congr hafter top.entry.id).symm.trans hcurrent
    rw [applyTop_of_ok hoffer hcurrent, applyTop_of_ok hoffer' hcurrent', observed, observed,
      hafter]

theorem reconcile_congr
    (policy : ReconcilePolicy) (commit : Bool) (item : Item) (candidates : List Candidate) :
    observed (policy.reconcile commit item candidates c) =
      observed (policy.reconcile commit item candidates d) := by
  unfold reconcile
  cases rank candidates with
  | nil => simp [decideRanked, observed, hsame]
  | cons top others =>
      have hpending := fun reason => pending_congr hsame policy item reason (top :: others)
      have happly := applyTop_congr hsame policy commit item top (top :: others)
      simp only [decideRanked]
      split
      · simp [observed, hsame]
      split
      · simp [observed, hsame, hpending]
      split
      · simp [observed, hsame, hpending]
      exact happly

end ReconcilePolicy

theorem CatalogStep.run_congr (step : CatalogStep) :
    observed (step.run c) = observed (step.run d) := by
  cases step with
  | offer id new epsilon commit =>
      rcases Catalog.applyPrice_congr_snapshot hsame id new epsilon commit with
        ⟨e, hoffer, hoffer'⟩ | ⟨update, after, after', hoffer, hoffer', hafter⟩
      · simp [run, hoffer, hoffer', observed, hsame]
      · simp [run, hoffer, hoffer', observed, hafter]
  | update id item epsilon =>
      rcases Catalog.applyPrice_congr_snapshot hsame id item.price epsilon true with
        ⟨e, hoffer, hoffer'⟩ | ⟨update, after, after', hoffer, hoffer', hafter⟩
      · simp [run, Catalog.updatePrice, hoffer, hoffer', Except.map, observed, hsame]
      · simp [run, Catalog.updatePrice, hoffer, hoffer', Except.map, observed, hafter]
  | reconcile policy commit item candidates =>
      have hreconcile := ReconcilePolicy.reconcile_congr hsame policy commit item candidates
      simp only [observed, Prod.mk.injEq] at hreconcile
      simp [run, observed, hreconcile]

/-! ## Matching -/

namespace CandidateIndex

theorem matchKeys_congr
    (index : CandidateIndex) (settings : MatchSettings) (keys : MatchKeys) (threshold : Float) :
    { index with catalog := c }.matchKeys settings keys threshold =
      { index with catalog := d }.matchKeys settings keys threshold := by
  have hcurrent : c.currentEntryAt? = d.currentEntryAt? :=
    funext (Catalog.currentEntryAt?_congr hsame)
  have hempty : { index with catalog := c }.isEmpty = { index with catalog := d }.isEmpty :=
    Catalog.isEmpty_congr_snapshot hsame
  have hexact : { index with catalog := c }.exactCandidate? =
      { index with catalog := d }.exactCandidate? := by
    funext isbn
    rw [exactCandidate?_eq, exactCandidate?_eq]
    simp only [candidateAt?, hcurrent]
    rfl
  have hscore : { index with catalog := c }.scoreSlot? settings keys =
      { index with catalog := d }.scoreSlot? settings keys := by
    funext slot
    rw [scoreSlot?_eq, scoreSlot?_eq]
    simp only [candidateAt?, hcurrent]
    rfl
  unfold matchKeys
  rw [hempty, hexact, hscore]
  rfl

end CandidateIndex

/-! ## Rows -/

namespace Run

theorem handle_congr (run : Run) (raw : RawRow) :
    observed (run.handle c raw) = observed (run.handle d raw) := by
  unfold handle
  cases KeyedItem.ofRow raw run.policy.options.defaultCurrency with
  | error error => simp [observed, hsame]
  | ok keyed =>
      have hcandidates : (run.indexAt c).matchKeyed run.policy.matching keyed =
          (run.indexAt d).matchKeyed run.policy.matching keyed :=
        CandidateIndex.matchKeys_congr hsame run.index _ _ _
      have hreconcile := ReconcilePolicy.reconcile_congr hsame run.policy.reconcile
        (!run.policy.isDryRun) keyed.item
        ((run.indexAt d).matchKeyed run.policy.matching keyed)
      simp only [observed, Prod.mk.injEq] at hreconcile
      simp [observed, hcandidates, hreconcile]

end Run

end SameSnapshot

/-- Row after row has the same outcomes, and leads to the same snapshot. -/
theorem Run.handleAll_congr_snapshot
    (run : Run) (hsame : c.snapshot = d.snapshot) (rows : List RawRow) :
    observed (run.handleAll c rows) = observed (run.handleAll d rows) := by
  induction rows generalizing c d with
  | nil => simp [observed, hsame]
  | cons raw rest ih =>
      obtain ⟨houtcome, hafter⟩ := Prod.mk.inj (run.handle_congr hsame raw)
      obtain ⟨houtcomes, hfinal⟩ := Prod.mk.inj (ih hafter)
      rw [handleAll_cons, handleAll_cons, observed, observed, houtcome, houtcomes, hfinal]

namespace CandidateIndex

variable {index : CandidateIndex}

/-! ## Imports -/

/-- A run works with the index apart from its prices. -/
theorem progress_eq
    (index : CandidateIndex) (c : Catalog) (policy : ImportPolicy) (cores : UInt64)
    (cancellation : Cancellation) (rows : List RawRow) :
    let all := Run.handleAll ⟨index, policy⟩ c (dispatched policy cores cancellation rows)
    { index with catalog := c }.progress policy cores cancellation rows =
      { cancelled := (cancellation.dispatch (chunkSize (policy.workerCount cores)).toNat 0 rows).2
        outcomes := all.1
        catalog := all.2 } := by
  intro all
  have hrun := Run.handleAll_congr ⟨{ index with catalog := c }, policy⟩ ⟨index, policy⟩
    (fun _ _ => rfl) c (dispatched policy cores cancellation rows)
  rw [progress, Run.chunks_eq]
  change Run.Progress.mk _ (Run.handleAll _ c (dispatched policy cores cancellation rows)).1
    (Run.handleAll _ c (dispatched policy cores cancellation rows)).2 = _
  rw [hrun]

/-- A run is refused for the same reason, or has the same report and leads to the same snapshot. -/
theorem importBatch_congr_snapshot
    (index : CandidateIndex) (hsame : c.snapshot = d.snapshot) (policy : ImportPolicy)
    (cores : UInt64) (cancellation : Cancellation) (rows : List RawRow) :
    (∃ e, { index with catalog := c }.importBatch policy cores cancellation rows = .error e ∧
      { index with catalog := d }.importBatch policy cores cancellation rows = .error e) ∨
    ∃ report after after',
      { index with catalog := c }.importBatch policy cores cancellation rows =
        .ok (report, { index with catalog := after }) ∧
      { index with catalog := d }.importBatch policy cores cancellation rows =
        .ok (report, { index with catalog := after' }) ∧
      after.snapshot = after'.snapshot := by
  cases hvalid : policy.validate with
  | error e => exact .inl ⟨e, by simp [importBatch, hvalid], by simp [importBatch, hvalid]⟩
  | ok =>
      have hempty : { index with catalog := c }.isEmpty = { index with catalog := d }.isEmpty :=
        Catalog.isEmpty_congr_snapshot hsame
      cases hnone : { index with catalog := d }.isEmpty with
      | true =>
          exact .inl ⟨.emptySnapshot, by simp [importBatch, hvalid, hempty, hnone],
            by simp [importBatch, hvalid, hnone]⟩
      | false =>
          obtain ⟨houtcomes, hafter⟩ := Prod.mk.inj (Run.handleAll_congr_snapshot ⟨index, policy⟩
            hsame (dispatched policy cores cancellation rows))
          rw [importBatch_of_valid (hempty.trans hnone) hvalid, importBatch_of_valid hnone hvalid]
          simp only [progress_eq, houtcomes]
          exact .inr ⟨_, _, _, rfl, rfl, hafter⟩

/-! ## Histories of an index -/

/-- What can be done with an index. -/
inductive IndexStep where
  | onCatalog (step : CatalogStep)
  | importRows (policy : ImportPolicy) (cores : UInt64) (cancellation : Cancellation)
      (rows : List RawRow)

/-- What a step answers. -/
inductive IndexAnswer where
  | ofCatalog (answer : StepAnswer)
  | imported (report : ImportReport)
  | refused (error : EngineError)

/-- Takes a step.  An import that is refused has no effect. -/
def IndexStep.run (index : CandidateIndex) : IndexStep → IndexAnswer × CandidateIndex
  | .onCatalog step =>
    let (answer, catalog) := step.run index.catalog
    (.ofCatalog answer, { index with catalog })
  | .importRows policy cores cancellation rows =>
    match index.importBatch policy cores cancellation rows with
    | .ok (report, after) => (.imported report, after)
    | .error e => (.refused e, index)

/-- Takes one step after the other. -/
def runSteps (index : CandidateIndex) : List IndexStep → List IndexAnswer × CandidateIndex
  | [] => ([], index)
  | step :: rest =>
    let (answer, index) := step.run index
    let (answers, index) := index.runSteps rest
    (answer :: answers, index)

/-- A step leaves all but the catalog of an index alone. -/
theorem exists_run (index : CandidateIndex) (step : IndexStep) :
    ∃ catalog, (step.run index).2 = { index with catalog } := by
  cases step with
  | onCatalog step => exact ⟨_, rfl⟩
  | importRows policy cores cancellation rows =>
      rcases importBatch_congr_snapshot index (Eq.refl index.catalog.snapshot) policy cores
          cancellation rows with
        ⟨e, hrun, -⟩ | ⟨report, after, -, hrun, -, -⟩
      · exact ⟨index.catalog, by simp [IndexStep.run, hrun]⟩
      · exact ⟨after, by simp [IndexStep.run, hrun]⟩

theorem topK_runSteps (index : CandidateIndex) (steps : List IndexStep) :
    (index.runSteps steps).2.topK = index.topK := by
  induction steps generalizing index with
  | nil => rfl
  | cons step rest ih =>
      obtain ⟨catalog, hafter⟩ := index.exists_run step
      change ((step.run index).2.runSteps rest).2.topK = index.topK
      rw [ih, hafter]

/-- Steps do not lead out of the states that offers of prices lead to. -/
theorem Reachable.catalogStep (hindex : index.Reachable) (step : CatalogStep) :
    Reachable { index with catalog := (step.run index.catalog).2 } := by
  cases step with
  | offer id new epsilon commit =>
      cases hoffer : index.catalog.applyPrice id new epsilon commit with
      | error e =>
          simp only [CatalogStep.run, hoffer]
          exact hindex
      | ok answer =>
          simp only [CatalogStep.run, hoffer]
          exact .offered hindex hoffer
  | update id item epsilon =>
      cases hupdate : index.catalog.updatePrice id item epsilon with
      | error e =>
          simp only [CatalogStep.run, hupdate]
          exact hindex
      | ok answer =>
          obtain ⟨update, hoffer, -⟩ := Catalog.offer_of_updatePrice hupdate
          simp only [CatalogStep.run, hupdate]
          exact .offered hindex hoffer
  | reconcile policy commit item candidates =>
      simp only [CatalogStep.run]
      rcases policy.reconcile_cases commit item candidates index.catalog with
        ⟨reason, best, hresult⟩ | ⟨reason, hresult⟩ |
          ⟨top, -, update, after, current, hoffer, -, hresult⟩
      · rw [hresult]
        exact hindex
      · rw [hresult]
        exact hindex
      · rw [hresult]
        exact .offered hindex hoffer

theorem Reachable.runSteps (hindex : index.Reachable) (steps : List IndexStep) :
    (index.runSteps steps).2.Reachable := by
  induction steps generalizing index with
  | nil => exact hindex
  | cons step rest ih =>
      apply ih
      cases step with
      | onCatalog step => exact hindex.catalogStep step
      | importRows policy cores cancellation rows =>
          cases hrun : index.importBatch policy cores cancellation rows with
          | error e =>
              simp only [hrun]
              exact hindex
          | ok answer =>
              simp only [hrun]
              exact hindex.importBatch hrun

/-! ## Indexes that answer alike -/

/-- Two indexes give the same answers about their entries and their prices, and find the same
entries and the same candidates. -/
structure AnswersLike (a b : CandidateIndex) : Prop where
  topK : a.topK = b.topK
  size : a.size = b.size
  snapshot : a.catalog.snapshot = b.catalog.snapshot
  get? : ∀ id, a.catalog.get? id = b.catalog.get? id
  currentPrice : ∀ id, a.catalog.currentPrice id = b.catalog.currentPrice id
  keysAt? : ∀ slot, a.keysAt? slot = b.keysAt? slot
  findIsbn? : ∀ isbn, (a.findIsbn? isbn).map (·.id) = (b.findIsbn? isbn).map (·.id)
  findTokens : ∀ title author,
    (a.findTokens title author).map (·.id) = (b.findTokens title author).map (·.id)
  findTokensTop : ∀ title author k,
    (a.findTokensTop title author k).map (·.id) = (b.findTokensTop title author k).map (·.id)
  matchKeys : ∀ settings keys threshold,
    a.matchKeys settings keys threshold = b.matchKeys settings keys threshold
  potentialMatches : ∀ settings item threshold,
    a.potentialMatches settings item threshold = b.potentialMatches settings item threshold
  matchItem : ∀ settings item, a.matchItem settings item = b.matchItem settings item
  matchKeyed : ∀ settings keyed, a.matchKeyed settings keyed = b.matchKeyed settings keyed
  bestMatch? : ∀ settings item, a.bestMatch? settings item = b.bestMatch? settings item

theorem findTokensTop_congr
    (index : CandidateIndex) (hsame : c.snapshot = d.snapshot) (title author : String)
    (k : UInt64) :
    ({ index with catalog := c }.findTokensTop title author k).map CatalogEntry.id =
      ({ index with catalog := d }.findTokensTop title author k).map CatalogEntry.id := by
  rw [findTokensTop, findTokensTop, List.map_filterMap, List.map_filterMap]
  congr 1
  funext slot
  exact Catalog.id_entryAt?_congr hsame slot

/-- Indexes that differ in their catalogs only answer alike if these have the same snapshot. -/
theorem answersLike_of_snapshot (index : CandidateIndex) (hsame : c.snapshot = d.snapshot) :
    AnswersLike { index with catalog := c } { index with catalog := d } where
  topK := rfl
  size := Catalog.size_congr hsame
  snapshot := hsame
  get? := Catalog.get?_congr hsame
  currentPrice := Catalog.currentPrice_congr hsame
  keysAt? _ := rfl
  findIsbn? isbn := by
    rw [findIsbn?, findIsbn?, Option.map_bind, Option.map_bind]
    congr 1
    funext slot
    exact Catalog.id_entryAt?_congr hsame slot
  findTokens title author := findTokensTop_congr index hsame title author _
  findTokensTop := findTokensTop_congr index hsame
  matchKeys := matchKeys_congr hsame index
  potentialMatches settings item threshold := matchKeys_congr hsame index _ _ threshold
  matchItem settings item := matchKeys_congr hsame index _ _ _
  matchKeyed settings keyed := matchKeys_congr hsame index _ _ _
  bestMatch? settings item :=
    congrArg (fun found => found.head?.map (·.entry)) (matchKeys_congr hsame index _ _ _)

/-- A step has the same answer, and leads to the same snapshot. -/
theorem run_congr_snapshot
    (index : CandidateIndex) (hsame : c.snapshot = d.snapshot) (step : IndexStep) :
    ∃ answer after after',
      step.run { index with catalog := c } = (answer, { index with catalog := after }) ∧
      step.run { index with catalog := d } = (answer, { index with catalog := after' }) ∧
      after.snapshot = after'.snapshot := by
  cases step with
  | onCatalog step =>
      obtain ⟨hanswer, hafter⟩ := Prod.mk.inj (CatalogStep.run_congr hsame step)
      refine ⟨.ofCatalog (step.run c).1, (step.run c).2, (step.run d).2, rfl, ?_, hafter⟩
      rw [hanswer]
      rfl
  | importRows policy cores cancellation rows =>
      rcases importBatch_congr_snapshot index hsame policy cores cancellation rows with
        ⟨e, hrun, hrun'⟩ | ⟨report, after, after', hrun, hrun', hafter⟩
      · exact ⟨.refused e, c, d, by simp [IndexStep.run, hrun], by simp [IndexStep.run, hrun'],
          hsame⟩
      · exact ⟨.imported report, after, after', by simp [IndexStep.run, hrun],
          by simp [IndexStep.run, hrun'], hafter⟩

/-- Whatever is done with two indexes that differ in their catalogs, but not in the snapshots of
these, they go on giving the same answers. -/
theorem runSteps_congr
    (index : CandidateIndex) (hsame : c.snapshot = d.snapshot) (steps : List IndexStep) :
    ({ index with catalog := c }.runSteps steps).1 =
        ({ index with catalog := d }.runSteps steps).1 ∧
      AnswersLike ({ index with catalog := c }.runSteps steps).2
        ({ index with catalog := d }.runSteps steps).2 := by
  induction steps generalizing c d with
  | nil => exact ⟨rfl, answersLike_of_snapshot index hsame⟩
  | cons step rest ih =>
      obtain ⟨answer, after, after', hrun, hrun', hafter⟩ :=
        run_congr_snapshot index hsame step
      obtain ⟨hanswers, halike⟩ := ih hafter
      simp only [runSteps, hrun, hrun']
      exact ⟨congrArg (answer :: ·) hanswers, halike⟩

/-! ## Reloading -/

theorem Reachable.topK_ne_zero (hindex : index.Reachable) : index.topK ≠ 0 := by
  induction hindex with
  | built hbuild =>
      obtain ⟨htopK, catalog, -, -, rfl⟩ := build_eq_ok_iff.mp hbuild
      exact htopK
  | offered _ _ ih => exact ih

/-- The snapshot of an index makes up an index that differs from it in its catalog only. -/
theorem Reachable.exists_build_snapshot (hindex : index.Reachable) :
    ∃ catalog, build index.catalog.snapshot index.topK = .ok { index with catalog } ∧
      catalog.snapshot = index.catalog.snapshot := by
  obtain ⟨catalog, hbuilt, hentries, hsnapshot⟩ := index.catalog.exists_ofEntries_snapshot
  refine ⟨catalog, ?_, hsnapshot⟩
  rw [build_eq_ok_iff]
  refine ⟨hindex.topK_ne_zero, catalog, hbuilt, ?_, ?_⟩
  · exact (Catalog.isEmpty_congr_snapshot hsnapshot).trans hindex.isEmpty_eq_false
  · have hkeys : catalog.entries.map MatchKeys.ofEntry = index.keys := by
      have hlists := Catalog.map_snapshot MatchKeys.ofEntry (fun _ _ => rfl) index.catalog
      rw [← hentries, ← Array.toList_map, ← Array.toList_map] at hlists
      rw [hindex.keys_eq]
      exact Array.toList_inj.mp hlists
    rw [ofCatalog, hkeys, ← hindex.postings_eq]

end CandidateIndex

/-! ## Two runs in place of one -/

/-- The report is made up of two others: its lists are theirs one after the other, and its counters
are their sums. -/
structure ImportReport.Joins (whole first second : ImportReport) : Prop where
  cancelled : whole.cancelled = (first.cancelled || second.cancelled)
  dryRun : whole.dryRun = first.dryRun ∧ whole.dryRun = second.dryRun
  total : whole.total = first.total + second.total
  autoApplied : whole.autoApplied = first.autoApplied + second.autoApplied
  unchanged : whole.unchanged = first.unchanged + second.unchanged
  pending : whole.pending = first.pending + second.pending
  rejected : whole.rejected = first.rejected + second.rejected
  errors : whole.errors = first.errors + second.errors
  rowErrors : whole.rowErrors = first.rowErrors ++ second.rowErrors
  decisions : whole.decisions = first.decisions ++ second.decisions
  priceChanges : whole.priceChanges = first.priceChanges ++ second.priceChanges

theorem ImportReport.joins_tally (dryRun : Bool) (xs ys : List Outcome) :
    (tally dryRun false (xs ++ ys)).Joins (tally dryRun false xs) (tally dryRun false ys) := by
  rw [tally_eq_ofOutcomes, tally_eq_ofOutcomes, tally_eq_ofOutcomes]
  constructor <;> simp [ofOutcomes]

namespace CandidateIndex

variable {index : CandidateIndex} {policy : ImportPolicy} {cores : UInt64}

/-- Rows that are imported in two runs with a reload between them come to the same as in one run. -/
theorem exists_importBatch_append
    (hindex : index.Reachable) (haccepted : policy.Accepted cores) (xs ys : List RawRow) :
    ∃ first second whole middle reloaded last final,
      index.importBatch policy cores .never xs = .ok (first, middle) ∧
      build middle.catalog.snapshot index.topK = .ok reloaded ∧
      reloaded.importBatch policy cores .never ys = .ok (second, last) ∧
      index.importBatch policy cores .never (xs ++ ys) = .ok (whole, final) ∧
      last.catalog.snapshot = final.catalog.snapshot ∧ whole.Joins first second := by
  let run : Run := ⟨index, policy⟩
  let middle := run.catalogAfter index.catalog xs
  have hmiddle : (run.indexAt middle).Reachable := reachable_catalogAfter run hindex xs
  obtain ⟨catalog, hbuild, hsnapshot⟩ := hmiddle.exists_build_snapshot
  have hsecond := importBatch_indexAt run hmiddle haccepted ys
  have hwhole := importBatch_never hindex haccepted (xs ++ ys)
  rw [Run.catalogAfter, Run.handleAll_append] at hwhole
  -- The second run after the reload does what it does without one.
  rcases importBatch_congr_snapshot index hsnapshot.symm policy cores .never ys with
    ⟨e, hrefused, -⟩ | ⟨second, after, last, hplain, hreloaded, hlast⟩
  · cases hsecond.symm.trans hrefused
  · obtain ⟨hreport, hafter⟩ := Prod.mk.inj (Except.ok.inj (hsecond.symm.trans hplain))
    refine ⟨_, second, _, run.indexAt middle, { index with catalog }, { index with catalog := last },
      _, importBatch_never hindex haccepted xs, hbuild, hreloaded, hwhole, ?_, ?_⟩
    · have hfinal : run.catalogAfter middle ys = after := congrArg CandidateIndex.catalog hafter
      rw [← hlast, ← hfinal]
    · rw [← hreport]
      exact ImportReport.joins_tally policy.isDryRun (run.handleAll index.catalog xs).1
        (run.handleAll middle ys).1

/-- Whatever has been done with an index, the snapshot that it has then makes up an index that
answers like it, now and after everything that is done with both later.  So rows come to the same
if the index is reloaded between them. -/
theorem reload_transparent
    {entries : List CatalogEntry} {topK : UInt64} {start : CandidateIndex}
    (hbuild : build entries topK = .ok start) (steps : List IndexStep) :
    let index := (start.runSteps steps).2
    ∃ reloaded,
      build index.catalog.snapshot topK = .ok reloaded ∧
      index.rebuild index.catalog.snapshot = .ok reloaded ∧
      index.AnswersLike reloaded ∧
      (∀ later, (index.runSteps later).1 = (reloaded.runSteps later).1 ∧
        (index.runSteps later).2.AnswersLike (reloaded.runSteps later).2) ∧
      ∀ (policy : ImportPolicy) (cores : UInt64) (xs ys : List RawRow), policy.Accepted cores →
        ∃ first second whole middle again last final,
          index.importBatch policy cores .never xs = .ok (first, middle) ∧
          build middle.catalog.snapshot topK = .ok again ∧
          again.importBatch policy cores .never ys = .ok (second, last) ∧
          index.importBatch policy cores .never (xs ++ ys) = .ok (whole, final) ∧
          last.catalog.snapshot = final.catalog.snapshot ∧ whole.Joins first second := by
  intro index
  have hindex : index.Reachable := (Reachable.built hbuild).runSteps steps
  have htopK : index.topK = topK := by
    obtain ⟨-, catalog, -, -, rfl⟩ := build_eq_ok_iff.mp hbuild
    exact topK_runSteps _ steps
  obtain ⟨catalog, hreloaded, hsnapshot⟩ := hindex.exists_build_snapshot
  refine ⟨{ index with catalog }, htopK ▸ hreloaded, hreloaded,
    answersLike_of_snapshot index hsnapshot.symm, runSteps_congr index hsnapshot.symm, ?_⟩
  intro policy cores xs ys haccepted
  rw [← htopK]
  exact exists_importBatch_append hindex haccepted xs ys

/-- The price that a row has set is still there after a reload, and rows may then be imported in two
runs. -/
theorem reload_transparent_sample :
    ∃ (start reloaded middle again last final : CandidateIndex)
      (first second whole : ImportReport),
      let index := (start.runSteps [.importRows {} 4 .never [sampleRow 1 "850" none]]).2
      build sampleEntries 20 = .ok start ∧
      build index.catalog.snapshot 20 = .ok reloaded ∧
      reloaded.catalog.currentPrice ⟨42⟩ = .ok ⟨850.0, .rub⟩ ∧
      index.importBatch {} 4 .never [sampleRow 2 "900" none] = .ok (first, middle) ∧
      build middle.catalog.snapshot 20 = .ok again ∧
      again.importBatch {} 4 .never [sampleRow 3 "10" (some "USD")] = .ok (second, last) ∧
      index.importBatch {} 4 .never [sampleRow 2 "900" none, sampleRow 3 "10" (some "USD")] =
        .ok (whole, final) ∧
      last.catalog.snapshot = final.catalog.snapshot ∧ whole.Joins first second := by
  obtain ⟨start, hbuild⟩ := exists_build_sampleEntries
  have haccepted : ({} : ImportPolicy).Accepted 4 := ⟨rfl, by decide, by decide⟩
  obtain ⟨reloaded, hreloaded, -, halike, -, hsplit⟩ :=
    reload_transparent hbuild [.importRows {} 4 .never [sampleRow 1 "850" none]]
  obtain ⟨first, second, whole, middle, again, last, final, hfirst, hagain, hsecond, hwhole,
      hsnapshot, hjoins⟩ :=
    hsplit {} 4 [sampleRow 2 "900" none] [sampleRow 3 "10" (some "USD")] haccepted
  have hprice : ((build sampleEntries 20).map fun start =>
      (start.runSteps [.importRows {} 4 .never
        [sampleRow 1 "850" none]]).2.catalog.currentPrice ⟨42⟩) =
          .ok (.ok ⟨850.0, .rub⟩) := by decide +kernel
  rw [hbuild] at hprice
  refine ⟨start, reloaded, middle, again, last, final, first, second, whole, hbuild, hreloaded, ?_,
    hfirst, hagain, hsecond, hwhole, hsnapshot, hjoins⟩
  rw [← halike.currentPrice]
  exact Except.ok.inj hprice

end CandidateIndex

end Repricing
