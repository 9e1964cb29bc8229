import Repricing.Proofs.Import.Dispatch
import Repricing.Proofs.Import.Tally
import Repricing.Proofs.Reconcile.Cases

/-!
# Rows handled one at a time

The plain way to import rows is to handle one after the other: match it against the prices of the
moment, and reconcile it at once.  A run that matches whole chunks first does the same, because
reconciling reads the entries of stale candidates again.
-/

namespace Repricing

namespace Run

variable {run : Run} {c d : Catalog}

/-! ## One row, and row after row -/

/-- Handles one row: it is converted, matched against the current prices, and reconciled. -/
def handle (run : Run) (catalog : Catalog) (raw : RawRow) : Outcome × Catalog :=
  match KeyedItem.ofRow raw run.policy.options.defaultCurrency with
  | .error error => (.failed error, catalog)
  | .ok keyed =>
    let candidates := (run.indexAt catalog).matchKeyed run.policy.matching keyed
    let (decision, catalog) :=
      run.policy.reconcile.reconcile (!run.policy.isDryRun) keyed.item candidates catalog
    (.decided { row := keyed.item.row, item := keyed.item, decision }, catalog)

/-- Handles rows one after the other. -/
def handleAll (run : Run) (catalog : Catalog) : List RawRow → List Outcome × Catalog
  | [] => ([], catalog)
  | raw :: rest =>
    let (outcome, catalog) := run.handle catalog raw
    let (outcomes, catalog) := run.handleAll catalog rest
    (outcome :: outcomes, catalog)

/-- The catalog after rows have been handled. -/
def catalogAfter (run : Run) (catalog : Catalog) (rows : List RawRow) : Catalog :=
  (run.handleAll catalog rows).2

@[simp] theorem handleAll_nil (run : Run) (c : Catalog) : run.handleAll c [] = ([], c) := rfl

theorem handleAll_cons (run : Run) (c : Catalog) (raw : RawRow) (rest : List RawRow) :
    run.handleAll c (raw :: rest) =
      ((run.handle c raw).1 :: (run.handleAll (run.handle c raw).2 rest).1,
        (run.handleAll (run.handle c raw).2 rest).2) := rfl

theorem handleAll_append (run : Run) (c : Catalog) (xs ys : List RawRow) :
    run.handleAll c (xs ++ ys) =
      ((run.handleAll c xs).1 ++ (run.handleAll (run.catalogAfter c xs) ys).1,
        run.catalogAfter (run.catalogAfter c xs) ys) := by
  induction xs generalizing c with
  | nil => rfl
  | cons raw rest ih =>
      rw [List.cons_append, handleAll_cons, ih]
      rfl

theorem length_handleAll (run : Run) (c : Catalog) (rows : List RawRow) :
    (run.handleAll c rows).1.length = rows.length := by
  induction rows generalizing c with
  | nil => rfl
  | cons raw rest ih => simp [handleAll_cons, ih]

/-- The outcome of a row is what comes of it after the rows before it. -/
theorem getElem?_handleAll (run : Run) (c : Catalog) (rows : List RawRow) (i : Nat) :
    (run.handleAll c rows).1[i]? =
      rows[i]?.map fun raw => (run.handle (run.catalogAfter c (rows.take i)) raw).1 := by
  induction rows generalizing c i with
  | nil => simp
  | cons raw rest ih =>
      rw [handleAll_cons]
      cases i with
      | zero => rfl
      | succ i =>
          rw [List.getElem?_cons_succ, List.getElem?_cons_succ, ih]
          rfl

/-! ## What one row can do -/

/-- The candidates for an item at the current prices, ranked. -/
def candidatesFor (run : Run) (catalog : Catalog) (keyed : KeyedItem) : List Candidate :=
  rank ((run.indexAt catalog).matchKeyed run.policy.matching keyed)

/-- What can come of a row, and what becomes of the catalog. -/
inductive Handled (run : Run) (c : Catalog) (raw : RawRow) : Outcome → Catalog → Prop
  | failed {error : RowError}
      (hrow : KeyedItem.ofRow raw run.policy.options.defaultCurrency = .error error) :
      Handled run c raw (.failed error) c
  | rejected {keyed : KeyedItem} {reason : RejectReason} {best : Option Float}
      (hrow : KeyedItem.ofRow raw run.policy.options.defaultCurrency = .ok keyed) :
      Handled run c raw
        (.decided ⟨keyed.item.row, keyed.item, .rejected reason best⟩) c
  | pending {keyed : KeyedItem} {reason : ReviewReason}
      (hrow : KeyedItem.ofRow raw run.policy.options.defaultCurrency = .ok keyed) :
      Handled run c raw
        (.decided ⟨keyed.item.row, keyed.item,
          run.policy.reconcile.pending keyed.item reason (run.candidatesFor c keyed) c⟩) c
  | autoApplied {keyed : KeyedItem} {top : Candidate} {update : PriceUpdate} {after : Catalog}
      {current : CatalogEntry}
      (hrow : KeyedItem.ofRow raw run.policy.options.defaultCurrency = .ok keyed)
      (htop : top ∈ run.candidatesFor c keyed)
      (hoffer : c.applyPrice top.entry.id keyed.item.price
        (run.policy.reconcile.epsilonFor keyed.item.price.currency) (!run.policy.isDryRun) =
          .ok (update, after))
      (hcurrent : after.get? top.entry.id = some current) :
      Handled run c raw
        (.decided ⟨keyed.item.row, keyed.item,
          .autoApplied current update.old update.new top.confidence update.changed
            update.applied⟩) after

theorem exists_handled (run : Run) (c : Catalog) (raw : RawRow) :
    ∃ outcome after, run.handle c raw = (outcome, after) ∧ Handled run c raw outcome after := by
  unfold handle
  cases hrow : KeyedItem.ofRow raw run.policy.options.defaultCurrency with
  | error error => exact ⟨_, _, rfl, .failed hrow⟩
  | ok keyed =>
      rcases ReconcilePolicy.reconcile_cases run.policy.reconcile (!run.policy.isDryRun) keyed.item
          ((run.indexAt c).matchKeyed run.policy.matching keyed) c with
        ⟨reason, best, hresult⟩ | ⟨reason, hresult⟩ |
          ⟨top, htop, update, after, current, hoffer, hcurrent, hresult⟩
      · simp only [hresult]
        exact ⟨_, _, rfl, .rejected hrow⟩
      · simp only [hresult]
        exact ⟨_, _, rfl, .pending hrow⟩
      · simp only [hresult]
        exact ⟨_, _, rfl, .autoApplied hrow (mem_rank.mpr htop) hoffer hcurrent⟩

/-- Handling a row keeps entries and currencies. -/
theorem alike_handle (run : Run) (c : Catalog) (raw : RawRow) :
    (run.handle c raw).2.Alike c := by
  obtain ⟨outcome, after, heq, hhandled⟩ := run.exists_handled c raw
  rw [heq]
  cases hhandled with
  | failed => exact .refl c
  | rejected => exact .refl c
  | pending => exact .refl c
  | autoApplied _ _ hoffer _ => exact Catalog.alike_of_applyPrice hoffer

theorem alike_catalogAfter (run : Run) (c : Catalog) (rows : List RawRow) :
    (run.catalogAfter c rows).Alike c := by
  induction rows generalizing c with
  | nil => exact .refl c
  | cons raw rest ih => exact (ih (run.handle c raw).2).trans (alike_handle run c raw)

/-- A row by which no price was written leaves the catalog alone. -/
theorem handle_of_not_wrote
    (run : Run) (c : Catalog) (raw : RawRow) (hnot : (run.handle c raw).1.wrote = false) :
    (run.handle c raw).2 = c := by
  obtain ⟨outcome, after, heq, hhandled⟩ := run.exists_handled c raw
  rw [heq] at hnot ⊢
  cases hhandled with
  | failed => rfl
  | rejected => rfl
  | pending => rfl
  | autoApplied _ _ hoffer _ => exact Catalog.eq_of_applyPrice_of_not_applied hoffer hnot

/-! ## Chunks -/

/-- A row that was matched at other prices is settled as if it had been matched at the current
ones. -/
theorem settle_prepare (run : Run) (hentries : c.entries = d.entries) (raw : RawRow) :
    run.settle c (run.prepare d raw) = run.handle c raw := by
  unfold prepare handle settle
  cases KeyedItem.ofRow raw run.policy.options.defaultCurrency with
  | error error => rfl
  | ok keyed =>
      have hfresh : (run.indexAt c).matchKeyed run.policy.matching keyed =
          ((run.indexAt d).matchKeyed run.policy.matching keyed).map
            (ReconcilePolicy.refresh c) :=
        CandidateIndex.matchKeys_refresh run.index hentries _ _ _
      simp only [hfresh, ReconcilePolicy.reconcile_map_refresh]

theorem settleAll_prepare (run : Run) (hentries : c.entries = d.entries) (rows : List RawRow) :
    run.settleAll c (rows.map (run.prepare d)) = run.handleAll c rows := by
  induction rows generalizing c with
  | nil => rfl
  | cons raw rest ih =>
      have hrest := ih ((alike_handle run c raw).entries_eq.trans hentries)
      simp only [List.map_cons, settleAll, settle_prepare run hentries, hrest]
      rfl

theorem prepareChunk_eq
    (run : Run) (cancellation : Cancellation) (c : Catalog) (handedOut : Nat)
    (chunk : List RawRow) :
    run.prepareChunk cancellation c handedOut chunk =
      (cancellation.admitted handedOut chunk).map (Option.map (run.prepare c)) := by
  apply List.ext_getElem?
  intro place
  rw [prepareChunk, Cancellation.admitted, List.getElem?_map, List.getElem?_mapIdx,
    List.getElem?_mapIdx, Option.map_map]
  congr 1
  funext raw
  dsimp only [Function.comp]
  split <;> rfl

theorem settleAll_prepareChunk
    (run : Run) (cancellation : Cancellation) (c : Catalog) (handedOut : Nat)
    (chunk : List RawRow) :
    run.settleAll c ((run.prepareChunk cancellation c handedOut chunk).filterMap id) =
      run.handleAll c ((cancellation.admitted handedOut chunk).filterMap id) := by
  rw [prepareChunk_eq, List.filterMap_map, ← settleAll_prepare run rfl, List.map_filterMap]
  rfl

theorem any_isNone_prepareChunk
    (run : Run) (cancellation : Cancellation) (c : Catalog) (handedOut : Nat)
    (chunk : List RawRow) :
    (run.prepareChunk cancellation c handedOut chunk).any (·.isNone) =
      (cancellation.admitted handedOut chunk).any (·.isNone) := by
  rw [prepareChunk_eq, List.any_map]
  congr 1
  funext row
  exact Option.isNone_map

/-- What a run works out is what comes of the rows it takes up, handled one after the other. -/
theorem chunks_eq
    (run : Run) (size : Nat) (cancellation : Cancellation) (count : Nat) (c : Catalog)
    (rows : List RawRow) :
    run.chunks size cancellation count c rows =
      let dispatched := cancellation.dispatch size count rows
      { cancelled := dispatched.2
        outcomes := (run.handleAll c dispatched.1).1
        catalog := run.catalogAfter c dispatched.1 } := by
  fun_induction chunks run size cancellation count c rows with
  | case1 count c rows hfired =>
      rw [Cancellation.dispatch]
      simp [hfired, catalogAfter]
  | case2 count c rows chunk hnot hempty =>
      rw [Cancellation.dispatch]
      rw [List.isEmpty_iff] at hempty
      simp [hnot, hempty, chunk, catalogAfter]
  | case3 count c rows chunk hnot hempty handedOut prepared outcomes after hsettled hcut =>
      rw [any_isNone_prepareChunk] at hcut
      rw [settleAll_prepareChunk] at hsettled
      rw [List.isEmpty_iff] at hempty
      rw [Cancellation.dispatch, if_neg hnot, dif_neg hempty]
      dsimp only
      rw [if_pos hcut]
      exact congrArg (fun result => Progress.mk true result.1 result.2) hsettled.symm
  | case4 count c rows chunk hnot hempty handedOut prepared outcomes after hsettled hcut rest ih =>
      rw [any_isNone_prepareChunk] at hcut
      rw [settleAll_prepareChunk] at hsettled
      rw [List.isEmpty_iff] at hempty
      rw [Cancellation.dispatch, if_neg hnot, dif_neg hempty]
      dsimp only
      rw [if_neg hcut, catalogAfter, handleAll_append, catalogAfter, hsettled]
      simp only [rest, ih]
      rfl

end Run

end Repricing
