import Repricing.Proofs.Import.ChunkedRun
import Repricing.Proofs.Reconcile.Branches

/-!
# Decisions about rows

What a run has to say of a row that it takes up is the error of its conversion, or the decision
about its item with the candidates of the moment.
-/

namespace Repricing

namespace Run

variable {run : Run} {c : Catalog} {raw : RawRow}

theorem handle_of_error
    {error : RowError}
    (hrow : KeyedItem.ofRow raw run.policy.options.defaultCurrency = .error error) :
    run.handle c raw = (.failed error, c) := by
  simp only [handle, hrow]

theorem handle_of_decideRanked
    {keyed : KeyedItem} {decision : Decision} {after : Catalog}
    (hrow : KeyedItem.ofRow raw run.policy.options.defaultCurrency = .ok keyed)
    (hdecide : run.policy.reconcile.decideRanked (!run.policy.isDryRun) keyed.item c
      (run.candidatesFor c keyed) = (decision, after)) :
    run.handle c raw = (.decided ⟨keyed.item.row, keyed.item, decision⟩, after) := by
  simp only [handle, hrow, ReconcilePolicy.reconcile]
  rw [candidatesFor] at hdecide
  rw [hdecide]

/-- A row that can be converted is decided about, with the candidates at the current prices. -/
theorem exists_decides
    {keyed : KeyedItem}
    (hrow : KeyedItem.ofRow raw run.policy.options.defaultCurrency = .ok keyed) :
    ∃ decision after,
      run.handle c raw = (.decided ⟨keyed.item.row, keyed.item, decision⟩, after) ∧
      run.policy.reconcile.Decides (!run.policy.isDryRun) keyed.item c
        (run.candidatesFor c keyed) decision after := by
  have hknown : ∀ candidate ∈ run.candidatesFor c keyed,
      c.get? candidate.entry.id = some candidate.entry :=
    fun _ hcandidate => get?_of_mem_candidatesFor hcandidate
  obtain ⟨decision, after, heq, hdecides⟩ :=
    ReconcilePolicy.decides_decideRanked run.policy.reconcile (!run.policy.isDryRun) keyed.item
      hknown
  exact ⟨decision, after, handle_of_decideRanked hrow heq, hdecides⟩

/-- A row that is taken for an entry is taken for the first of its candidates, at the current price
of the entry, and the candidate in second place is not too close. -/
theorem exists_top_of_autoApplied
    {row : UInt64} {item : Item} {entry : CatalogEntry} {old new : Money} {confidence : Float}
    {changed applied : Bool}
    (houtcome : (run.handle c raw).1 =
      .decided ⟨row, item, .autoApplied entry old new confidence changed applied⟩) :
    ∃ keyed top others,
      KeyedItem.ofRow raw run.policy.options.defaultCurrency = .ok keyed ∧ keyed.item = item ∧
      run.candidatesFor c keyed = top :: others ∧
      run.policy.reconcile.isAmbiguous top.confidence others.head? = false ∧
      c.get? top.entry.id = some top.entry ∧ top.confidence = confidence ∧
      top.entry.id = entry.id ∧ top.entry.price = old ∧ item.price = new := by
  cases hrow : KeyedItem.ofRow raw run.policy.options.defaultCurrency with
  | error error =>
      rw [handle_of_error hrow] at houtcome
      cases houtcome
  | ok keyed =>
      obtain ⟨decision, after, hdecide, hconcludes⟩ :=
        run.policy.reconcile.concludes_decideRanked (!run.policy.isDryRun) keyed.item c
          (run.candidatesFor c keyed)
      rw [handle_of_decideRanked hrow hdecide] at houtcome
      cases houtcome
      generalize hcandidates : run.candidatesFor c keyed = ranked at hconcludes
      cases hconcludes with
      | @autoApplied top others _ _ _ _ hclears hget _ hoffer hold hcurrent =>
          have hknown : c.get? top.entry.id = some top.entry :=
            get?_of_mem_candidatesFor (hcandidates ▸ List.mem_cons_self)
          obtain rfl := Option.some.inj (hknown.symm.trans hget)
          exact ⟨keyed, top, others, rfl, rfl, hcandidates, hclears.unambiguous, hknown, rfl,
            (Catalog.id_of_get? hcurrent).symm, hold.symm,
            (Catalog.new_of_applyPrice hoffer).symm⟩

end Run

namespace CandidateIndex

variable {index : CandidateIndex} {policy : ImportPolicy} {cores : UInt64}
  {cancellation : Cancellation} {rows : List RawRow} {i : Nat} {raw : RawRow}

/-- The outcome of a row that is taken up is what comes of it at the prices that the rows before it
have left. -/
theorem getElem?_outcomes_progress
    (index : CandidateIndex)
    (htaken : (dispatched policy cores cancellation rows)[i]? = some raw) :
    (index.progress policy cores cancellation rows).outcomes[i]? =
      some (Run.handle ⟨index, policy⟩ (Run.catalogAfter ⟨index, policy⟩ index.catalog
        ((dispatched policy cores cancellation rows).take i)) raw).1 := by
  rw [outcomes_progress, Run.getElem?_handleAll, htaken]
  rfl

theorem dispatched_sublist (policy : ImportPolicy) (cores : UInt64) (cancellation : Cancellation)
    (rows : List RawRow) :
    (dispatched policy cores cancellation rows).Sublist rows :=
  cancellation.dispatch_sublist _ 0 rows

/-- A run that is not cancelled takes up all rows, unless its chunks have no rows. -/
theorem dispatched_of_never
    (hsize : chunkSize (policy.workerCount cores) ≠ 0) (hnever : cancellation = .never) :
    dispatched policy cores cancellation rows = rows := by
  have hpos : 0 < (chunkSize (policy.workerCount cores)).toNat :=
    Nat.pos_of_ne_zero fun hzero => hsize (UInt64.toNat_inj.mp hzero)
  rw [hnever, dispatched, Cancellation.dispatch_never hpos]

end CandidateIndex

end Repricing
