import Repricing.Proofs.Import.Accepted
import Repricing.Proofs.Import.Tally

/-!
# The price changes of a report as an audit log

Carrying out the price changes of a report, one after the other, takes the snapshot before the run
to the snapshot after it.  Each change states the price that it replaces.  In a dry run the changes
are those that would have been made to the prices as they are.
-/

namespace Repricing

/-! ## Logs of price changes -/

/-- Carries out a price change, if it was applied. -/
def PriceChange.replay (snapshot : List CatalogEntry) (change : PriceChange) :
    List CatalogEntry :=
  if change.applied then setPriceIn snapshot change.entry change.new else snapshot

/-- Carries out price changes one after the other. -/
def replayAll (snapshot : List CatalogEntry) (changes : List PriceChange) : List CatalogEntry :=
  changes.foldl PriceChange.replay snapshot

/-- Whether price changes follow from a snapshot: each of them states the price that it finds, and
all are applied or none is. -/
def IsLog (applied : Bool) : List CatalogEntry → List PriceChange → Prop
  | _, [] => True
  | snapshot, change :: rest =>
    priceIn snapshot change.entry = some change.old ∧ change.applied = applied ∧
      IsLog applied (change.replay snapshot) rest

variable {applied : Bool} {snapshot : List CatalogEntry} {changes : List PriceChange}

theorem isLog_append {more : List PriceChange} :
    IsLog applied snapshot (changes ++ more) ↔
      IsLog applied snapshot changes ∧ IsLog applied (replayAll snapshot changes) more := by
  induction changes generalizing snapshot with
  | nil => simp [IsLog, replayAll]
  | cons change rest ih =>
      rw [List.cons_append, IsLog, IsLog, ih, replayAll, replayAll, List.foldl_cons]
      tauto

theorem IsLog.applied_eq (hlog : IsLog applied snapshot changes) :
    ∀ change ∈ changes, change.applied = applied := by
  intro change hchange
  obtain ⟨earlier, later, rfl⟩ := List.append_of_mem hchange
  exact (isLog_append.mp hlog).2.2.1

/-- A change states the price that the changes before it have led to. -/
theorem IsLog.priceIn_replayAll
    {earlier later : List PriceChange} {change : PriceChange}
    (hlog : IsLog applied snapshot (earlier ++ change :: later)) :
    priceIn (replayAll snapshot earlier) change.entry = some change.old :=
  (isLog_append.mp hlog).2.1

theorem priceIn_replay_of_ne
    {change : PriceChange} {id : CatalogId} (hne : change.entry ≠ id) :
    priceIn (change.replay snapshot) id = priceIn snapshot id := by
  unfold PriceChange.replay
  split
  · exact priceIn_setPriceIn_of_ne hne.symm
  · rfl

/-- Entries that no change names keep their price. -/
theorem priceIn_replayAll_of_ne
    {id : CatalogId} (hne : ∀ change ∈ changes, change.entry ≠ id) :
    priceIn (replayAll snapshot changes) id = priceIn snapshot id := by
  induction changes generalizing snapshot with
  | nil => rfl
  | cons change rest ih =>
      rw [replayAll, List.foldl_cons, ← replayAll, ih (List.forall_mem_cons.mp hne).2]
      exact priceIn_replay_of_ne (List.forall_mem_cons.mp hne).1

/-- If no change was applied, none has to be carried out. -/
theorem replayAll_of_not_applied (hnone : ∀ change ∈ changes, change.applied = false) :
    replayAll snapshot changes = snapshot := by
  induction changes with
  | nil => rfl
  | cons change rest ih =>
      have hchange := (List.forall_mem_cons.mp hnone).1
      rw [replayAll, List.foldl_cons, PriceChange.replay, if_neg (by simp [hchange]), ← replayAll]
      exact ih (List.forall_mem_cons.mp hnone).2

/-- The applied changes of one entry hand the price on from one to the next, beginning with the one
in the snapshot. -/
theorem IsLog.isChain_of_entry
    (hlog : IsLog applied snapshot changes) (id : CatalogId) :
    let ofEntry := changes.filter fun change => change.applied && change.entry = id
    ofEntry.IsChain (fun change next => change.new = next.old) ∧
      ∀ first ∈ ofEntry.head?, priceIn snapshot id = some first.old := by
  induction changes generalizing snapshot with
  | nil => simp
  | cons change rest ih =>
      obtain ⟨hold, -, hrest⟩ := hlog
      obtain ⟨hchain, hfirst⟩ := ih hrest
      by_cases hkept : change.applied = true ∧ change.entry = id
      · obtain ⟨happlied, rfl⟩ := hkept
        rw [List.filter_cons_of_pos (by simp [happlied])]
        refine ⟨List.isChain_cons.mpr ⟨?_, hchain⟩, ?_⟩
        · intro next hnext
          have hwritten : priceIn (change.replay snapshot) change.entry = some change.new := by
            rw [PriceChange.replay, if_pos happlied, priceIn_setPriceIn_self hold]
          rw [hfirst next hnext] at hwritten
          exact (Option.some.inj hwritten).symm
        · intro first hhead
          obtain rfl := Option.some.inj hhead
          exact hold
      · rw [List.filter_cons_of_neg (by simpa using hkept)]
        refine ⟨hchain, ?_⟩
        intro first hhead
        rw [← hfirst first hhead]
        by_cases happlied : change.applied = true
        · exact (priceIn_replay_of_ne fun hid => hkept ⟨happlied, hid⟩).symm
        · rw [PriceChange.replay, if_neg happlied]

/-! ## The log of a run -/

/-- An offer that would not change the price leaves the catalog alone.  Any other one does what the
price change that it gives rise to says. -/
theorem Catalog.snapshot_of_applyPrice
    {c after : Catalog} {id : CatalogId} {new : Money} {epsilon : Float} {commit : Bool}
    {update : PriceUpdate} (hoffer : c.applyPrice id new epsilon commit = .ok (update, after)) :
    (update.changed = false → after = c) ∧
      (update.changed = true → ∀ row,
        let change : PriceChange :=
          { row, entry := id, old := update.old, new := update.new, applied := update.applied }
        priceIn c.snapshot id = some update.old ∧ update.applied = commit ∧
          after.snapshot = change.replay c.snapshot) := by
  have happlied := applied_of_applyPrice hoffer
  refine ⟨?_, ?_⟩
  · intro hchanged
    apply eq_of_applyPrice_of_not_applied hoffer
    rw [happlied, hchanged, Bool.false_and]
  · intro hchanged row
    obtain ⟨slot, old, hslot, hold, -, rfl, rfl⟩ := applyPrice_eq_ok_iff.mp hoffer
    refine ⟨priceIn_snapshot_of_slot hslot hold, ?_, ?_⟩
    · rw [happlied, hchanged, Bool.true_and]
    · rw [PriceChange.replay]
      split
      · exact snapshot_setPrice hslot new
      · rfl

namespace Run

variable {run : Run}

/-- A row either leaves the catalog alone or does what its price change says. -/
theorem handle_priceChange (run : Run) (c : Catalog) (raw : RawRow) :
    match (run.handle c raw).1.priceChange? with
    | none => (run.handle c raw).2 = c
    | some change =>
      priceIn c.snapshot change.entry = some change.old ∧
        change.applied = !run.policy.isDryRun ∧
        (run.handle c raw).2.snapshot = change.replay c.snapshot := by
  obtain ⟨outcome, after, heq, hhandled⟩ := run.exists_handled c raw
  rw [heq]
  cases hhandled with
  | failed => rfl
  | rejected => rfl
  | pending => rfl
  | @autoApplied keyed top update after current _ _ hoffer hcurrent =>
      obtain ⟨hkept, hwritten⟩ := Catalog.snapshot_of_applyPrice hoffer
      cases hchanged : update.changed with
      | false => exact hkept hchanged
      | true =>
          have hentry := hwritten hchanged keyed.item.row
          rwa [← Catalog.id_of_get? hcurrent] at hentry

/-- The price changes of handled rows are a log from the snapshot before to the one after. -/
theorem isLog_handleAll (run : Run) (c : Catalog) (rows : List RawRow) :
    let changes := (run.handleAll c rows).1.filterMap Outcome.priceChange?
    IsLog (!run.policy.isDryRun) c.snapshot changes ∧
      replayAll c.snapshot changes = (run.catalogAfter c rows).snapshot := by
  induction rows generalizing c with
  | nil => exact ⟨trivial, rfl⟩
  | cons raw rest ih =>
      have hrow := run.handle_priceChange c raw
      have hrest := ih (run.handle c raw).2
      rw [catalogAfter, handleAll_cons, ← catalogAfter]
      cases hchange : (run.handle c raw).1.priceChange? with
      | none =>
          rw [hchange] at hrow
          rw [List.filterMap_cons_none hchange, hrow]
          rwa [hrow] at hrest
      | some change =>
          rw [hchange] at hrow
          obtain ⟨hold, happlied, hafter⟩ := hrow
          rw [List.filterMap_cons_some hchange]
          rw [hafter] at hrest
          exact ⟨⟨hold, happlied, hrest.1⟩, hrest.2⟩

/-! ## Dry runs -/

theorem handle_of_isDryRun (hdry : run.policy.isDryRun = true) (c : Catalog) (raw : RawRow) :
    (run.handle c raw).2 = c := by
  obtain ⟨outcome, after, heq, hhandled⟩ := run.exists_handled c raw
  apply handle_of_not_wrote
  rw [heq]
  cases hhandled with
  | failed => rfl
  | rejected => rfl
  | pending => rfl
  | @autoApplied keyed top update after current _ _ hoffer _ =>
      change update.applied = false
      rw [Catalog.applied_of_applyPrice hoffer, hdry, Bool.not_true, Bool.and_false]

/-- A dry run writes nothing. -/
theorem catalogAfter_of_isDryRun
    (hdry : run.policy.isDryRun = true) (c : Catalog) (rows : List RawRow) :
    run.catalogAfter c rows = c := by
  induction rows generalizing c with
  | nil => rfl
  | cons raw rest ih =>
      rw [catalogAfter, handleAll_cons, ← catalogAfter, handle_of_isDryRun hdry, ih]

end Run

namespace CandidateIndex

variable {index : CandidateIndex} {policy : ImportPolicy}

/-- The price changes of a report are an audit log of the run, however it is cancelled.  Carried out
one after the other, they lead from the snapshot before the run to the one after it, and each states
the price that it finds.  In a dry run none is applied. -/
theorem importBatch_auditLog
    (hindex : index.Reachable) (hvalid : policy.validate = .ok ()) (cores : UInt64)
    (cancellation : Cancellation) (rows : List RawRow) :
    ∃ report after,
      index.importBatch policy cores cancellation rows = .ok (report, after) ∧
        let before := index.catalog.snapshot
        let changes := report.priceChanges.toList
        replayAll before changes = after.catalog.snapshot ∧
        (∀ earlier change later, changes = earlier ++ change :: later →
          priceIn (replayAll before earlier) change.entry = some change.old) ∧
        (∀ id, (changes.filter fun change => change.applied && change.entry = id).IsChain
          fun change next => change.new = next.old) ∧
        (∀ id, (∀ change ∈ changes, change.entry ≠ id) →
          priceIn after.catalog.snapshot id = priceIn before id) ∧
        (policy.isDryRun = false → ∀ change ∈ changes, change.applied = true) ∧
        (policy.isDryRun = true →
          after = index ∧
          ∀ change ∈ changes,
            change.applied = false ∧ priceIn before change.entry = some change.old) := by
  obtain ⟨hlog, hreplay⟩ :=
    Run.isLog_handleAll ⟨index, policy⟩ index.catalog (dispatched policy cores cancellation rows)
  refine ⟨_, _, importBatch_of_valid hindex.isEmpty_eq_false hvalid, ?_⟩
  rw [ImportReport.tally_eq_ofOutcomes, outcomes_progress, catalog_progress]
  dsimp only [ImportReport.ofOutcomes] at hlog hreplay ⊢
  generalize (Run.handleAll ⟨index, policy⟩ index.catalog
    (dispatched policy cores cancellation rows)).1.filterMap Outcome.priceChange? = changes at *
  refine ⟨hreplay, ?_, ?_, ?_, ?_, ?_⟩
  · rintro earlier change later rfl
    exact hlog.priceIn_replayAll
  · intro id
    exact (hlog.isChain_of_entry id).1
  · intro id hid
    rw [← hreplay, priceIn_replayAll_of_ne hid]
  · intro hcommit change hchange
    rw [hlog.applied_eq change hchange, hcommit, Bool.not_false]
  · intro hdry
    have hnone : ∀ change ∈ changes, change.applied = false := by
      intro change hchange
      rw [hlog.applied_eq change hchange, hdry, Bool.not_true]
    refine ⟨?_, ?_⟩
    · rw [Run.catalogAfter_of_isDryRun hdry]
    · intro change hchange
      obtain ⟨earlier, later, rfl⟩ := List.append_of_mem hchange
      have hold := hlog.priceIn_replayAll
      rw [replayAll_of_not_applied fun x hx => hnone x (List.mem_append_left _ hx)] at hold
      exact ⟨hnone change hchange, hold⟩

/-- The price changes that the sample rows make. -/
def sampleChanges : List PriceChange :=
  [{ row := 1, entry := ⟨42⟩, old := ⟨750.0, .rub⟩, new := ⟨850.0, .rub⟩, applied := true },
   { row := 2, entry := ⟨42⟩, old := ⟨850.0, .rub⟩, new := ⟨900.0, .rub⟩, applied := true }]

/-- Two rows for one entry: the second change begins with the price of the first. -/
theorem importBatch_auditLog_sample :
    ∃ index report after,
      build sampleEntries 20 = .ok index ∧
      index.importBatch {} 4 .never sampleRows = .ok (report, after) ∧
      report.priceChanges.toList = sampleChanges ∧
      replayAll index.catalog.snapshot sampleChanges = after.catalog.snapshot := by
  obtain ⟨index, hbuild⟩ := exists_build_sampleEntries
  obtain ⟨report, after, hrun, hreplay, -⟩ :=
    importBatch_auditLog (.built hbuild) (rfl : ({} : ImportPolicy).validate = .ok ()) 4 .never
      sampleRows
  have hchanges : ((build sampleEntries 20).bind fun index =>
      (index.importBatch {} 4 .never sampleRows).map (·.1.priceChanges.toList)) =
        .ok sampleChanges := by decide +kernel
  rw [hbuild, Except.bind, hrun] at hchanges
  have hlist : report.priceChanges.toList = sampleChanges := Except.ok.inj hchanges
  rw [hlist] at hreplay
  exact ⟨index, report, after, hbuild, hrun, hlist, hreplay⟩

end CandidateIndex

end Repricing
