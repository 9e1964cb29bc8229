import Mathlib.Data.List.FinRange
import Repricing.Proofs.Import.Accounting
import Repricing.Proofs.Import.EntryHistory
import Repricing.Proofs.Import.RowIndependence

/-!
# Rows in another order

Rows that are taken for different entries do not get into each other's way.  So rows can be imported
in any order in which those that are taken for the same entry follow each other as before.  Among
these the order counts, because a price within the tolerance of the one before it is not written.
-/

namespace Repricing

/-! ## Lists in another order -/

section Lists

variable {α κ : Type} {xs ys : List α} {p : α → Bool}

/-- The list in which the element at `i` has moved to `σ i`. -/
def rearrange (xs : List α) (σ : Equiv.Perm (Fin xs.length)) : List α :=
  List.ofFn (xs.get ∘ σ.symm)

theorem rearrange_perm (xs : List α) (σ : Equiv.Perm (Fin xs.length)) :
    (rearrange xs σ).Perm xs := by
  have hperm := Equiv.Perm.ofFn_comp_perm σ.symm xs.get
  rwa [List.ofFn_get] at hperm

/-- The places of some elements, in their order, move to the new places of these elements, in
their order. -/
theorem map_filter_finRange
    {n : Nat} {q : Fin n → Bool} {σ : Equiv.Perm (Fin n)}
    (horder : ∀ i j, i < j → q i = true → q j = true → σ i < σ j) :
    ((List.finRange n).filter q).map σ = (List.finRange n).filter (q ∘ σ.symm) := by
  have hsorted : (((List.finRange n).filter q).map σ).Pairwise (· < ·) := by
    rw [List.pairwise_map, List.pairwise_filter]
    exact (List.pairwise_lt_finRange n).imp fun hlt hi hj => horder _ _ hlt hi hj
  have hperm : (((List.finRange n).filter q).map σ).Perm
      ((List.finRange n).filter (q ∘ σ.symm)) := by
    have hmoved : ((List.finRange n).map σ).filter (q ∘ σ.symm) =
        ((List.finRange n).filter q).map σ := by
      simp [List.filter_map, Function.comp_def]
    rw [← hmoved]
    exact (Equiv.Perm.map_finRange_perm σ).filter _
  exact List.Perm.eq_of_pairwise (fun _ _ _ _ hab hba => (lt_asymm hab hba).elim) hsorted
    ((List.pairwise_lt_finRange n).filter _) hperm

/-- Elements that keep their order are found in the same order. -/
theorem filter_rearrange
    {σ : Equiv.Perm (Fin xs.length)}
    (horder : ∀ i j, i < j → p (xs.get i) = true → p (xs.get j) = true → σ i < σ j) :
    (rearrange xs σ).filter p = xs.filter p := by
  have hplaces := map_filter_finRange (q := p ∘ xs.get) horder
  calc (rearrange xs σ).filter p
    _ = ((List.finRange xs.length).filter ((p ∘ xs.get) ∘ σ.symm)).map (xs.get ∘ σ.symm) := by
        rw [rearrange, List.ofFn_eq_map, List.filter_map]
        rfl
    _ = ((List.finRange xs.length).filter (p ∘ xs.get)).map xs.get := by
        rw [← hplaces, List.map_map]
        simp [Function.comp_def]
    _ = xs.filter p := by
        rw [← List.filter_map, List.map_get_finRange]

/-- Lists are the same up to order if this is so for the elements with each key. -/
theorem perm_of_filter_eq
    [DecidableEq α] [DecidableEq κ] (key : α → κ)
    (hkeys : ∀ k, xs.filter (key · = k) = ys.filter (key · = k)) :
    xs.Perm ys := by
  rw [List.perm_iff_count]
  intro x
  have hcount := congrArg (List.count x) (hkeys (key x))
  rwa [List.count_filter (by simp), List.count_filter (by simp)] at hcount

end Lists

/-! ## Reports of rows in another order -/

/-- Elements that were taken for the same entry keep their order. -/
def KeepsOrder (taken : List (Option CatalogId)) {n : Nat} (σ : Equiv.Perm (Fin n)) : Prop :=
  ∀ i j, i < j → ∀ id, taken[i]? = some (some id) → taken[j]? = some (some id) → σ i < σ j

theorem keepsOrder_iff {taken : List (Option CatalogId)} {n : Nat} {σ : Equiv.Perm (Fin n)} :
    KeepsOrder taken σ ↔
      ∀ i j, i < j → taken[i]? = taken[j]? → taken[i]?.join.isSome → σ i < σ j := by
  constructor
  · intro horder i j hlt hsame hsome
    obtain ⟨id, hid⟩ := Option.isSome_iff_exists.mp hsome
    have hi := Option.join_eq_some_iff.mp hid
    exact horder i j hlt id hi (hsame.symm.trans hi)
  · intro horder i j hlt id hi hj
    exact horder i j hlt (hi.trans hj.symm) (by simp [hi])

instance (taken : List (Option CatalogId)) {n : Nat} (σ : Equiv.Perm (Fin n)) :
    Decidable (KeepsOrder taken σ) :=
  decidable_of_iff _ keepsOrder_iff.symm

namespace ImportReport

/-- The reports agree in all counters. -/
structure SameCounters (report other : ImportReport) : Prop where
  total : report.total = other.total
  autoApplied : report.autoApplied = other.autoApplied
  unchanged : report.unchanged = other.unchanged
  pending : report.pending = other.pending
  rejected : report.rejected = other.rejected
  errors : report.errors = other.errors

/-- The counters neither depend on the order of the outcomes nor on prices, apart from the number of
prices that changed. -/
theorem sameCounters_of_perm
    {outcomes others : List Outcome}
    (hunpriced : (outcomes.map Outcome.unpriced).Perm (others.map Outcome.unpriced))
    (hchanges : (outcomes.filterMap Outcome.priceChange?).length =
      (others.filterMap Outcome.priceChange?).length)
    (dryRun cancelled : Bool) :
    (tally dryRun cancelled outcomes).SameCounters (tally dryRun cancelled others) := by
  have hkinds : ∀ kind,
      outcomes.countP (·.hasKind kind) = others.countP (·.hasKind kind) := by
    intro kind
    rw [← Outcome.countP_map_unpriced, hunpriced.countP_eq, Outcome.countP_map_unpriced]
  have herrors : (outcomes.filterMap Outcome.rowError?).length =
      (others.filterMap Outcome.rowError?).length := by
    rw [← Outcome.filterMap_rowError?_map_unpriced,
      (hunpriced.filterMap Outcome.rowError?).length_eq, Outcome.filterMap_rowError?_map_unpriced]
  have hlength : outcomes.length = others.length := by
    simpa using hunpriced.length_eq
  have hunchanged : outcomes.countP (·.isUnchanged) = others.countP (·.isUnchanged) := by
    have htaken := hkinds .autoApplied
    rw [Outcome.countP_autoApplied, Outcome.countP_autoApplied, hchanges] at htaken
    exact Nat.add_left_cancel htaken
  rw [tally_eq_ofOutcomes, tally_eq_ofOutcomes]
  exact ⟨hlength, hkinds .autoApplied, hunchanged, hkinds .pendingReview, hkinds .rejected, herrors⟩

end ImportReport

namespace Run

variable {run : Run} {c : Catalog} {rows : List RawRow}

/-- The entries that rows are taken for are those that each row is taken for on its own. -/
theorem map_takenFor?_handleAll (run : Run) (c : Catalog) (rows : List RawRow) :
    (run.handleAll c rows).1.map Outcome.takenFor? =
      rows.map fun raw => (run.handle c raw).1.takenFor? := by
  have hunpriced := congrArg (List.map Outcome.takenFor?)
    (run.map_unpriced_handleAll (.refl c) rows)
  simpa only [List.map_map, Function.comp_def, Outcome.takenFor?_unpriced] using hunpriced

/-- The rows that are taken for an entry are the same ones in the same order. -/
theorem rowsFor_rearrange
    {σ : Equiv.Perm (Fin rows.length)}
    (horder : KeepsOrder ((run.handleAll c rows).1.map Outcome.takenFor?) σ) (id : CatalogId) :
    run.rowsFor c id (rearrange rows σ) = run.rowsFor c id rows := by
  rw [map_takenFor?_handleAll] at horder
  apply filter_rearrange
  intro i j hlt hi hj
  apply horder i j hlt id
  · simpa using hi
  · simpa using hj

/-- Rows in another order lead to the same prices, to the same changes of prices, and to the same
outcomes up to prices, as long as those that are taken for the same entry keep their order. -/
theorem handleAll_rearrange
    {σ : Equiv.Perm (Fin rows.length)}
    (horder : KeepsOrder ((run.handleAll c rows).1.map Outcome.takenFor?) σ) :
    run.catalogAfter c rows = run.catalogAfter c (rearrange rows σ) ∧
      ((run.handleAll c rows).1.filterMap Outcome.priceChange?).Perm
        ((run.handleAll c (rearrange rows σ)).1.filterMap Outcome.priceChange?) ∧
      ((run.handleAll c rows).1.map Outcome.unpriced).Perm
        ((run.handleAll c (rearrange rows σ)).1.map Outcome.unpriced) := by
  have hentry := fun id => run.handleAll_congr_of_rowsFor (rowsFor_rearrange horder id).symm
  refine ⟨?_, ?_, ?_⟩
  · have halike := (run.alike_catalogAfter c rows).trans
      (run.alike_catalogAfter c (rearrange rows σ)).symm
    exact Catalog.eq_of_currentPrice halike.entries_eq fun id => (hentry id).1
  · exact perm_of_filter_eq PriceChange.entry fun id => (hentry id).2
  · rw [map_unpriced_handleAll run (.refl c), map_unpriced_handleAll run (.refl c)]
    exact ((rearrange_perm rows σ).map _).symm

end Run

namespace CandidateIndex

variable {index : CandidateIndex} {policy : ImportPolicy} {cores : UInt64}

/-- Rows can be imported in another order, as long as those that are taken for the same entry keep
theirs: the prices at the end, the counters of the report, and the prices that it lists as changed
stay the same. -/
theorem importBatch_rearrange
    (hindex : index.Reachable) (haccepted : policy.Accepted cores) (rows : List RawRow)
    (σ : Equiv.Perm (Fin rows.length))
    (horder : KeepsOrder
      ((index.progress policy cores .never rows).outcomes.map Outcome.takenFor?) σ) :
    ∃ report report' after,
      index.importBatch policy cores .never rows = .ok (report, after) ∧
      index.importBatch policy cores .never (rearrange rows σ) = .ok (report', after) ∧
      report.SameCounters report' ∧
      report.priceChanges.toList.Perm report'.priceChanges.toList := by
  have hfirst := importBatch_never hindex haccepted rows
  have hsecond := importBatch_never hindex haccepted (rearrange rows σ)
  rw [progress_never index haccepted] at horder
  obtain ⟨hcatalog, hchanges, hunpriced⟩ := Run.handleAll_rearrange horder
  rw [hcatalog] at hfirst
  refine ⟨_, _, _, hfirst, hsecond,
    ImportReport.sameCounters_of_perm hunpriced hchanges.length_eq _ _, ?_⟩
  rw [ImportReport.tally_eq_ofOutcomes, ImportReport.tally_eq_ofOutcomes]
  exact hchanges

/-- The row without a key can move to the front, since the other two keep their order. -/
theorem importBatch_rearrange_sample :
    ∃ index report report' after,
      build sampleEntries 20 = .ok index ∧
      index.importBatch {} 4 .never interruptedRows = .ok (report, after) ∧
      index.importBatch {} 4 .never
        [RawRow.blank 2, sampleRow 1 "850" none, sampleRow 3 "900" none] = .ok (report', after) ∧
      report.SameCounters report' ∧
      report.priceChanges.toList.Perm report'.priceChanges.toList := by
  obtain ⟨index, hbuild⟩ := exists_build_sampleEntries
  have htaken : ((build sampleEntries 20).map fun index =>
      (index.progress {} 4 .never interruptedRows).outcomes.map Outcome.takenFor?) =
        .ok [some ⟨42⟩, none, some ⟨42⟩] := by decide +kernel
  rw [hbuild] at htaken
  have hplaces : (index.progress {} 4 .never interruptedRows).outcomes.map Outcome.takenFor? =
      [some ⟨42⟩, none, some ⟨42⟩] := Except.ok.inj htaken
  let moved : Equiv.Perm (Fin 3) := Equiv.swap 0 1
  have horder : KeepsOrder [some ⟨42⟩, none, some ⟨42⟩] moved := by decide
  rw [← hplaces] at horder
  have haccepted : ({} : ImportPolicy).Accepted 4 := ⟨rfl, by decide, by decide⟩
  obtain ⟨report, report', after, hrun, hrun', hcounters, hchanges⟩ :=
    importBatch_rearrange (.built hbuild) haccepted interruptedRows moved horder
  exact ⟨index, report, report', after, hbuild, hrun, hrun', hcounters, hchanges⟩

end CandidateIndex

end Repricing
