import Repricing.Proofs.Import.PriceBlindness

/-!
# What becomes of one entry

Whether a row is taken for an entry, and for which one, is the same at all prices.  The price of an
entry and the changes that a report lists for it are therefore made by the rows that are taken for
this entry alone; all other rows can be passed over.
-/

namespace Repricing

/-- The entry that the row was taken for. -/
def Outcome.takenFor? : Outcome → Option CatalogId
  | .decided ⟨_, _, .autoApplied entry _ _ _ _ _⟩ => some entry.id
  | _ => none

namespace Outcome

@[simp] theorem takenFor?_unpriced (outcome : Outcome) :
    outcome.unpriced.takenFor? = outcome.takenFor? := by
  rcases outcome with ⟨row, item, decision⟩ | error
  · cases decision <;> rfl
  · rfl

/-- A price change is about the entry that the row was taken for. -/
theorem takenFor?_of_priceChange?
    {outcome : Outcome} {change : PriceChange} (hchange : outcome.priceChange? = some change) :
    outcome.takenFor? = some change.entry := by
  rcases outcome with ⟨row, item, decision⟩ | error
  · rcases decision with ⟨entry, old, new, confidence, changed, applied⟩ | _ | _
    · cases changed with
      | false => cases hchange
      | true =>
          obtain rfl := Option.some.inj hchange
          rfl
    · cases hchange
    · cases hchange
  · cases hchange

end Outcome

/-- What an offer does to the price of its entry depends on this price alone. -/
theorem Catalog.applyPrice_congr
    {c d after after' : Catalog} {id : CatalogId} {new : Money} {epsilon : Float} {commit : Bool}
    {update update' : PriceUpdate}
    (hoffer : c.applyPrice id new epsilon commit = .ok (update, after))
    (hoffer' : d.applyPrice id new epsilon commit = .ok (update', after'))
    (hprice : c.currentPrice id = d.currentPrice id) :
    update = update' ∧ after.currentPrice id = after'.currentPrice id := by
  have hold : update.old = update'.old := by
    rw [currentPrice_of_applyPrice hoffer, currentPrice_of_applyPrice hoffer'] at hprice
    exact Except.ok.inj hprice
  have hupdate : update = update' := by
    obtain ⟨_, _, -, -, -, rfl, -⟩ := applyPrice_eq_ok_iff.mp hoffer
    obtain ⟨_, _, -, -, -, rfl, -⟩ := applyPrice_eq_ok_iff.mp hoffer'
    exact congrArg (PriceUpdate.ofOffer · new epsilon commit) hold
  refine ⟨hupdate, ?_⟩
  rw [currentPrice_after_applyPrice hoffer, currentPrice_after_applyPrice hoffer', hupdate]

namespace Run

variable {run : Run} {c d start : Catalog} {raw : RawRow} {id : CatalogId}

/-! ## One row -/

/-- Neither prices nor the question whether they are written have a say in which entry a row is
taken for. -/
theorem takenFor?_handle_of_agrees
    (run other : Run) (hindex : ∀ catalog, run.indexAt catalog = other.indexAt catalog)
    (hpolicy : run.policy.AgreesWith other.policy) (halike : c.Alike d) (raw : RawRow) :
    (run.handle c raw).1.takenFor? = (other.handle d raw).1.takenFor? := by
  rw [← Outcome.takenFor?_unpriced, run.handle_unpriced other hindex hpolicy halike raw,
    Outcome.takenFor?_unpriced]

theorem takenFor?_handle_congr (run : Run) (halike : c.Alike d) (raw : RawRow) :
    (run.handle c raw).1.takenFor? = (run.handle d raw).1.takenFor? :=
  run.takenFor?_handle_of_agrees run (fun _ => rfl) ⟨rfl, rfl, rfl⟩ halike raw

/-- A row that is taken for an entry offers its price for this entry. -/
theorem exists_offer_of_takenFor
    (htaken : (run.handle c raw).1.takenFor? = some id) :
    ∃ keyed update,
      KeyedItem.ofRow raw run.policy.options.defaultCurrency = .ok keyed ∧
      c.applyPrice id keyed.item.price
        (run.policy.reconcile.epsilonFor keyed.item.price.currency) (!run.policy.isDryRun) =
          .ok (update, (run.handle c raw).2) ∧
      (run.handle c raw).1.priceChange? =
        if update.changed then
          some { row := keyed.item.row, entry := id, old := update.old, new := update.new,
                 applied := update.applied }
        else none := by
  obtain ⟨outcome, after, heq, hhandled⟩ := run.exists_handled c raw
  rw [heq] at htaken ⊢
  cases hhandled with
  | failed => cases htaken
  | rejected => cases htaken
  | pending => cases htaken
  | @autoApplied keyed top update after current hrow _ hoffer hcurrent =>
      have hid : current.id = id := Option.some.inj htaken
      have htop : top.entry.id = id := (Catalog.id_of_get? hcurrent).symm.trans hid
      refine ⟨keyed, update, hrow, htop ▸ hoffer, ?_⟩
      cases hchanged : update.changed with
      | false => rfl
      | true => rw [← hid]; rfl

/-- A row leaves the prices of entries alone that it is not taken for. -/
theorem currentPrice_handle_of_ne
    (hnot : (run.handle c raw).1.takenFor? ≠ some id) :
    (run.handle c raw).2.currentPrice id = c.currentPrice id := by
  obtain ⟨outcome, after, heq, hhandled⟩ := run.exists_handled c raw
  rw [heq] at hnot ⊢
  cases hhandled with
  | failed => rfl
  | rejected => rfl
  | pending => rfl
  | @autoApplied keyed top update after current _ _ hoffer hcurrent =>
      apply Catalog.currentPrice_applyPrice_of_ne hoffer
      rw [← Catalog.id_of_get? hcurrent]
      rintro rfl
      exact hnot rfl

/-- What a row that is taken for an entry does to it depends on the price of this entry alone. -/
theorem handle_congr_of_takenFor
    (halike : c.Alike d) (hprice : c.currentPrice id = d.currentPrice id)
    (htaken : (run.handle c raw).1.takenFor? = some id) :
    (run.handle c raw).1.priceChange? = (run.handle d raw).1.priceChange? ∧
      (run.handle c raw).2.currentPrice id = (run.handle d raw).2.currentPrice id := by
  have htaken' : (run.handle d raw).1.takenFor? = some id :=
    (run.takenFor?_handle_congr halike raw).symm.trans htaken
  obtain ⟨keyed, update, hrow, hoffer, hchange⟩ := exists_offer_of_takenFor htaken
  obtain ⟨keyed', update', hrow', hoffer', hchange'⟩ := exists_offer_of_takenFor htaken'
  obtain rfl : keyed = keyed' := Except.ok.inj (hrow.symm.trans hrow')
  obtain ⟨rfl, hafter⟩ := Catalog.applyPrice_congr hoffer hoffer' hprice
  exact ⟨hchange.trans hchange'.symm, hafter⟩

/-! ## Row after row -/

/-- The rows that are taken for an entry, at whatever prices. -/
def rowsFor (run : Run) (start : Catalog) (id : CatalogId) (rows : List RawRow) : List RawRow :=
  rows.filter fun raw => (run.handle start raw).1.takenFor? = some id

/-- The price changes of an entry among outcomes. -/
def changesOf (id : CatalogId) (outcomes : List Outcome) : List PriceChange :=
  (outcomes.filterMap Outcome.priceChange?).filter (·.entry = id)

theorem changesOf_cons_of_ne
    {outcome : Outcome} (hnot : outcome.takenFor? ≠ some id) (rest : List Outcome) :
    changesOf id (outcome :: rest) = changesOf id rest := by
  cases hchange : outcome.priceChange? with
  | none => rw [changesOf, List.filterMap_cons_none hchange, changesOf]
  | some change =>
      have hentry : change.entry ≠ id := by
        rintro rfl
        exact hnot (Outcome.takenFor?_of_priceChange? hchange)
      rw [changesOf, List.filterMap_cons_some hchange,
        List.filter_cons_of_neg (by simpa using hentry), changesOf]

theorem changesOf_cons_congr
    {outcome other : Outcome} (hchange : outcome.priceChange? = other.priceChange?)
    {rest others : List Outcome} (hrest : changesOf id rest = changesOf id others) :
    changesOf id (outcome :: rest) = changesOf id (other :: others) := by
  unfold changesOf at *
  rw [List.filterMap_cons, List.filterMap_cons, hchange]
  cases other.priceChange? with
  | none => exact hrest
  | some change => rw [List.filter_cons, List.filter_cons, hrest]

/-- The price of an entry, and the changes that are listed for it, are what they are if only the
rows are handled that are taken for this entry. -/
theorem handleAll_rowsFor
    (run : Run) (hc : c.Alike start) (hd : d.Alike start)
    (hprice : c.currentPrice id = d.currentPrice id) (rows : List RawRow) :
    (run.catalogAfter c rows).currentPrice id =
        (run.catalogAfter d (run.rowsFor start id rows)).currentPrice id ∧
      changesOf id (run.handleAll c rows).1 =
        changesOf id (run.handleAll d (run.rowsFor start id rows)).1 := by
  induction rows generalizing c d with
  | nil => exact ⟨hprice, rfl⟩
  | cons raw rest ih =>
      have hc' := (run.alike_handle c raw).trans hc
      have hsame := run.takenFor?_handle_congr hc raw
      rw [catalogAfter, handleAll_cons, ← catalogAfter]
      by_cases htaken : (run.handle start raw).1.takenFor? = some id
      · obtain ⟨hchange, hafter⟩ :=
          handle_congr_of_takenFor (hc.trans hd.symm) hprice (hsame.trans htaken)
        obtain ⟨hfinal, hchanges⟩ := ih hc' ((run.alike_handle d raw).trans hd) hafter
        have hrows : run.rowsFor start id (raw :: rest) = raw :: run.rowsFor start id rest :=
          List.filter_cons_of_pos (by simpa using htaken)
        rw [hrows, catalogAfter, handleAll_cons, ← catalogAfter]
        exact ⟨hfinal, changesOf_cons_congr hchange hchanges⟩
      · have hnot : (run.handle c raw).1.takenFor? ≠ some id := hsame ▸ htaken
        have hrows : run.rowsFor start id (raw :: rest) = run.rowsFor start id rest :=
          List.filter_cons_of_neg (by simpa using htaken)
        rw [hrows, changesOf_cons_of_ne hnot]
        exact ih hc' hd ((currentPrice_handle_of_ne hnot).trans hprice)

/-- Rows lead to the same price of an entry, and to the same changes of it, if the same ones are
taken for it in the same order. -/
theorem handleAll_congr_of_rowsFor
    (run : Run) {rows rows' : List RawRow}
    (hrows : run.rowsFor c id rows = run.rowsFor c id rows') :
    (run.catalogAfter c rows).currentPrice id = (run.catalogAfter c rows').currentPrice id ∧
      changesOf id (run.handleAll c rows).1 = changesOf id (run.handleAll c rows').1 := by
  obtain ⟨hprice, hchanges⟩ :=
    run.handleAll_rowsFor (.refl c) (.refl c) (Eq.refl (c.currentPrice id)) rows
  obtain ⟨hprice', hchanges'⟩ :=
    run.handleAll_rowsFor (.refl c) (.refl c) (Eq.refl (c.currentPrice id)) rows'
  rw [hrows] at hprice hchanges
  exact ⟨hprice.trans hprice'.symm, hchanges.trans hchanges'.symm⟩

end Run

end Repricing
