import Repricing.Proofs.Catalog.Snapshot

/-!
# Catalogs with the same snapshot

A snapshot tells all that a catalog answers: which entries there are, at which slots, and at which
prices.  What an entry cost before is not in it, and no later answer depends on that.  So a catalog
that is built from the snapshot of another one stands in for it.
-/

namespace Repricing

namespace Catalog

variable {c d : Catalog} {id : CatalogId} {slot : Nat}

/-! ## Answers that are in the snapshot -/

theorem priceAt?_eq_map (c : Catalog) (slot : Nat) :
    c.priceAt? slot = (c.currentEntryAt? slot).map (·.price) := by
  rw [currentEntryAt?, entryAt?]
  cases hentry : c.entries[slot]? with
  | none =>
      have hnone : ¬ (c.priceAt? slot).isSome := by
        rw [priceAt?_isSome_iff]
        exact Nat.not_lt_of_le (Array.getElem?_eq_none_iff.mp hentry)
      simpa using hnone
  | some entry =>
      obtain ⟨price, hprice⟩ := exists_priceAt? hentry
      rw [hprice]
      rfl

theorem id_entryAt?_eq (c : Catalog) (slot : Nat) :
    (c.entryAt? slot).map (·.id) = (c.currentEntryAt? slot).map (·.id) := by
  rw [currentEntryAt?, entryAt?]
  cases hentry : c.entries[slot]? with
  | none => rfl
  | some entry =>
      obtain ⟨price, hprice⟩ := exists_priceAt? hentry
      rw [hprice]
      rfl

theorem slotOf_eq_some_iff_id :
    c.slotOf id = some slot ↔ (c.currentEntryAt? slot).map (·.id) = some id := by
  rw [slotOf_eq_some_iff, ← id_entryAt?_eq, Option.map_eq_some_iff, entryAt?]

/-- What does not look at prices is the same for an entry and in the snapshot. -/
theorem map_snapshot
    {α : Type} (f : CatalogEntry → α)
    (hprice : ∀ (entry : CatalogEntry) (price : Money), f (entry.withPrice price) = f entry)
    (c : Catalog) :
    c.snapshot.map f = c.entries.toList.map f := by
  apply List.ext_getElem?
  intro i
  rw [List.getElem?_map, List.getElem?_map, getElem?_snapshot, Array.getElem?_toList]
  cases hentry : c.entries[i]? with
  | none => simp [currentEntryAt?, entryAt?, hentry]
  | some entry =>
      obtain ⟨price, hcurrent⟩ := exists_priceAt? hentry
      rw [(shows_of_entry hentry hcurrent).currentEntryAt?_eq]
      exact congrArg some (hprice entry price)

theorem length_snapshot (c : Catalog) : c.snapshot.length = c.size := by
  have hids := congrArg List.length (map_snapshot (·.id) CatalogEntry.id_withPrice c)
  rwa [List.length_map, List.length_map] at hids

/-- A result, with the snapshot in place of the catalog that it leads to. -/
def observed {α : Type} (result : α × Catalog) : α × List CatalogEntry :=
  (result.1, result.2.snapshot)

section SameSnapshot

variable (hsame : c.snapshot = d.snapshot)

include hsame

theorem currentEntryAt?_congr (slot : Nat) : c.currentEntryAt? slot = d.currentEntryAt? slot := by
  rw [← getElem?_snapshot, hsame, getElem?_snapshot]

theorem priceAt?_congr (slot : Nat) : c.priceAt? slot = d.priceAt? slot := by
  rw [priceAt?_eq_map, currentEntryAt?_congr hsame, priceAt?_eq_map]

theorem id_entryAt?_congr (slot : Nat) :
    (c.entryAt? slot).map (·.id) = (d.entryAt? slot).map (·.id) := by
  rw [id_entryAt?_eq, currentEntryAt?_congr hsame, id_entryAt?_eq]

theorem slotOf_congr_snapshot (id : CatalogId) : c.slotOf id = d.slotOf id := by
  apply Option.ext
  intro slot
  rw [slotOf_eq_some_iff_id, currentEntryAt?_congr hsame, slotOf_eq_some_iff_id]

theorem get?_congr (id : CatalogId) : c.get? id = d.get? id := by
  rw [get?, get?, slotOf_congr_snapshot hsame]
  congr 1
  funext slot
  exact currentEntryAt?_congr hsame slot

theorem currentPrice_congr (id : CatalogId) : c.currentPrice id = d.currentPrice id := by
  have hprice : c.priceAt? = d.priceAt? := funext (priceAt?_congr hsame)
  rw [currentPrice, currentPrice, slotOf_congr_snapshot hsame, hprice]

theorem size_congr : c.size = d.size := by
  rw [← length_snapshot, hsame, length_snapshot]

theorem isEmpty_congr_snapshot : c.isEmpty = d.isEmpty := by
  have hsize : c.entries.size = d.entries.size := size_congr hsame
  rw [isEmpty, isEmpty, Array.isEmpty, Array.isEmpty, hsize]

/-- An offer is refused for the same reason, or has the same answer and leads to the same
snapshot. -/
theorem applyPrice_congr_snapshot
    (id : CatalogId) (new : Money) (epsilon : Float) (commit : Bool) :
    (∃ e, c.applyPrice id new epsilon commit = .error e ∧
      d.applyPrice id new epsilon commit = .error e) ∨
    ∃ update after after', c.applyPrice id new epsilon commit = .ok (update, after) ∧
      d.applyPrice id new epsilon commit = .ok (update, after') ∧
      after.snapshot = after'.snapshot := by
  have hslots := slotOf_congr_snapshot hsame id
  cases hslot : d.slotOf id with
  | none =>
      exact .inl ⟨_, applyPrice_of_slotOf_eq_none (hslots.trans hslot),
        applyPrice_of_slotOf_eq_none hslot⟩
  | some slot =>
      obtain ⟨entry, hentry, -⟩ := slotOf_eq_some_iff.mp hslot
      obtain ⟨old, hold⟩ := exists_priceAt? hentry
      have hold' : c.priceAt? slot = some old := (priceAt?_congr hsame slot).trans hold
      by_cases hcurrency : old.currency = new.currency
      · refine .inr ⟨_, _, _, applyPrice_of_currency_eq (hslots.trans hslot) hold' hcurrency,
          applyPrice_of_currency_eq hslot hold hcurrency, ?_⟩
        split
        · rw [snapshot_setPrice (hslots.trans hslot), snapshot_setPrice hslot, hsame]
        · exact hsame
      · exact .inl ⟨_, applyPrice_of_currency_ne (hslots.trans hslot) hold' hcurrency,
          applyPrice_of_currency_ne hslot hold hcurrency⟩

end SameSnapshot

/-! ## A catalog of its own snapshot -/

theorem pairwise_snapshot (c : Catalog) :
    c.snapshot.Pairwise fun a b => a.id.val < b.id.val := by
  have hids := map_snapshot (·.id.val) (fun _ _ => rfl) c
  have hascending := (firstRepeat?_eq_none_iff _).mp c.ascending
  rw [← List.pairwise_map (f := fun entry : CatalogEntry => entry.id.val), hids]
  exact List.pairwise_map.mpr hascending

/-- A snapshot is in the order of its identifiers. -/
theorem sortedById_snapshot (c : Catalog) : sortedById c.snapshot = c.snapshot := by
  rw [sortedById, stableSort_eq_mergeSort]
  apply List.mergeSort_of_pairwise
  exact (pairwise_snapshot c).imp fun hlt => decide_eq_true (UInt64.le_of_lt hlt)

/-- The snapshot of a catalog makes up a catalog with this snapshot. -/
theorem exists_ofEntries_snapshot (c : Catalog) :
    ∃ d, ofEntries c.snapshot = .ok d ∧ d.entries.toList = c.snapshot ∧
      d.snapshot = c.snapshot := by
  have hascending : firstRepeat? (sortedById c.snapshot) = none := by
    rw [sortedById_snapshot, firstRepeat?_eq_none_iff]
    exact pairwise_snapshot c
  obtain ⟨d, hbuilt, hentries⟩ := ofEntries_eq_ok hascending
  rw [sortedById_snapshot] at hentries
  have hlist : d.entries.toList = c.snapshot := by rw [hentries]
  exact ⟨d, hbuilt, hlist, (snapshot_of_ofEntries hbuilt).trans hlist⟩

end Catalog

end Repricing
