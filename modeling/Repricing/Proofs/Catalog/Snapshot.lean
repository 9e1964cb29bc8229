import Repricing.Proofs.Catalog.Prices

/-!
# Catalogs of snapshots

A snapshot in which no identifier occurs twice makes up a catalog.  Its entries are those of the
snapshot in the order of their identifiers, and its prices are the ones that they have there.
-/

namespace Repricing

/-! ## The order of identifiers -/

/-- The entries of a snapshot in the order of their identifiers. -/
def sortedById (entries : List CatalogEntry) : List CatalogEntry :=
  stableSort (fun a b => a.id.val ≤ b.id.val) entries

theorem sortedById_perm (entries : List CatalogEntry) : (sortedById entries).Perm entries :=
  stableSort_perm _ entries

theorem pairwise_sortedById (entries : List CatalogEntry) :
    (sortedById entries).Pairwise fun a b => a.id.val ≤ b.id.val := by
  rw [sortedById, stableSort_eq_mergeSort]
  have hsorted := @List.pairwise_mergeSort CatalogEntry (fun a b => a.id.val ≤ b.id.val)
    (fun a b c hab hbc => by simpa using UInt64.le_trans (by simpa using hab) (by simpa using hbc))
    (fun a b => by simpa using UInt64.le_total a.id.val b.id.val) entries
  simpa using hsorted

/-- Without an identifier that occurs twice, the order is strict. -/
theorem firstRepeat?_sortedById
    {entries : List CatalogEntry} (hdistinct : (entries.map (·.id)).Nodup) :
    firstRepeat? (sortedById entries) = none := by
  rw [firstRepeat?_eq_none_iff]
  have hnodup : ((sortedById entries).map (·.id)).Nodup :=
    ((sortedById_perm entries).map (·.id)).nodup_iff.mpr hdistinct
  apply (pairwise_sortedById entries).imp₂ _ (List.pairwise_map.mp hnodup)
  intro a b hle hne
  apply UInt64.lt_of_le_of_ne hle
  intro hval
  exact hne (congrArg CatalogId.mk hval)

/-! ## Building a catalog -/

namespace Catalog

variable {entries : List CatalogEntry} {c : Catalog}

theorem ofEntries_eq_ok (hascending : firstRepeat? (sortedById entries) = none) :
    ∃ c, ofEntries entries = .ok c ∧ c.entries = (sortedById entries).toArray := by
  unfold ofEntries
  dsimp only
  split
  · next id hrepeat =>
      rw [← sortedById, hascending] at hrepeat
      cases hrepeat
  · exact ⟨_, rfl, rfl⟩

theorem prices_of_ofEntries (hbuilt : ofEntries entries = .ok c) :
    c.prices = c.entries.map (·.price) := by
  unfold ofEntries at hbuilt
  dsimp only at hbuilt
  split at hbuilt
  · cases hbuilt
  · cases hbuilt
    rfl

/-- A snapshot of distinct entries makes up a catalog of these entries. -/
theorem exists_ofEntries (hdistinct : (entries.map (·.id)).Nodup) :
    ∃ c, ofEntries entries = .ok c ∧ c.entries.toList.Perm entries := by
  obtain ⟨c, hbuilt, hentries⟩ := ofEntries_eq_ok (firstRepeat?_sortedById hdistinct)
  refine ⟨c, hbuilt, ?_⟩
  rw [hentries]
  exact sortedById_perm entries

/-- A catalog has the entries of its snapshot. -/
theorem entries_perm_of_ofEntries (hbuilt : ofEntries entries = .ok c) :
    c.entries.toList.Perm entries := by
  unfold ofEntries at hbuilt
  dsimp only at hbuilt
  split at hbuilt
  · cases hbuilt
  · cases hbuilt
    exact sortedById_perm entries

/-- At first every entry is shown at its price in the snapshot. -/
theorem snapshot_of_ofEntries (hbuilt : ofEntries entries = .ok c) :
    c.snapshot = c.entries.toList := by
  rw [snapshot, prices_of_ofEntries hbuilt, Array.toList_map, List.zipWith_map_right,
    List.zipWith_self]
  exact List.map_id _

/-! ## The currencies of a snapshot -/

/-- Every current price is in the currency of the snapshot. -/
def InSnapshotCurrency (c : Catalog) : Prop :=
  c.prices.map (·.currency) = c.entries.map (·.price.currency)

theorem inSnapshotCurrency_of_ofEntries (hbuilt : ofEntries entries = .ok c) :
    c.InSnapshotCurrency := by
  rw [InSnapshotCurrency, prices_of_ofEntries hbuilt, Array.map_map]
  rfl

theorem Alike.inSnapshotCurrency
    {d : Catalog} (halike : c.Alike d) (hd : d.InSnapshotCurrency) :
    c.InSnapshotCurrency := by
  unfold InSnapshotCurrency at *
  rw [halike.currencies_eq, halike.entries_eq, hd]

/-- Catalogs with the same entries are alike if all prices are in the currency of the snapshot. -/
theorem alike_of_inSnapshotCurrency
    {d : Catalog} (hentries : c.entries = d.entries)
    (hc : c.InSnapshotCurrency) (hd : d.InSnapshotCurrency) :
    c.Alike d := by
  refine ⟨hentries, ?_⟩
  rw [hc, hd, hentries]

theorem InSnapshotCurrency.exists_shows
    (hcurrency : c.InSnapshotCurrency) {slot : Nat} {entry : CatalogEntry}
    (hentry : c.entries[slot]? = some entry) :
    ∃ price, price.currency = entry.price.currency ∧ c.Shows slot (entry.withPrice price) := by
  obtain ⟨price, hprice⟩ := exists_priceAt? hentry
  have hslot : (c.prices.map (·.currency))[slot]? = (c.entries.map (·.price.currency))[slot]? :=
    congrArg (·[slot]?) hcurrency
  rw [Array.getElem?_map, Array.getElem?_map, hentry, ← priceAt?, hprice] at hslot
  exact ⟨price, Option.some.inj hslot, shows_of_entry hentry hprice⟩

end Catalog

end Repricing
