import Mathlib.Data.List.Chain
import Repricing.Catalog.Basic

/-!
# Lookups in a catalog

The identifiers of a catalog ascend strictly, so that the search by halves finds exactly the slot of
an identifier.  What a catalog answers about an entry, by its identifier, by its slot or in a
snapshot, is therefore one and the same.
-/

namespace Repricing

/-! ## Strictly ascending identifiers -/

theorem isChain_iff_pairwise_ids
    {entries : List CatalogEntry} :
    entries.IsChain (fun a b => a.id.val < b.id.val) ↔
      entries.Pairwise fun a b => a.id.val < b.id.val := by
  have : IsTrans CatalogEntry fun a b => a.id.val < b.id.val :=
    ⟨fun _ _ _ hab hbc => UInt64.lt_trans hab hbc⟩
  exact List.isChain_iff_pairwise

theorem firstRepeat?_eq_none_iff
    (entries : List CatalogEntry) :
    firstRepeat? entries = none ↔
      entries.Pairwise fun a b => a.id.val < b.id.val := by
  rw [← isChain_iff_pairwise_ids]
  fun_induction firstRepeat? entries with
  | case1 a b rest hlt ih =>
      rw [List.isChain_cons_cons]
      exact ih.trans (iff_and_self.mpr fun _ => hlt)
  | case2 a b rest hnot =>
      simp only [reduceCtorEq, false_iff]
      intro hchain
      exact hnot (List.isChain_cons_cons.mp hchain).1
  | case3 entries hshort =>
      rcases entries with _ | ⟨a, _ | ⟨b, rest⟩⟩
      · simp
      · simp
      · exact (hshort a b rest rfl).elim

namespace CatalogEntry

@[simp] theorem id_withPrice (entry : CatalogEntry) (price : Money) :
    (entry.withPrice price).id = entry.id := rfl

@[simp] theorem price_withPrice (entry : CatalogEntry) (price : Money) :
    (entry.withPrice price).price = price := rfl

@[simp] theorem withPrice_withPrice (entry : CatalogEntry) (old new : Money) :
    (entry.withPrice old).withPrice new = entry.withPrice new := rfl

end CatalogEntry

namespace Catalog

variable {c d : Catalog} {id : CatalogId} {slot : Nat}

theorem id_lt_of_slot_lt
    {i j : Nat} {a b : CatalogEntry}
    (ha : c.entries[i]? = some a) (hb : c.entries[j]? = some b)
    (hij : i < j) :
    a.id.val < b.id.val := by
  have hpairwise := (firstRepeat?_eq_none_iff c.entries.toList).mp c.ascending
  obtain ⟨hi, rfl⟩ := Array.getElem?_eq_some_iff.mp ha
  obtain ⟨hj, rfl⟩ := Array.getElem?_eq_some_iff.mp hb
  exact List.pairwise_iff_getElem.mp hpairwise i j hi hj hij

/-- No two slots hold entries with one identifier. -/
theorem slot_unique
    {i j : Nat} {a b : CatalogEntry}
    (ha : c.entries[i]? = some a) (hb : c.entries[j]? = some b)
    (hid : a.id = b.id) :
    i = j := by
  rcases Nat.lt_trichotomy i j with hlt | heq | hgt
  · have := id_lt_of_slot_lt ha hb hlt
    simp [hid] at this
  · exact heq
  · have := id_lt_of_slot_lt hb ha hgt
    simp [hid] at this

/-- Slots ascend like the identifiers of their entries. -/
theorem slot_le_iff_id_le
    {i j : Nat} {a b : CatalogEntry} (ha : c.entries[i]? = some a) (hb : c.entries[j]? = some b) :
    i ≤ j ↔ a.id.val ≤ b.id.val := by
  constructor
  · intro hle
    rcases Nat.lt_or_eq_of_le hle with hlt | rfl
    · exact UInt64.le_of_lt (id_lt_of_slot_lt ha hb hlt)
    · rw [ha] at hb
      rw [Option.some.inj hb]
      exact UInt64.le_refl _
  · intro hle
    by_contra hcon
    have hlt := id_lt_of_slot_lt hb ha (Nat.lt_of_not_le hcon)
    exact UInt64.not_lt.mpr hle hlt

/-! ## The search by halves -/

theorem searchSlot_sound
    {entries : Array CatalogEntry} {low high : Nat}
    (hfound : searchSlot entries id low high = some slot) :
    ∃ entry, entries[slot]? = some entry ∧ entry.id = id := by
  fun_induction searchSlot entries id low high with
  | case1 => simp at hfound
  | case2 low high _ middle entry hentry heq =>
      obtain rfl := Option.some.inj hfound
      exact ⟨entry, hentry, heq⟩
  | case3 low high _ middle entry hentry hne hbelow ih => exact ih hfound
  | case4 low high _ middle entry hentry hne habove ih => exact ih hfound
  | case5 => simp at hfound

theorem searchSlot_complete
    (c : Catalog) {entry : CatalogEntry} {low high : Nat}
    (hentry : c.entries[slot]? = some entry)
    (hlow : low ≤ slot) (hhigh : slot < high) (hsize : high ≤ c.entries.size) :
    searchSlot c.entries entry.id low high = some slot := by
  fun_induction searchSlot c.entries entry.id low high with
  | case1 low high hlt middle hnone =>
      rw [Array.getElem?_eq_none_iff] at hnone
      omega
  | case2 low high hlt middle probe hprobe heq =>
      rw [slot_unique hentry hprobe heq.symm]
  | case3 low high hlt middle probe hprobe hne hbelow ih =>
      -- The probe is below the wanted entry, and so is every slot up to it.
      apply ih _ hhigh hsize
      by_contra hcon
      rcases Nat.lt_or_eq_of_le (show slot ≤ middle by omega) with hlt' | heq
      · exact absurd hbelow (UInt64.lt_asymm (id_lt_of_slot_lt hentry hprobe hlt'))
      · rw [heq, hprobe] at hentry
        exact hne (congrArg CatalogEntry.id (Option.some.inj hentry))
  | case4 low high hlt middle probe hprobe hne hnotBelow ih =>
      apply ih hlow _ (by omega)
      by_contra hcon
      rcases Nat.lt_or_eq_of_le (show middle ≤ slot by omega) with hlt' | heq
      · exact hnotBelow (id_lt_of_slot_lt hprobe hentry hlt')
      · rw [← heq, hprobe] at hentry
        exact hne (congrArg CatalogEntry.id (Option.some.inj hentry))
  | case5 low high hnot => omega

/-- An identifier has the slot at which its entry stands, and no other. -/
theorem slotOf_eq_some_iff :
    c.slotOf id = some slot ↔ ∃ entry, c.entries[slot]? = some entry ∧ entry.id = id := by
  constructor
  · exact searchSlot_sound
  · rintro ⟨entry, hentry, rfl⟩
    have hslot : slot < c.entries.size := (Array.getElem?_eq_some_iff.mp hentry).1
    exact searchSlot_complete c hentry (Nat.zero_le slot) hslot le_rfl

theorem slotOf_of_entry
    {entry : CatalogEntry} (hentry : c.entries[slot]? = some entry) :
    c.slotOf entry.id = some slot :=
  slotOf_eq_some_iff.mpr ⟨entry, hentry, rfl⟩

/-- Slots depend on the entries alone. -/
theorem slotOf_congr (hentries : c.entries = d.entries) (id : CatalogId) :
    c.slotOf id = d.slotOf id := by
  simp only [slotOf, hentries]

/-! ## Entries with their current prices -/

theorem priceAt?_isSome_iff :
    (c.priceAt? slot).isSome ↔ slot < c.entries.size := by
  simp [priceAt?, c.size_prices]

theorem exists_priceAt? {entry : CatalogEntry} (hentry : c.entries[slot]? = some entry) :
    ∃ price, c.priceAt? slot = some price := by
  apply Option.isSome_iff_exists.mp
  exact priceAt?_isSome_iff.mpr (Array.getElem?_eq_some_iff.mp hentry).1

theorem currentEntryAt?_eq_some_iff {current : CatalogEntry} :
    c.currentEntryAt? slot = some current ↔
      ∃ entry price, c.entries[slot]? = some entry ∧ c.priceAt? slot = some price ∧
        entry.withPrice price = current := by
  simp only [currentEntryAt?, entryAt?, Option.bind_eq_bind, Option.bind_eq_some_iff,
    Option.pure_def, Option.some.injEq]
  grind

theorem slotOf_of_currentEntryAt?
    {current : CatalogEntry} (hcurrent : c.currentEntryAt? slot = some current) :
    c.slotOf current.id = some slot := by
  obtain ⟨entry, price, hentry, -, rfl⟩ := currentEntryAt?_eq_some_iff.mp hcurrent
  exact slotOf_eq_some_iff.mpr ⟨entry, hentry, rfl⟩

/-- What stands at a slot is what is found by its identifier. -/
theorem get?_of_currentEntryAt?
    {current : CatalogEntry} (hcurrent : c.currentEntryAt? slot = some current) :
    c.get? current.id = some current := by
  rw [get?, slotOf_of_currentEntryAt? hcurrent]
  exact hcurrent

theorem get?_eq_some_iff {current : CatalogEntry} :
    c.get? id = some current ↔
      ∃ slot, c.slotOf id = some slot ∧ c.currentEntryAt? slot = some current :=
  Option.bind_eq_some_iff

theorem id_of_get? {current : CatalogEntry} (hget : c.get? id = some current) :
    current.id = id := by
  obtain ⟨slot, hslot, hcurrent⟩ := get?_eq_some_iff.mp hget
  obtain ⟨entry, hentry, rfl⟩ := slotOf_eq_some_iff.mp hslot
  obtain ⟨entry', price, hentry', -, rfl⟩ := currentEntryAt?_eq_some_iff.mp hcurrent
  rw [hentry] at hentry'
  rw [CatalogEntry.id_withPrice, Option.some.inj hentry']

theorem exists_currentEntryAt? (hslot : c.slotOf id = some slot) :
    ∃ current, c.currentEntryAt? slot = some current := by
  obtain ⟨entry, hentry, -⟩ := slotOf_eq_some_iff.mp hslot
  obtain ⟨price, hprice⟩ := exists_priceAt? hentry
  exact ⟨_, currentEntryAt?_eq_some_iff.mpr ⟨entry, price, hentry, hprice, rfl⟩⟩

/-- Catalogs with the same entries differ in prices only. -/
theorem map_withPrice_get?_congr (hentries : c.entries = d.entries) (price : Money) :
    (c.get? id).map (·.withPrice price) = (d.get? id).map (·.withPrice price) := by
  rw [get?, get?, slotOf_congr hentries]
  cases hslot : d.slotOf id with
  | none => rfl
  | some slot =>
      obtain ⟨entry, hentry, -⟩ := slotOf_eq_some_iff.mp hslot
      have hentry' : c.entries[slot]? = some entry := by rw [hentries, hentry]
      obtain ⟨p, hp⟩ := exists_priceAt? hentry
      obtain ⟨p', hp'⟩ := exists_priceAt? hentry'
      have hd := currentEntryAt?_eq_some_iff.mpr ⟨entry, p, hentry, hp, rfl⟩
      have hc := currentEntryAt?_eq_some_iff.mpr ⟨entry, p', hentry', hp', rfl⟩
      rw [Option.bind_some, Option.bind_some, hc, hd]
      rfl

/-! ## Snapshots -/

theorem getElem?_snapshot (c : Catalog) (slot : Nat) :
    c.snapshot[slot]? = c.currentEntryAt? slot := by
  rw [snapshot, List.getElem?_zipWith, Array.getElem?_toList, Array.getElem?_toList]
  rw [currentEntryAt?, entryAt?, priceAt?]
  cases c.entries[slot]? <;> cases c.prices[slot]? <;> rfl

/-- A snapshot lists exactly the entries that are found by their identifiers. -/
theorem mem_snapshot_iff {current : CatalogEntry} :
    current ∈ c.snapshot ↔ c.get? current.id = some current := by
  constructor
  · intro hmem
    obtain ⟨slot, hslot⟩ := List.getElem?_of_mem hmem
    rw [getElem?_snapshot] at hslot
    exact get?_of_currentEntryAt? hslot
  · intro hget
    obtain ⟨slot, -, hcurrent⟩ := get?_eq_some_iff.mp hget
    apply List.mem_of_getElem? (i := slot)
    rw [getElem?_snapshot, hcurrent]

/-! ## One answer to all questions -/

theorem currentPrice_of_slot
    {price : Money} (hslot : c.slotOf id = some slot) (hprice : c.priceAt? slot = some price) :
    c.currentPrice id = .ok price := by
  simp [currentPrice, hslot, hprice]

theorem currentPrice_of_slotOf_eq_none (hslot : c.slotOf id = none) :
    c.currentPrice id = .error .notFound := by
  simp [currentPrice, hslot]

/-- A catalog is given by its entries and their current prices. -/
theorem eq_of_currentPrice
    (hentries : c.entries = d.entries)
    (hprices : ∀ id, c.currentPrice id = d.currentPrice id) :
    c = d := by
  have hslots : c.prices = d.prices := by
    apply Array.ext_getElem?
    intro slot
    cases hentry : d.entries[slot]? with
    | none =>
        have hsize := Array.getElem?_eq_none_iff.mp hentry
        rw [Array.getElem?_eq_none (by rwa [c.size_prices, hentries]),
          Array.getElem?_eq_none (by rwa [d.size_prices])]
    | some entry =>
        rw [← hentries] at hentry
        obtain ⟨p, hp⟩ := exists_priceAt? hentry
        obtain ⟨q, hq⟩ := exists_priceAt? (hentries ▸ hentry)
        have hsame := hprices entry.id
        rw [currentPrice_of_slot (slotOf_of_entry hentry) hp,
          currentPrice_of_slot (slotOf_of_entry (hentries ▸ hentry)) hq] at hsame
        exact hp.trans ((congrArg some (Except.ok.inj hsame)).trans hq.symm)
  cases c
  cases d
  congr

/-- The catalog shows an entry at a slot, whichever way it is asked. -/
structure Shows (c : Catalog) (slot : Nat) (current : CatalogEntry) : Prop where
  slotOf_eq : c.slotOf current.id = some slot
  currentEntryAt?_eq : c.currentEntryAt? slot = some current
  get?_eq : c.get? current.id = some current
  currentPrice_eq : c.currentPrice current.id = .ok current.price
  snapshot_eq : c.snapshot[slot]? = some current

theorem shows_of_entry
    {entry : CatalogEntry} {price : Money} (hentry : c.entries[slot]? = some entry)
    (hprice : c.priceAt? slot = some price) :
    c.Shows slot (entry.withPrice price) := by
  have hslot : c.slotOf entry.id = some slot := slotOf_of_entry hentry
  have hcurrent : c.currentEntryAt? slot = some (entry.withPrice price) :=
    currentEntryAt?_eq_some_iff.mpr ⟨entry, price, hentry, hprice, rfl⟩
  exact
    { slotOf_eq := hslot
      currentEntryAt?_eq := hcurrent
      get?_eq := get?_of_currentEntryAt? hcurrent
      currentPrice_eq := currentPrice_of_slot hslot hprice
      snapshot_eq := (getElem?_snapshot c slot).trans hcurrent }

end Catalog

end Repricing
