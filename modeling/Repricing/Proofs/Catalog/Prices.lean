import Repricing.Proofs.Catalog.Lookup
import Repricing.Proofs.Float.NotANumber

/-!
# Price updates in a catalog

Offering a price either fails and changes nothing, or compares the price with the current one of the
entry and writes it at that place.  Two catalogs are alike if they differ in amounts only; an offer
keeps a catalog alike, and fails in the same way in catalogs that are alike.
-/

namespace Repricing

/-! ## Prices in a snapshot -/

/-- The price of an entry in a snapshot. -/
def priceIn (snapshot : List CatalogEntry) (id : CatalogId) : Option Money :=
  (snapshot.find? (·.id = id)).map (·.price)

/-- A snapshot with another price for one entry. -/
def setPriceIn (snapshot : List CatalogEntry) (id : CatalogId) (price : Money) :
    List CatalogEntry :=
  snapshot.map fun entry => if entry.id = id then entry.withPrice price else entry

theorem priceIn_setPriceIn_of_ne
    {snapshot : List CatalogEntry} {id other : CatalogId} {price : Money}
    (hne : other ≠ id) :
    priceIn (setPriceIn snapshot id price) other = priceIn snapshot other := by
  unfold priceIn setPriceIn
  induction snapshot with
  | nil => rfl
  | cons entry rest ih =>
      by_cases hid : entry.id = id
      · have hother : entry.id ≠ other := fun h => hne (h.symm.trans hid)
        simpa [hid, hne, hne.symm] using ih
      · by_cases hother : entry.id = other
        · simp [hother, hne]
        · simpa [hid, hother] using ih

theorem priceIn_setPriceIn_self
    {snapshot : List CatalogEntry} {id : CatalogId} {old price : Money}
    (hold : priceIn snapshot id = some old) :
    priceIn (setPriceIn snapshot id price) id = some price := by
  unfold priceIn setPriceIn at *
  induction snapshot with
  | nil => simp at hold
  | cons entry rest ih =>
      by_cases hid : entry.id = id
      · simp [hid]
      · simp only [List.find?_cons, hid, decide_false] at hold
        simpa [hid] using ih hold

/-- The answer to an offer that is not refused. -/
def PriceUpdate.ofOffer (old new : Money) (epsilon : Float) (commit : Bool) : PriceUpdate :=
  { old, new
    changed := old.differsFrom new epsilon
    applied := old.differsFrom new epsilon && commit }

namespace Catalog

variable {c d : Catalog} {id : CatalogId} {slot : Nat} {old new : Money}

/-! ## Writing a price -/

@[simp] theorem entries_setPrice (c : Catalog) (slot : Nat) (price : Money) :
    (c.setPrice slot price).entries = c.entries := rfl

theorem priceAt?_setPrice_self
    (hold : c.priceAt? slot = some old) (price : Money) :
    (c.setPrice slot price).priceAt? slot = some price := by
  obtain ⟨hslot, -⟩ := Array.getElem?_eq_some_iff.mp hold
  simp [priceAt?, setPrice, hslot]

theorem priceAt?_setPrice_of_ne
    {other : Nat} (hne : other ≠ slot) (price : Money) :
    (c.setPrice slot price).priceAt? other = c.priceAt? other := by
  simp [priceAt?, setPrice, hne.symm]

theorem find?_snapshot (c : Catalog) (id : CatalogId) :
    c.snapshot.find? (·.id = id) = c.get? id := by
  cases hfind : c.snapshot.find? (·.id = id) with
  | none =>
      cases hget : c.get? id with
      | none => rfl
      | some current =>
          have hid := id_of_get? hget
          have hmem : current ∈ c.snapshot := mem_snapshot_iff.mpr (by rw [hid, hget])
          exact (List.find?_eq_none.mp hfind current hmem (decide_eq_true hid)).elim
  | some found =>
      have hid : found.id = id := by simpa using List.find?_some hfind
      rw [← hid]
      exact (mem_snapshot_iff.mp (List.mem_of_find?_eq_some hfind)).symm

theorem priceIn_snapshot (c : Catalog) (id : CatalogId) :
    priceIn c.snapshot id = (c.get? id).map (·.price) := by
  rw [priceIn, find?_snapshot]

theorem priceIn_snapshot_of_slot
    (hslot : c.slotOf id = some slot) (hold : c.priceAt? slot = some old) :
    priceIn c.snapshot id = some old := by
  obtain ⟨entry, hentry, -⟩ := slotOf_eq_some_iff.mp hslot
  have hcurrent := currentEntryAt?_eq_some_iff.mpr ⟨entry, old, hentry, hold, rfl⟩
  rw [priceIn_snapshot, get?, hslot, Option.bind_some, hcurrent]
  rfl

/-- Writing a price at the slot of an entry changes the price of this entry in the snapshot, and
nothing else. -/
theorem snapshot_setPrice
    (hslot : c.slotOf id = some slot) (price : Money) :
    (c.setPrice slot price).snapshot = setPriceIn c.snapshot id price := by
  apply List.ext_getElem?
  intro i
  rw [setPriceIn, List.getElem?_map, getElem?_snapshot, getElem?_snapshot]
  cases hentry : c.entries[i]? with
  | none => simp [currentEntryAt?, entryAt?, hentry]
  | some entry =>
      obtain ⟨p, hp⟩ := exists_priceAt? hentry
      have hcurrent := currentEntryAt?_eq_some_iff.mpr ⟨entry, p, hentry, hp, rfl⟩
      rw [hcurrent]
      by_cases hid : entry.id = id
      · have hi : slot = i := by
          have := slotOf_of_entry hentry
          rw [hid, hslot] at this
          exact Option.some.inj this
        subst hi
        have hwritten : (c.setPrice slot price).currentEntryAt? slot =
            some (entry.withPrice price) :=
          currentEntryAt?_eq_some_iff.mpr
            ⟨entry, price, hentry, priceAt?_setPrice_self hp price, rfl⟩
        rw [hwritten]
        simp [hid]
      · have hi : i ≠ slot := by
          rintro rfl
          obtain ⟨entry', hentry', hid'⟩ := slotOf_eq_some_iff.mp hslot
          rw [hentry] at hentry'
          exact hid (Option.some.inj hentry' ▸ hid')
        have hkept : (c.setPrice slot price).currentEntryAt? i = some (entry.withPrice p) :=
          currentEntryAt?_eq_some_iff.mpr
            ⟨entry, p, hentry, (priceAt?_setPrice_of_ne hi price).trans hp, rfl⟩
        rw [hkept]
        simp [hid]

/-! ## Offering a price -/

section Offers

variable {epsilon : Float} {commit : Bool}

/-- An offer for an unknown entry is refused. -/
theorem applyPrice_of_slotOf_eq_none (hslot : c.slotOf id = none) :
    c.applyPrice id new epsilon commit = .error .notFound := by
  simp [applyPrice, hslot]

/-- An offer in another currency is refused. -/
theorem applyPrice_of_currency_ne
    (hslot : c.slotOf id = some slot) (hold : c.priceAt? slot = some old)
    (hcurrency : old.currency ≠ new.currency) :
    c.applyPrice id new epsilon commit =
      .error (.validation (.foreignPrice id old.currency new.currency)) := by
  simp [applyPrice, hslot, hold, Money.sameCurrency, hcurrency]

theorem applyPrice_of_currency_eq
    (hslot : c.slotOf id = some slot) (hold : c.priceAt? slot = some old)
    (hcurrency : old.currency = new.currency) :
    c.applyPrice id new epsilon commit =
      .ok (.ofOffer old new epsilon commit,
        if (PriceUpdate.ofOffer old new epsilon commit).applied then c.setPrice slot new
        else c) := by
  simp [applyPrice, hslot, hold, Money.sameCurrency, hcurrency, PriceUpdate.ofOffer]

/-- What an offer that is not refused does. -/
theorem applyPrice_eq_ok_iff {update : PriceUpdate} {after : Catalog} :
    c.applyPrice id new epsilon commit = .ok (update, after) ↔
      ∃ slot old, c.slotOf id = some slot ∧ c.priceAt? slot = some old ∧
        old.currency = new.currency ∧ update = .ofOffer old new epsilon commit ∧
        after = if update.applied then c.setPrice slot new else c := by
  constructor
  · intro hoffer
    cases hslot : c.slotOf id with
    | none =>
        rw [applyPrice_of_slotOf_eq_none hslot] at hoffer
        cases hoffer
    | some slot =>
        obtain ⟨entry, hentry, -⟩ := slotOf_eq_some_iff.mp hslot
        obtain ⟨old, hold⟩ := exists_priceAt? hentry
        by_cases hcurrency : old.currency = new.currency
        · rw [applyPrice_of_currency_eq hslot hold hcurrency] at hoffer
          cases hoffer
          exact ⟨slot, old, rfl, hold, hcurrency, rfl, rfl⟩
        · rw [applyPrice_of_currency_ne hslot hold hcurrency] at hoffer
          cases hoffer
  · rintro ⟨slot, old, hslot, hold, hcurrency, rfl, rfl⟩
    exact applyPrice_of_currency_eq hslot hold hcurrency

/-- An offer that is not applied leaves the catalog alone. -/
theorem eq_of_applyPrice_of_not_applied {update : PriceUpdate} {after : Catalog}
    (hoffer : c.applyPrice id new epsilon commit = .ok (update, after))
    (hnot : update.applied = false) :
    after = c := by
  obtain ⟨slot, old, -, -, -, -, rfl⟩ := applyPrice_eq_ok_iff.mp hoffer
  rw [if_neg (by simp [hnot])]

theorem applied_of_applyPrice {update : PriceUpdate} {after : Catalog}
    (hoffer : c.applyPrice id new epsilon commit = .ok (update, after)) :
    update.applied = (update.changed && commit) := by
  obtain ⟨slot, old, -, -, -, rfl, -⟩ := applyPrice_eq_ok_iff.mp hoffer
  rfl

theorem new_of_applyPrice {update : PriceUpdate} {after : Catalog}
    (hoffer : c.applyPrice id new epsilon commit = .ok (update, after)) :
    update.new = new := by
  obtain ⟨slot, old, -, -, -, rfl, -⟩ := applyPrice_eq_ok_iff.mp hoffer
  rfl

/-- A price that was written is a number: what is no number does not differ from any price. -/
theorem isNaN_eq_false_of_applied {update : PriceUpdate} {after : Catalog}
    (hoffer : c.applyPrice id new epsilon commit = .ok (update, after))
    (happlied : update.applied = true) :
    new.amount.isNaN = false := by
  obtain ⟨slot, old, -, -, hcurrency, rfl, -⟩ := applyPrice_eq_ok_iff.mp hoffer
  have hdiffers : old.differsFrom new epsilon = true := (Bool.and_eq_true_iff.mp happlied).1
  have hlt : epsilon < (old.amount - new.amount).abs := by
    simpa [Money.differsFrom, Money.sameCurrency, hcurrency] using hdiffers
  cases hnan : new.amount.isNaN with
  | false => rfl
  | true => exact (not_lt_of_isNaN (isNaN_abs (isNaN_sub_right old.amount hnan)) hlt).elim

/-! ## Prices before and after an offer -/

theorem currentPrice_of_applyPrice {update : PriceUpdate} {after : Catalog}
    (hoffer : c.applyPrice id new epsilon commit = .ok (update, after)) :
    c.currentPrice id = .ok update.old := by
  obtain ⟨slot, old, hslot, hold, -, rfl, -⟩ := applyPrice_eq_ok_iff.mp hoffer
  exact currentPrice_of_slot hslot hold

theorem currentPrice_after_applyPrice {update : PriceUpdate} {after : Catalog}
    (hoffer : c.applyPrice id new epsilon commit = .ok (update, after)) :
    after.currentPrice id = .ok (if update.applied then new else update.old) := by
  obtain ⟨slot, old, hslot, hold, -, rfl, rfl⟩ := applyPrice_eq_ok_iff.mp hoffer
  split
  · exact currentPrice_of_slot (c := c.setPrice slot new) hslot (priceAt?_setPrice_self hold new)
  · exact currentPrice_of_slot hslot hold

/-- An offer leaves the prices of other entries alone. -/
theorem currentPrice_applyPrice_of_ne
    {update : PriceUpdate} {after : Catalog} {other : CatalogId}
    (hoffer : c.applyPrice id new epsilon commit = .ok (update, after)) (hne : other ≠ id) :
    after.currentPrice other = c.currentPrice other := by
  obtain ⟨slot, old, hslot, -, -, -, rfl⟩ := applyPrice_eq_ok_iff.mp hoffer
  split
  · have hsame : (c.setPrice slot new).slotOf other = c.slotOf other := rfl
    cases hother : c.slotOf other with
    | none =>
        rw [currentPrice_of_slotOf_eq_none hother,
          currentPrice_of_slotOf_eq_none (hsame.trans hother)]
    | some slot' =>
        have hslots : slot' ≠ slot := by
          rintro rfl
          obtain ⟨entry, hentry, rfl⟩ := slotOf_eq_some_iff.mp hslot
          obtain ⟨entry', hentry', rfl⟩ := slotOf_eq_some_iff.mp hother
          exact hne (congrArg CatalogEntry.id (Option.some.inj (hentry'.symm.trans hentry)))
        have hkept := priceAt?_setPrice_of_ne (c := c) hslots new
        rw [currentPrice, currentPrice, hsame, hother, Option.bind_some, Option.bind_some, hkept]
  · rfl

end Offers

/-! ## Catalogs that are alike -/

/-- The catalogs hold the same entries, priced in the same currencies. -/
structure Alike (c d : Catalog) : Prop where
  entries_eq : c.entries = d.entries
  currencies_eq : c.prices.map (·.currency) = d.prices.map (·.currency)

theorem Alike.refl (c : Catalog) : c.Alike c :=
  ⟨rfl, rfl⟩

theorem Alike.symm (h : c.Alike d) : d.Alike c :=
  ⟨h.entries_eq.symm, h.currencies_eq.symm⟩

theorem Alike.trans {e : Catalog} (hcd : c.Alike d) (hde : d.Alike e) : c.Alike e :=
  ⟨hcd.entries_eq.trans hde.entries_eq, hcd.currencies_eq.trans hde.currencies_eq⟩

theorem Alike.currency_eq
    (h : c.Alike d) {p q : Money} (hp : c.priceAt? slot = some p) (hq : d.priceAt? slot = some q) :
    p.currency = q.currency := by
  have heq : (c.prices.map (·.currency))[slot]? = (d.prices.map (·.currency))[slot]? :=
    congrArg (·[slot]?) h.currencies_eq
  rw [Array.getElem?_map, Array.getElem?_map] at heq
  rw [priceAt?] at hp hq
  rw [hp, hq] at heq
  exact Option.some.inj heq

theorem alike_setPrice
    (hold : c.priceAt? slot = some old) (hcurrency : old.currency = new.currency) :
    (c.setPrice slot new).Alike c := by
  refine ⟨rfl, ?_⟩
  apply Array.ext_getElem?
  intro i
  rw [Array.getElem?_map, Array.getElem?_map]
  change ((c.setPrice slot new).priceAt? i).map _ = (c.priceAt? i).map _
  by_cases hi : i = slot
  · rw [hi, priceAt?_setPrice_self hold, hold]
    simp [hcurrency]
  · rw [priceAt?_setPrice_of_ne hi]

/-- An offer keeps entries and currencies. -/
theorem alike_of_applyPrice
    {epsilon : Float} {commit : Bool} {update : PriceUpdate} {after : Catalog}
    (hoffer : c.applyPrice id new epsilon commit = .ok (update, after)) :
    after.Alike c := by
  obtain ⟨slot, old, -, hold, hcurrency, -, rfl⟩ := applyPrice_eq_ok_iff.mp hoffer
  split
  · exact alike_setPrice hold hcurrency
  · exact .refl c

/-- In catalogs that are alike, the same offers are refused, for the same reason. -/
theorem Alike.applyPrice_eq_error
    (h : c.Alike d) {epsilon epsilon' : Float} {commit commit' : Bool} {e : EngineError}
    (hoffer : c.applyPrice id new epsilon commit = .error e) :
    d.applyPrice id new epsilon' commit' = .error e := by
  cases hslot : c.slotOf id with
  | none =>
      rw [applyPrice_of_slotOf_eq_none hslot] at hoffer
      rw [applyPrice_of_slotOf_eq_none (slotOf_congr h.entries_eq id ▸ hslot), hoffer]
  | some slot =>
      obtain ⟨entry, hentry, -⟩ := slotOf_eq_some_iff.mp hslot
      obtain ⟨p, hp⟩ := exists_priceAt? hentry
      obtain ⟨q, hq⟩ := exists_priceAt? (h.entries_eq ▸ hentry)
      have hcurrency := h.currency_eq hp hq
      by_cases hsame : p.currency = new.currency
      · rw [applyPrice_of_currency_eq hslot hp hsame] at hoffer
        cases hoffer
      · rw [applyPrice_of_currency_ne hslot hp hsame] at hoffer
        rw [applyPrice_of_currency_ne (slotOf_congr h.entries_eq id ▸ hslot) hq
          (hcurrency ▸ hsame), ← hoffer, hcurrency]

end Catalog

end Repricing
