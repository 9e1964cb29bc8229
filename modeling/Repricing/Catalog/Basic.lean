import Repricing.Catalog.Entry
import Repricing.Error
import Repricing.StableSort

/-!
# The catalog

A catalog is a snapshot of entries together with their current prices. The entries stand in
ascending order of their identifiers, and the place of an entry in this order is its slot. Entries
never change; a price changes only through `applyPrice`.
-/

namespace Repricing

/-- The first entry whose identifier is not above that of the entry before it. -/
def firstRepeat? : List CatalogEntry → Option CatalogId
  | a :: b :: rest => if a.id.val < b.id.val then firstRepeat? (b :: rest) else some b.id
  | _ => none

/-- A snapshot of entries and their current prices. -/
structure Catalog where
  entries : Array CatalogEntry
  prices : Array Money
  ascending : firstRepeat? entries.toList = none
  size_prices : prices.size = entries.size

/-- What came of offering a price for an entry. -/
structure PriceUpdate where
  old : Money
  new : Money
  /-- The prices differ by more than the tolerance. -/
  changed : Bool
  /-- The new price was written. -/
  applied : Bool
deriving DecidableEq

namespace Catalog

/-- Builds a catalog from a snapshot, in which no identifier may occur twice. -/
def ofEntries (entries : List CatalogEntry) : Except EngineError Catalog :=
  let sorted := stableSort (fun a b => a.id.val ≤ b.id.val) entries
  match h : firstRepeat? sorted with
  | some id => .error (.validation (.repeatedId id))
  | none =>
    .ok { entries := sorted.toArray
          prices := sorted.toArray.map (·.price)
          ascending := h
          size_prices := Array.size_map }

/-- The number of entries. -/
def size (c : Catalog) : Nat :=
  c.entries.size

/-- Whether there are no entries. -/
def isEmpty (c : Catalog) : Bool :=
  c.entries.isEmpty

/-- Searches the slots from `low` up to `high`, which is left out, by halves. -/
def searchSlot (entries : Array CatalogEntry) (id : CatalogId) (low high : Nat) : Option Nat :=
  if low < high then
    let middle := (low + high) / 2
    match entries[middle]? with
    | none => none
    | some entry =>
      if entry.id = id then some middle
      else if entry.id.val < id.val then searchSlot entries id (middle + 1) high
      else searchSlot entries id low middle
  else none
termination_by high - low

/-- The slot of an entry. -/
def slotOf (c : Catalog) (id : CatalogId) : Option Nat :=
  searchSlot c.entries id 0 c.entries.size

/-- The entry at a slot as it stood when the snapshot was taken. -/
def entryAt? (c : Catalog) (slot : Nat) : Option CatalogEntry :=
  c.entries[slot]?

/-- The current price at a slot. -/
def priceAt? (c : Catalog) (slot : Nat) : Option Money :=
  c.prices[slot]?

/-- The entry at a slot with its current price. -/
def currentEntryAt? (c : Catalog) (slot : Nat) : Option CatalogEntry := do
  let entry ← c.entryAt? slot
  let price ← c.priceAt? slot
  return entry.withPrice price

/-- An entry with its current price. -/
def get? (c : Catalog) (id : CatalogId) : Option CatalogEntry :=
  (c.slotOf id).bind c.currentEntryAt?

/-- The current price of an entry. -/
def currentPrice (c : Catalog) (id : CatalogId) : Except EngineError Money :=
  match (c.slotOf id).bind c.priceAt? with
  | some price => .ok price
  | none => .error .notFound

/-- All entries with their current prices, in order. -/
def snapshot (c : Catalog) : List CatalogEntry :=
  List.zipWith CatalogEntry.withPrice c.entries.toList c.prices.toList

/-- The catalog with another price at a slot. -/
def setPrice (c : Catalog) (slot : Nat) (price : Money) : Catalog :=
  { c with
    prices := c.prices.setIfInBounds slot price
    size_prices := by simpa using c.size_prices }

/-- Offers a price for an entry. The price is written if it differs from the current one by more than
`epsilon`, unless `commit` is off. A price in another currency is refused. -/
def applyPrice (c : Catalog) (id : CatalogId) (new : Money) (epsilon : Float) (commit : Bool) :
    Except EngineError (PriceUpdate × Catalog) :=
  match c.slotOf id with
  | none => .error .notFound
  | some slot =>
    match c.priceAt? slot with
    | none => .error .notFound
    | some old =>
      if !old.sameCurrency new then
        .error (.validation (.foreignPrice id old.currency new.currency))
      else
        let changed := old.differsFrom new epsilon
        let applied := changed && commit
        .ok ({ old, new, changed, applied }, if applied then c.setPrice slot new else c)

end Catalog

end Repricing
