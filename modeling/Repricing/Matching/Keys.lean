import Repricing.Catalog.Entry
import Repricing.PriceList.Row
import Repricing.Text.Fold

/-!
# Comparison keys

Entries and items are compared by keys: a bare ISBN and folded texts. What gives neither an ISBN nor a
title cannot be matched.
-/

namespace Repricing

/-- The characters of an ISBN that count: its digits, and the check character X. -/
def isbnChars (cs : List Char) : List Char :=
  cs.filterMap fun c =>
    if c.isDigit then some c
    else if c = 'x' ∨ c = 'X' then some 'X'
    else none

/-- The bare form of an ISBN: ten characters of which only the last may be an X, or thirteen digits.
Check digits are not verified. -/
def bareIsbn? (s : String) : Option String :=
  let cs := isbnChars s.toList
  if cs.length = 10 ∧ cs.dropLast.all Char.isDigit then some (String.ofList cs)
  else if cs.length = 13 ∧ cs.all Char.isDigit then some (String.ofList cs)
  else none

/-- What an entry or an item is compared by. -/
structure MatchKeys where
  isbn : Option String
  title : String
  author : String
  publisher : String
deriving DecidableEq, Repr

namespace MatchKeys

/-- The keys of raw fields. -/
def ofFields (isbn : Option String) (title author publisher : String) : MatchKeys :=
  { isbn := isbn.bind bareIsbn?
    title := Text.fold title
    author := Text.fold author
    publisher := Text.fold publisher }

/-- The keys of an entry. -/
def ofEntry (entry : CatalogEntry) : MatchKeys :=
  ofFields entry.isbn entry.title entry.author entry.publisher

/-- The keys of an item. -/
def ofItem (item : Item) : MatchKeys :=
  ofFields item.isbn item.title item.author item.publisher

/-- The keys of a row. -/
def ofRow (raw : RawRow) : MatchKeys :=
  ofFields raw.isbn (raw.title.getD "") (raw.author.getD "") (raw.publisher.getD "")

/-- Whether there is anything to match by. -/
def isUsable (keys : MatchKeys) : Bool :=
  keys.isbn.isSome || keys.title ≠ ""

end MatchKeys

/-- An item with its keys. -/
structure KeyedItem where
  item : Item
  keys : MatchKeys
deriving DecidableEq

namespace KeyedItem

/-- Adds the keys to an item, unless they are of no use. -/
def ofItem? (item : Item) : Option KeyedItem :=
  let keys := MatchKeys.ofItem item
  if keys.isUsable then some { item, keys } else none

/-- The item of a row with the keys of the row. That keys are missing is found out before the price
and the currency are looked at. -/
def ofRow (raw : RawRow) (default : Currency) : Except RowError KeyedItem :=
  let keys := MatchKeys.ofRow raw
  if keys.isUsable then (raw.toItem default).map fun item => { item, keys }
  else .error (RowFault.noKey.error raw.row)

end KeyedItem

end Repricing
