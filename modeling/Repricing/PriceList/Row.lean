import Repricing.Error
import Repricing.PriceList.Price

/-!
# Rows and items

A row of a price list is text as it was delivered. An item is what a row says about a product once
its price and its currency are understood.
-/

namespace Repricing

/-- A row as it was delivered. Every field may be missing. -/
structure RawRow where
  row : UInt64
  sku : Option String
  isbn : Option String
  title : Option String
  author : Option String
  publisher : Option String
  price : Option String
  currency : Option String
  stock : Option String
deriving DecidableEq, Repr

/-- A row with no fields. -/
def RawRow.blank (row : UInt64) : RawRow :=
  { row
    sku := none
    isbn := none
    title := none
    author := none
    publisher := none
    price := none
    currency := none
    stock := none }

/-- A row with one field replaced. -/
def RawRow.set (raw : RawRow) (field : PriceField) (value : String) : RawRow :=
  match field with
  | .sku => { raw with sku := some value }
  | .isbn => { raw with isbn := some value }
  | .title => { raw with title := some value }
  | .author => { raw with author := some value }
  | .publisher => { raw with publisher := some value }
  | .price => { raw with price := some value }
  | .currency => { raw with currency := some value }
  | .stock => { raw with stock := some value }

/-- A product as a supplier offers it. -/
structure Item where
  row : UInt64
  sku : Option String
  isbn : Option String
  title : String
  author : String
  publisher : String
  price : Money
  stock : UInt32
deriving DecidableEq

/-- The number of copies in stock; a text that is no such number counts as none. -/
def readStock (s : String) : UInt32 :=
  match readNumber UInt32.size (Text.trimmed s.toList) with
  | .ok n => UInt32.ofNat n
  | .error _ => 0

namespace RawRow

open Text (present)

/-- The amount of the price. -/
def amount (raw : RawRow) : Except RowFault Float :=
  match present raw.price with
  | none => .error .priceMissing
  | some text =>
    match readPrice? text with
    | some amount => .ok amount
    | none => .error (.badPrice text)

/-- The currency of the price, which is `default` if the row does not name one. -/
def priceCurrency (raw : RawRow) (default : Currency) : Except RowFault Currency :=
  match present raw.currency with
  | none => .ok default
  | some text => (Currency.parse text).mapError .badCurrency

/-- The item of a row. The price is looked at before the currency. -/
def toItem (raw : RawRow) (default : Currency) : Except RowError Item :=
  match raw.amount with
  | .error fault => .error (fault.error raw.row)
  | .ok amount =>
    match raw.priceCurrency default with
    | .error fault => .error (fault.error raw.row)
    | .ok currency =>
      .ok { row := raw.row
            sku := present raw.sku
            isbn := present raw.isbn
            title := (present raw.title).getD ""
            author := (present raw.author).getD ""
            publisher := (present raw.publisher).getD ""
            price := { amount, currency }
            stock := ((present raw.stock).map readStock).getD 0 }

end RawRow

end Repricing
