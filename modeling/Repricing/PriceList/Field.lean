/-!
# Price list fields

The fields of a price list row that a supplier's columns can carry.
-/

namespace Repricing

/-- A field of a price list row. -/
inductive PriceField where
  | sku
  | isbn
  | title
  | author
  | publisher
  | price
  | currency
  | stock
deriving DecidableEq, Repr

namespace PriceField

/-- All fields, in the order in which a row lists them. -/
def all : List PriceField :=
  [.sku, .isbn, .title, .author, .publisher, .price, .currency, .stock]

/-- The name of a field in records. -/
def name : PriceField → String
  | .sku => "sku"
  | .isbn => "isbn"
  | .title => "title"
  | .author => "author"
  | .publisher => "publisher"
  | .price => "price"
  | .currency => "currency"
  | .stock => "stock"

/-- The field of a name. -/
def ofName? (s : String) : Option PriceField :=
  all.find? (·.name == s)

/-- The name of a field in messages. -/
def label : PriceField → String
  | .sku => "Sku"
  | .isbn => "Isbn"
  | .title => "Title"
  | .author => "Author"
  | .publisher => "Publisher"
  | .price => "Price"
  | .currency => "Currency"
  | .stock => "Stock"

end PriceField

end Repricing
