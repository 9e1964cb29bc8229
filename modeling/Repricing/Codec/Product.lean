import Repricing.Catalog.Entry
import Repricing.Codec.Money
import Repricing.Matching.Keys
import Repricing.PriceList.Supplier

/-!
# JSON forms of entries, rows, items and suppliers
-/

namespace Repricing

open Json (Encode Decode Surplus encode)

instance : Encode CatalogEntry where
  encode entry := .obj [
    ("id", encode entry.id),
    ("isbn", encode entry.isbn),
    ("title", encode entry.title),
    ("author", encode entry.author),
    ("publisher", encode entry.publisher),
    ("price", encode entry.price),
    ("publication_year", encode entry.publicationYear)]

instance : Decode CatalogEntry where
  decode? surplus v := do
    let names := ["id", "isbn", "title", "author", "publisher", "price", "publication_year"]
    let fields ← Json.fields? names surplus v
    let id ← fields.required "id"
    let isbn ← fields.withDefault "isbn" none
    let title ← fields.required "title"
    let author ← fields.withDefault "author" ""
    let publisher ← fields.withDefault "publisher" ""
    let price ← fields.required "price"
    let publicationYear ← fields.withDefault "publication_year" none
    return { id, isbn, title, author, publisher, price, publicationYear }

instance : Encode RawRow where
  encode raw := .obj [
    ("row", encode raw.row),
    ("sku", encode raw.sku),
    ("isbn", encode raw.isbn),
    ("title", encode raw.title),
    ("author", encode raw.author),
    ("publisher", encode raw.publisher),
    ("price", encode raw.price),
    ("currency", encode raw.currency),
    ("stock", encode raw.stock)]

instance : Decode RawRow where
  decode? surplus v := do
    let names :=
      ["row", "sku", "isbn", "title", "author", "publisher", "price", "currency", "stock"]
    let fields ← Json.fields? names surplus v
    let row ← fields.required "row"
    let sku ← fields.withDefault "sku" none
    let isbn ← fields.withDefault "isbn" none
    let title ← fields.withDefault "title" none
    let author ← fields.withDefault "author" none
    let publisher ← fields.withDefault "publisher" none
    let price ← fields.withDefault "price" none
    let currency ← fields.withDefault "currency" none
    let stock ← fields.withDefault "stock" none
    return { row, sku, isbn, title, author, publisher, price, currency, stock }

instance : Encode Item where
  encode item := .obj [
    ("row", encode item.row),
    ("sku", encode item.sku),
    ("isbn", encode item.isbn),
    ("title", encode item.title),
    ("author", encode item.author),
    ("publisher", encode item.publisher),
    ("price", encode item.price),
    ("stock", encode item.stock)]

instance : Decode Item where
  decode? surplus v := do
    let names := ["row", "sku", "isbn", "title", "author", "publisher", "price", "stock"]
    let fields ← Json.fields? names surplus v
    let row ← fields.required "row"
    let sku ← fields.optional "sku"
    let isbn ← fields.optional "isbn"
    let title ← fields.required "title"
    let author ← fields.required "author"
    let publisher ← fields.required "publisher"
    let price ← fields.required "price"
    let stock ← fields.required "stock"
    return { row, sku, isbn, title, author, publisher, price, stock }

instance : Encode PriceField where
  encode field := .str field.name

instance : Decode PriceField where
  decode? _ := Json.decodeName? PriceField.ofName?

instance : Encode SupplierProfile where
  encode profile := .obj [
    ("code", encode profile.code),
    ("name", encode profile.name),
    ("default_currency", encode profile.defaultCurrency),
    ("columns", Json.encodeMap profile.columns)]

instance : Decode SupplierProfile where
  decode? surplus v := do
    let fields ← Json.fields? ["code", "name", "default_currency", "columns"] surplus v
    let code ← fields.required "code"
    let name ← fields.withDefault "name" ""
    let defaultCurrency ← fields.withDefault "default_currency" none
    let columns ← fields.required "columns"
    return { code, name, defaultCurrency, columns }

instance : Encode MatchKeys where
  encode keys := .obj [
    ("isbn", encode keys.isbn),
    ("title", encode keys.title),
    ("author", encode keys.author),
    ("publisher", encode keys.publisher)]

end Repricing
