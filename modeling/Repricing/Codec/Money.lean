import Repricing.Error
import Repricing.Json.Codec

/-!
# JSON forms of money, identifiers and row errors
-/

namespace Repricing

open Json (Encode Decode Surplus encode)

instance : Encode Currency where
  encode currency := .str currency.code

instance : Decode Currency where
  decode? _
    | .str s => Currency.read? s
    | _ => none

instance : Encode Money where
  encode money := .obj [("amount", encode money.amount), ("currency", encode money.currency)]

instance : Decode Money where
  decode? surplus v := do
    let fields ← Json.fields? ["amount", "currency"] surplus v
    let amount ← fields.required "amount"
    let currency ← fields.required "currency"
    return { amount, currency }

instance : Encode CatalogId where
  encode id := encode id.val

instance : Decode CatalogId where
  decode? surplus v := (Decode.decode? surplus v).map CatalogId.mk

instance : Encode BatchId where
  encode id := .str id.text

instance : Decode BatchId where
  decode? _
    | .str s => BatchId.read? s
    | _ => none

/-- The name of a kind of row error in records. -/
def RowErrorKind.name : RowErrorKind → String
  | .malformedRow => "malformed_row"
  | .invalidPrice => "invalid_price"
  | .invalidCurrency => "invalid_currency"

/-- The kind of row error of a name. -/
def RowErrorKind.ofName? (s : String) : Option RowErrorKind :=
  [RowErrorKind.malformedRow, .invalidPrice, .invalidCurrency].find? (·.name == s)

instance : Encode RowErrorKind where
  encode kind := .str kind.name

instance : Decode RowErrorKind where
  decode? _ := Json.decodeName? RowErrorKind.ofName?

instance : Encode RowError where
  encode e := .obj [("row", encode e.row), ("kind", encode e.kind), ("message", encode e.message)]

instance : Decode RowError where
  decode? surplus v := do
    let fields ← Json.fields? ["row", "kind", "message"] surplus v
    let row ← fields.required "row"
    let kind ← fields.required "kind"
    let message ← fields.required "message"
    return { row, kind, message }

end Repricing
