import Repricing.PriceList.Row
import Repricing.Text.LowerCase
import Std.Data.ExtTreeMap

/-!
# Suppliers

A supplier's price list comes with headers of its own. The supplier's profile says which field each
column carries. Headers are compared without the blanks around them and without case.
-/

namespace Repricing

/-- A supplier and the layout of its price list. Columns are kept in the order of their headers. -/
structure SupplierProfile where
  code : String
  name : String
  defaultCurrency : Option Currency
  columns : Std.ExtTreeMap String PriceField

/-- What a header is compared by. -/
def headerKey (header : String) : String :=
  Text.lowerCase (Text.trim header)

/-- A row of a price list: cells under their headers. -/
abbrev Record := List (String × String)

namespace SupplierProfile

/-- Looks for a column whose header or field an earlier column has. The header counts first. -/
def firstClash? (supplier : String) :
    (headers : List String) → (fields : List PriceField) → List (String × PriceField) →
      Option ValidationFault
  | _, _, [] => none
  | headers, fields, (header, field) :: rest =>
    if headers.contains (headerKey header) then
      some (.repeatedHeader supplier (Text.trim header))
    else if fields.contains field then some (.repeatedField supplier field)
    else firstClash? supplier (headerKey header :: headers) (field :: fields) rest

/-- Whether a column carries the field. -/
def carries (profile : SupplierProfile) (field : PriceField) : Bool :=
  profile.columns.toList.any (·.2 == field)

/-- Checks that rows can be imported under the profile. -/
def validate (profile : SupplierProfile) : Except EngineError Unit :=
  if Text.trim profile.code = "" then .error (.validation .blankSupplierCode)
  else
    match firstClash? profile.code [] [] profile.columns.toList with
    | some fault => .error (.validation fault)
    | none =>
      if !profile.carries .price then .error (.validation (.noPriceColumn profile.code))
      else if !profile.carries .title && !profile.carries .isbn then
        .error (.validation (.noKeyColumn profile.code))
      else .ok ()

/-- The fields by what their headers are compared by. If several columns have one header, the last
one comes first. -/
def fieldsByKey (profile : SupplierProfile) : List (String × PriceField) :=
  (profile.columns.toList.map fun (header, field) => (headerKey header, field)).reverse

/-- The row of a record. Cells under unknown headers are passed over; a later cell takes the place of
an earlier one. -/
def mapRow (profile : SupplierProfile) (row : UInt64) (record : Record) : RawRow :=
  let fields := profile.fieldsByKey
  record.foldl (fun raw (header, value) =>
    match fields.lookup (headerKey header) with
    | some field => raw.set field value
    | none => raw) (RawRow.blank row)

end SupplierProfile

end Repricing
