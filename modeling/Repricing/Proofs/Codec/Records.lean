import Repricing.Codec.Policy
import Repricing.Codec.Report
import Repricing.Proofs.Codec.BatchId
import Repricing.Proofs.Codec.RoundTrip
import Repricing.Proofs.PriceList.Currency

/-!
# Records that read back

All types that are both written and read read back.  A record is gone through field by field, in the
order in which it is read.
-/

namespace Repricing

open Json (AllFinite Floats NoFloats NotNull ReadsBack allFinite bind_eq_some decode_encode floats)
open Json.Fields (finite_of_required finite_of_withDefault optional_eq_some required_eq_some
  withDefault_eq_some)

/-! ## Names of enumerations -/

instance : Floats PriceField := ⟨fun _ => []⟩

instance : NoFloats PriceField := ⟨fun _ => rfl⟩

instance : ReadsBack PriceField where
  decode_encode _ field _ := by cases field <;> rfl
  finite_of_decode _ _ := allFinite _

instance : Floats MatchField := ⟨fun _ => []⟩

instance : NoFloats MatchField := ⟨fun _ => rfl⟩

instance : ReadsBack MatchField where
  decode_encode _ field _ := by cases field <;> rfl
  finite_of_decode _ _ := allFinite _

instance : Floats RowErrorKind := ⟨fun _ => []⟩

instance : NoFloats RowErrorKind := ⟨fun _ => rfl⟩

instance : ReadsBack RowErrorKind where
  decode_encode _ kind _ := by cases kind <;> rfl
  finite_of_decode _ _ := allFinite _

/-! ## Currencies and identifiers -/

instance : Floats Currency := ⟨fun _ => []⟩

instance : NoFloats Currency := ⟨fun _ => rfl⟩

instance : ReadsBack Currency where
  decode_encode _ currency _ := currency.read?_code
  finite_of_decode _ _ := allFinite _

instance : NotNull Currency := ⟨fun _ => rfl⟩

instance : Floats CatalogId := ⟨fun _ => []⟩

instance : NoFloats CatalogId := ⟨fun _ => rfl⟩

instance : ReadsBack CatalogId where
  decode_encode surplus id _ := by
    refine Option.map_eq_some_iff.mpr ⟨id.val, ?_, rfl⟩
    exact decode_encode surplus (allFinite id.val)
  finite_of_decode _ _ := allFinite _

instance : Floats BatchId := ⟨fun _ => []⟩

instance : NoFloats BatchId := ⟨fun _ => rfl⟩

instance : ReadsBack BatchId where
  decode_encode _ id _ := id.read?_text
  finite_of_decode _ _ := allFinite _

/-! ## Prices, entries and items -/

instance : Floats Money := ⟨fun money => [money.amount]⟩

instance : ReadsBack Money where
  decode_encode _ money hfinite := by
    have hamount : AllFinite money.amount := hfinite
    refine bind_eq_some rfl ?_
    refine bind_eq_some (required_eq_some rfl hamount) ?_
    refine bind_eq_some (required_eq_some rfl (allFinite money.currency)) ?_
    rfl
  finite_of_decode hproper hdecode := by
    obtain ⟨fields, hfields, hdecode⟩ := Option.bind_eq_some_iff.mp hdecode
    simp only [Option.bind_eq_bind, Option.bind_eq_some_iff] at hdecode
    obtain ⟨amount, hamount, currency, -, hmoney⟩ := hdecode
    cases hmoney
    have hfinite : AllFinite amount := finite_of_required hproper hfields hamount
    exact hfinite

instance : Floats CatalogEntry := ⟨fun entry => floats entry.price⟩

instance : ReadsBack CatalogEntry where
  decode_encode _ entry hfinite := by
    have hprice : AllFinite entry.price := hfinite
    refine bind_eq_some rfl ?_
    refine bind_eq_some (required_eq_some rfl (allFinite entry.id)) ?_
    refine bind_eq_some (withDefault_eq_some rfl (allFinite entry.isbn)) ?_
    refine bind_eq_some (required_eq_some rfl (allFinite entry.title)) ?_
    refine bind_eq_some (withDefault_eq_some rfl (allFinite entry.author)) ?_
    refine bind_eq_some (withDefault_eq_some rfl (allFinite entry.publisher)) ?_
    refine bind_eq_some (required_eq_some rfl hprice) ?_
    refine bind_eq_some (withDefault_eq_some rfl (allFinite entry.publicationYear)) ?_
    rfl
  finite_of_decode hproper hdecode := by
    obtain ⟨fields, hfields, hdecode⟩ := Option.bind_eq_some_iff.mp hdecode
    simp only [Option.bind_eq_bind, Option.bind_eq_some_iff] at hdecode
    obtain ⟨id, -, isbn, -, title, -, author, -, publisher, -, price, hprice, year, -, hentry⟩ :=
      hdecode
    cases hentry
    have hfinite : AllFinite price := finite_of_required hproper hfields hprice
    exact hfinite

instance : Floats Item := ⟨fun item => floats item.price⟩

instance : ReadsBack Item where
  decode_encode _ item hfinite := by
    have hprice : AllFinite item.price := hfinite
    refine bind_eq_some rfl ?_
    refine bind_eq_some (required_eq_some rfl (allFinite item.row)) ?_
    refine bind_eq_some (optional_eq_some rfl (allFinite item.sku)) ?_
    refine bind_eq_some (optional_eq_some rfl (allFinite item.isbn)) ?_
    refine bind_eq_some (required_eq_some rfl (allFinite item.title)) ?_
    refine bind_eq_some (required_eq_some rfl (allFinite item.author)) ?_
    refine bind_eq_some (required_eq_some rfl (allFinite item.publisher)) ?_
    refine bind_eq_some (required_eq_some rfl hprice) ?_
    refine bind_eq_some (required_eq_some rfl (allFinite item.stock)) ?_
    rfl
  finite_of_decode hproper hdecode := by
    obtain ⟨fields, hfields, hdecode⟩ := Option.bind_eq_some_iff.mp hdecode
    simp only [Option.bind_eq_bind, Option.bind_eq_some_iff] at hdecode
    obtain ⟨row, -, sku, -, isbn, -, title, -, author, -, publisher, -, price, hprice, stock, -,
      hitem⟩ := hdecode
    cases hitem
    have hfinite : AllFinite price := finite_of_required hproper hfields hprice
    exact hfinite

/-! ## Rows, suppliers and errors -/

instance : Floats RawRow := ⟨fun _ => []⟩

instance : NoFloats RawRow := ⟨fun _ => rfl⟩

instance : ReadsBack RawRow where
  decode_encode _ raw _ := by
    refine bind_eq_some rfl ?_
    refine bind_eq_some (required_eq_some rfl (allFinite raw.row)) ?_
    refine bind_eq_some (withDefault_eq_some rfl (allFinite raw.sku)) ?_
    refine bind_eq_some (withDefault_eq_some rfl (allFinite raw.isbn)) ?_
    refine bind_eq_some (withDefault_eq_some rfl (allFinite raw.title)) ?_
    refine bind_eq_some (withDefault_eq_some rfl (allFinite raw.author)) ?_
    refine bind_eq_some (withDefault_eq_some rfl (allFinite raw.publisher)) ?_
    refine bind_eq_some (withDefault_eq_some rfl (allFinite raw.price)) ?_
    refine bind_eq_some (withDefault_eq_some rfl (allFinite raw.currency)) ?_
    refine bind_eq_some (withDefault_eq_some rfl (allFinite raw.stock)) ?_
    rfl
  finite_of_decode _ _ := allFinite _

instance : Floats SupplierProfile := ⟨fun _ => []⟩

instance : NoFloats SupplierProfile := ⟨fun _ => rfl⟩

instance : ReadsBack SupplierProfile where
  decode_encode _ profile _ := by
    refine bind_eq_some rfl ?_
    refine bind_eq_some (required_eq_some rfl (allFinite profile.code)) ?_
    refine bind_eq_some (withDefault_eq_some rfl (allFinite profile.name)) ?_
    refine bind_eq_some (withDefault_eq_some rfl (allFinite profile.defaultCurrency)) ?_
    refine bind_eq_some (required_eq_some rfl (allFinite profile.columns)) ?_
    rfl
  finite_of_decode _ _ := allFinite _

instance : Floats RowError := ⟨fun _ => []⟩

instance : NoFloats RowError := ⟨fun _ => rfl⟩

instance : ReadsBack RowError where
  decode_encode _ e _ := by
    refine bind_eq_some rfl ?_
    refine bind_eq_some (required_eq_some rfl (allFinite e.row)) ?_
    refine bind_eq_some (required_eq_some rfl (allFinite e.kind)) ?_
    refine bind_eq_some (required_eq_some rfl (allFinite e.message)) ?_
    rfl
  finite_of_decode _ _ := allFinite _

end Repricing
