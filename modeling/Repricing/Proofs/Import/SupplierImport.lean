import Repricing.Import.Supplier
import Repricing.Proofs.Import.Accepted
import Repricing.Proofs.PriceList.Columns

/-!
# Imports of suppliers' price lists

An import of a supplier's price list is an import of the rows that the supplier's profile makes of
the records.  If the profile is not accepted, nothing is imported.
-/

namespace Repricing

namespace SupplierProfile

/-- The row that a profile makes of a record.  If no two cells have one header, their order does
not count, and no cell under the header of a column is lost. -/
structure MapsTo (profile : SupplierProfile) (record : Record) (row : UInt64) (raw : RawRow) :
    Prop where
  numbered : raw.row = row
  reads : profile.Reads record raw
  order : record.HasDistinctHeaders →
    ∀ other : Record, other.Perm record → profile.mapRow row other = raw
  kept : record.HasDistinctHeaders →
    ∀ cell ∈ record, ∀ (header : String) (field : PriceField),
      profile.columns[header]? = some field → headerKey cell.1 = headerKey header →
        raw.get? field = some cell.2

variable {profile : SupplierProfile}

theorem mapsTo_mapRow (himportable : profile.Importable) (record : Record) (row : UInt64) :
    profile.MapsTo record row (profile.mapRow row record) := by
  constructor
  · exact profile.row_mapRow row record
  · exact reads_mapRow row himportable record
  · intro hdistinct other hperm
    exact mapRow_perm row himportable hdistinct hperm
  · intro hdistinct cell hcell header field hcolumn hkey
    exact get?_mapRow_of_mem row himportable hdistinct hcell hcolumn hkey

/-- The currency of a supplier takes the place of the one that stands in for currencies that are not
named. -/
theorem policyFor_eq (profile : SupplierProfile) (policy : ImportPolicy) :
    profile.policyFor policy =
      { policy with
        options.defaultCurrency :=
          profile.defaultCurrency.getD policy.options.defaultCurrency } := by
  unfold policyFor
  cases profile.defaultCurrency <;> rfl

end SupplierProfile

namespace CandidateIndex

/-- An import under an accepted profile is the import of the rows of the records, numbered from one.
A profile that is not accepted is refused, whatever there is to import. -/
theorem importSupplier_eq_importBatch
    (profile : SupplierProfile) (index : CandidateIndex) (policy : ImportPolicy) (cores : UInt64)
    (records : List Record) :
    (profile.validate = .ok () ↔ profile.Importable) ∧
    (profile.Importable →
      (∃ rows : List RawRow,
        index.importSupplier profile policy cores records =
          index.importBatch
            { policy with
              options.defaultCurrency :=
                profile.defaultCurrency.getD policy.options.defaultCurrency }
            cores .never rows ∧
        rows.length = records.length ∧
        ∀ (i : Nat) (record : Record), records[i]? = some record →
          ∃ raw, rows[i]? = some raw ∧ profile.MapsTo record (UInt64.ofNat (i + 1)) raw)) ∧
    (¬ profile.Importable →
      ∃ e, profile.validate = .error e ∧
        index.importSupplier profile policy cores records = .error e) := by
  refine ⟨SupplierProfile.validate_eq_ok_iff, ?_, ?_⟩
  · intro himportable
    refine ⟨profile.rows records, ?_, List.length_mapIdx, ?_⟩
    · rw [importSupplier, SupplierProfile.validate_eq_ok_iff.mpr himportable,
        SupplierProfile.policyFor_eq]
    · intro i record hrecord
      refine ⟨_, ?_, SupplierProfile.mapsTo_mapRow himportable record _⟩
      rw [SupplierProfile.rows, List.getElem?_mapIdx, hrecord, Option.map_some]
  · intro hrefused
    cases hvalid : profile.validate with
    | ok =>
        exact absurd (SupplierProfile.validate_eq_ok_iff.mp hvalid) hrefused
    | error e =>
        refine ⟨e, rfl, ?_⟩
        rw [importSupplier, hvalid]

/-- The euro. -/
def eur : Currency :=
  ⟨"EUR", by decide⟩

/-- A price list with headers in Russian, priced in euros. -/
def russianProfile : SupplierProfile :=
  { code := "books"
    name := "Books"
    defaultCurrency := some eur
    columns := .ofList [("ISBN", PriceField.isbn), (" Цена", .price)] }

/-- A record with a header in capitals, a price that is corrected by a later cell, and a comment. -/
def russianRecord : Record :=
  [("isbn", "9785699123456"), ("ЦЕНА ", "85"), ("Комментарий", "new"), ("цена", "12")]

/-- The price of the row is that of the last cell. -/
theorem importSupplier_eq_importBatch_sample :
    ∃ index raw,
      build sampleEntries 20 = .ok index ∧
      russianProfile.Importable ∧
      index.importSupplier russianProfile {} 4 [russianRecord] =
        index.importBatch { options := { defaultCurrency := eur } } 4 .never [raw] ∧
      raw.row = 1 ∧
      raw.get? .price = some "12" := by
  obtain ⟨index, hbuild⟩ := exists_build_sampleEntries
  obtain ⟨haccepted, himports, -⟩ :=
    importSupplier_eq_importBatch russianProfile index {} 4 [russianRecord]
  have himportable : russianProfile.Importable := haccepted.mp (by decide +kernel)
  obtain ⟨rows, himport, hlength, hrows⟩ := himports himportable
  obtain ⟨raw, hraw, hmaps⟩ := hrows 0 russianRecord rfl
  obtain ⟨_, rfl⟩ := List.length_eq_one_iff.mp hlength
  obtain rfl := Option.some.inj hraw
  refine ⟨index, _, hbuild, himportable, himport, hmaps.numbered, ?_⟩
  rw [hmaps.reads.mapped " Цена" .price (by decide +kernel)]
  decide +kernel

end CandidateIndex

end Repricing
