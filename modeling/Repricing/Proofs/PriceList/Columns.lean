import Mathlib.Data.List.Induction
import Mathlib.Data.List.Nodup
import Repricing.PriceList.Supplier
import Repricing.Proofs.Text.Blank

/-!
# Columns of price lists

A profile is accepted if each of its columns has a header and a field of its own, and if they carry
a price and something to find an entry by.  Then a field of a row is the value of the last cell
under the header of its column.  The headers of a profile are told apart by the same keys by which
the cells are looked up, so no cell under such a header is lost.
-/

namespace Repricing

/-! ## Fields of rows -/

namespace RawRow

/-- What a row has in a field. -/
def get? (raw : RawRow) : PriceField → Option String
  | .sku => raw.sku
  | .isbn => raw.isbn
  | .title => raw.title
  | .author => raw.author
  | .publisher => raw.publisher
  | .price => raw.price
  | .currency => raw.currency
  | .stock => raw.stock

theorem get?_blank (row : UInt64) (field : PriceField) : (blank row).get? field = none := by
  cases field <;> rfl

theorem get?_set (raw : RawRow) (field other : PriceField) (value : String) :
    (raw.set field value).get? other = if field = other then some value else raw.get? other := by
  cases field <;> cases other <;> rfl

theorem row_set (raw : RawRow) (field : PriceField) (value : String) :
    (raw.set field value).row = raw.row := by
  cases field <;> rfl

/-- A row is its number and its fields. -/
theorem ext_get?
    {raw other : RawRow} (hrow : raw.row = other.row)
    (hfields : ∀ field, raw.get? field = other.get? field) :
    raw = other := by
  cases raw
  cases other
  obtain rfl := hrow
  obtain rfl := hfields .sku
  obtain rfl := hfields .isbn
  obtain rfl := hfields .title
  obtain rfl := hfields .author
  obtain rfl := hfields .publisher
  obtain rfl := hfields .price
  obtain rfl := hfields .currency
  obtain rfl := hfields .stock
  rfl

end RawRow

/-! ## Lookup among different keys -/

theorem lookup_eq_some_iff_mem
    {α β : Type} [DecidableEq α] {entries : List (α × β)} {key : α} {value : β}
    (hdistinct : (entries.map (·.1)).Nodup) :
    entries.lookup key = some value ↔ (key, value) ∈ entries := by
  rw [List.lookup_eq_some_iff]
  constructor
  · rintro ⟨before, after, rfl, -⟩
    exact List.mem_append_right _ List.mem_cons_self
  · intro hmem
    obtain ⟨before, after, rfl⟩ := List.append_of_mem hmem
    refine ⟨before, after, rfl, ?_⟩
    intro entry hentry
    rw [List.map_append, List.map_cons, List.nodup_append] at hdistinct
    have hne := hdistinct.2.2 entry.1 (List.mem_map_of_mem hentry) key List.mem_cons_self
    exact bne_iff_ne.mpr hne.symm

namespace Record

/-- The last value of a record under a header that is compared by `key`. -/
def valueUnder? (record : Record) (key : String) : Option String :=
  (record.map fun cell => (headerKey cell.1, cell.2)).reverse.lookup key

/-- No two cells of a record have headers that are compared alike. -/
def HasDistinctHeaders (record : Record) : Prop :=
  (record.map fun cell => headerKey cell.1).Nodup

theorem valueUnder?_concat (record : Record) (cell : String × String) (key : String) :
    valueUnder? (record ++ [cell]) key =
      if headerKey cell.1 = key then some cell.2 else record.valueUnder? key := by
  rw [valueUnder?, List.map_append, List.reverse_append, List.map_singleton, List.reverse_singleton,
    List.singleton_append, List.lookup_cons]
  by_cases hkey : headerKey cell.1 = key
  · simp [hkey]
  · simp [hkey, beq_false_of_ne (Ne.symm hkey), valueUnder?]

/-- If no two cells have one header, every cell is found under its header. -/
theorem valueUnder?_eq_some_iff
    {record : Record} {key value : String} (hdistinct : record.HasDistinctHeaders) :
    record.valueUnder? key = some value ↔
      ∃ cell ∈ record, headerKey cell.1 = key ∧ cell.2 = value := by
  rw [valueUnder?, lookup_eq_some_iff_mem, List.mem_reverse, List.mem_map]
  · simp only [Prod.mk.injEq]
  · rw [List.map_reverse, List.nodup_reverse, List.map_map]
    exact hdistinct

end Record

/-! ## Accepted profiles -/

namespace SupplierProfile

variable {profile : SupplierProfile}

/-- Rows can be imported under a profile that has a code, whose columns differ in their headers and
in their fields, and among whose fields are the price and the title or the ISBN. -/
structure Importable (profile : SupplierProfile) : Prop where
  code : ∃ c ∈ profile.code.toList, Text.isBlank c = false
  headers : ∀ (header other : String) (field field' : PriceField),
    profile.columns[header]? = some field → profile.columns[other]? = some field' →
      headerKey header = headerKey other → header = other
  fields : ∀ (header other : String) (field : PriceField),
    profile.columns[header]? = some field → profile.columns[other]? = some field →
      header = other
  price : ∃ header : String, profile.columns[header]? = some .price
  key : ∃ header : String,
    profile.columns[header]? = some .title ∨ profile.columns[header]? = some .isbn

theorem firstClash?_eq_none_iff
    {supplier : String} {headers : List String} {fields : List PriceField}
    {columns : List (String × PriceField)} :
    firstClash? supplier headers fields columns = none ↔
      ((columns.map fun column => headerKey column.1).Nodup ∧
        (columns.map fun column => headerKey column.1).Disjoint headers) ∧
      (columns.map (·.2)).Nodup ∧ (columns.map (·.2)).Disjoint fields := by
  induction columns generalizing headers fields with
  | nil => simp [firstClash?]
  | cons column rest ih =>
      rw [firstClash?]
      by_cases hheader : headerKey column.1 ∈ headers
      · simp [hheader]
      · by_cases hfield : column.2 ∈ fields
        · simp [hfield, hheader]
        · simp [hfield, hheader, ih]
          tauto

theorem carries_eq_true_iff {field : PriceField} :
    profile.carries field = true ↔ ∃ header : String, profile.columns[header]? = some field := by
  simp [carries, Std.ExtTreeMap.mem_toList_iff_getElem?_eq_some]

/-- Columns are one for each header that there is. -/
theorem mem_columns {header : String} {field : PriceField} :
    (header, field) ∈ profile.columns.toList ↔ profile.columns[header]? = some field :=
  Std.ExtTreeMap.mem_toList_iff_getElem?_eq_some

theorem nodup_columns (profile : SupplierProfile) : profile.columns.toList.Nodup := by
  apply (Std.ExtTreeMap.distinct_keys_toList (t := profile.columns)).imp
  rintro column other hkeys rfl
  exact hkeys Std.ReflCmp.compare_self

theorem nodup_headers_iff :
    (profile.columns.toList.map fun column => headerKey column.1).Nodup ↔
      ∀ (header other : String) (field field' : PriceField),
        profile.columns[header]? = some field → profile.columns[other]? = some field' →
          headerKey header = headerKey other → header = other := by
  rw [List.nodup_map_iff_inj_on profile.nodup_columns]
  constructor
  · intro hinj header other field field' hheader hother hkey
    exact congrArg Prod.fst (hinj _ (mem_columns.mpr hheader) _ (mem_columns.mpr hother) hkey)
  · rintro hheaders ⟨header, field⟩ hmem ⟨other, field'⟩ hmem' hkey
    have hheader := mem_columns.mp hmem
    have hother := mem_columns.mp hmem'
    obtain rfl := hheaders header other field field' hheader hother hkey
    obtain rfl := Option.some.inj (hheader.symm.trans hother)
    rfl

theorem nodup_fields_iff :
    (profile.columns.toList.map (·.2)).Nodup ↔
      ∀ (header other : String) (field : PriceField),
        profile.columns[header]? = some field → profile.columns[other]? = some field →
          header = other := by
  rw [List.nodup_map_iff_inj_on profile.nodup_columns]
  constructor
  · intro hinj header other field hheader hother
    exact congrArg Prod.fst (hinj _ (mem_columns.mpr hheader) _ (mem_columns.mpr hother) rfl)
  · rintro hfields ⟨header, field⟩ hmem ⟨other, _⟩ hmem' rfl
    obtain rfl := hfields header other field (mem_columns.mp hmem) (mem_columns.mp hmem')
    rfl

theorem validate_eq_ok_iff_checks :
    profile.validate = .ok () ↔
      Text.trim profile.code ≠ "" ∧ firstClash? profile.code [] [] profile.columns.toList = none ∧
        profile.carries .price = true ∧
        (profile.carries .title = true ∨ profile.carries .isbn = true) := by
  unfold validate
  by_cases hcode : Text.trim profile.code = ""
  · simp [hcode]
  · rw [if_neg hcode]
    cases firstClash? profile.code [] [] profile.columns.toList with
    | some fault => simp
    | none =>
        cases profile.carries .price <;> cases profile.carries .title <;>
          cases profile.carries .isbn <;> simp [hcode]

/-- A profile is accepted if rows can be imported under it, and only then. -/
theorem validate_eq_ok_iff : profile.validate = .ok () ↔ profile.Importable := by
  have hcode : Text.trim profile.code ≠ "" ↔ ∃ c ∈ profile.code.toList, Text.isBlank c = false := by
    simp [Text.trim_eq_empty_iff]
  have hclash : firstClash? profile.code [] [] profile.columns.toList = none ↔
      (profile.columns.toList.map fun column => headerKey column.1).Nodup ∧
        (profile.columns.toList.map (·.2)).Nodup := by
    simp [firstClash?_eq_none_iff]
  rw [validate_eq_ok_iff_checks, hcode, hclash, nodup_headers_iff, nodup_fields_iff,
    carries_eq_true_iff, carries_eq_true_iff, carries_eq_true_iff, ← exists_or]
  constructor
  · rintro ⟨hnamed, ⟨hheaders, hfields⟩, hprice, hkey⟩
    exact ⟨hnamed, hheaders, hfields, hprice, hkey⟩
  · rintro ⟨hnamed, hheaders, hfields, hprice, hkey⟩
    exact ⟨hnamed, ⟨hheaders, hfields⟩, hprice, hkey⟩

/-! ## Rows of records -/

/-- The field of a header is that of the column under a header that is compared alike. -/
theorem lookup_fieldsByKey (himportable : profile.Importable) {key : String} {field : PriceField} :
    profile.fieldsByKey.lookup key = some field ↔
      ∃ header, profile.columns[header]? = some field ∧ headerKey header = key := by
  have hdistinct : (profile.fieldsByKey.map (·.1)).Nodup := by
    rw [fieldsByKey, List.map_reverse, List.nodup_reverse, List.map_map]
    exact nodup_headers_iff.mpr himportable.headers
  rw [lookup_eq_some_iff_mem hdistinct, fieldsByKey, List.mem_reverse, List.mem_map]
  constructor
  · rintro ⟨⟨header, _⟩, hcolumn, heq⟩
    obtain ⟨hkey, rfl⟩ := Prod.mk.inj heq
    exact ⟨header, mem_columns.mp hcolumn, hkey⟩
  · rintro ⟨header, hcolumn, rfl⟩
    exact ⟨(header, field), mem_columns.mpr hcolumn, rfl⟩

variable (profile) (row : UInt64)

/-- A further cell fills the field of its header, if that has one. -/
theorem get?_mapRow_concat (record : Record) (cell : String × String) (field : PriceField) :
    (profile.mapRow row (record ++ [cell])).get? field =
      if profile.fieldsByKey.lookup (headerKey cell.1) = some field then some cell.2
      else (profile.mapRow row record).get? field := by
  simp only [mapRow, List.foldl_append, List.foldl_cons, List.foldl_nil]
  cases profile.fieldsByKey.lookup (headerKey cell.1) with
  | none => rfl
  | some other => simp only [RawRow.get?_set, Option.some.injEq]

theorem row_mapRow (record : Record) : (profile.mapRow row record).row = row := by
  unfold mapRow
  dsimp only
  induction record using List.reverseRecOn with
  | nil => rfl
  | append_singleton record cell ih =>
      rw [List.foldl_append, List.foldl_cons, List.foldl_nil]
      split
      · rw [RawRow.row_set, ih]
      · exact ih

/-- What a profile makes of the cells of a record. -/
structure Reads (profile : SupplierProfile) (record : Record) (raw : RawRow) : Prop where
  mapped : ∀ (header : String) (field : PriceField), profile.columns[header]? = some field →
    raw.get? field = record.valueUnder? (headerKey header)
  unmapped : ∀ field : PriceField, (∀ header : String, profile.columns[header]? ≠ some field) →
    raw.get? field = none

variable {profile}

theorem reads_mapRow (himportable : profile.Importable) (record : Record) :
    profile.Reads record (profile.mapRow row record) := by
  constructor
  · intro header field hcolumn
    induction record using List.reverseRecOn with
    | nil => exact RawRow.get?_blank row field
    | append_singleton record cell ih =>
        have hlookup : profile.fieldsByKey.lookup (headerKey cell.1) = some field ↔
            headerKey cell.1 = headerKey header := by
          rw [lookup_fieldsByKey himportable]
          constructor
          · rintro ⟨other, hother, hkey⟩
            rw [himportable.fields header other field hcolumn hother, hkey]
          · intro hkey
            exact ⟨header, hcolumn, hkey.symm⟩
        rw [get?_mapRow_concat, Record.valueUnder?_concat, ih]
        simp only [hlookup]
  · intro field hunmapped
    induction record using List.reverseRecOn with
    | nil => exact RawRow.get?_blank row field
    | append_singleton record cell ih =>
        rw [get?_mapRow_concat, if_neg, ih]
        intro hlookup
        obtain ⟨header, hcolumn, -⟩ := (lookup_fieldsByKey himportable).mp hlookup
        exact hunmapped header hcolumn

/-- No cell under the header of a column is lost if no two cells have one header. -/
theorem get?_mapRow_of_mem
    (himportable : profile.Importable) {record : Record} {cell : String × String}
    {header : String} {field : PriceField}
    (hdistinct : record.HasDistinctHeaders) (hcell : cell ∈ record)
    (hcolumn : profile.columns[header]? = some field)
    (hkey : headerKey cell.1 = headerKey header) :
    (profile.mapRow row record).get? field = some cell.2 := by
  rw [(reads_mapRow row himportable record).mapped header field hcolumn,
    Record.valueUnder?_eq_some_iff hdistinct]
  exact ⟨cell, hcell, hkey, rfl⟩

/-- The order of cells does not count if no two of them have one header. -/
theorem mapRow_perm
    (himportable : profile.Importable) {record other : Record}
    (hdistinct : record.HasDistinctHeaders) (hperm : other.Perm record) :
    profile.mapRow row other = profile.mapRow row record := by
  have hdistinct' : other.HasDistinctHeaders := (hperm.map _).nodup_iff.mpr hdistinct
  have hvalue : ∀ key, other.valueUnder? key = record.valueUnder? key := by
    intro key
    ext value
    rw [Record.valueUnder?_eq_some_iff hdistinct, Record.valueUnder?_eq_some_iff hdistinct']
    simp only [hperm.mem_iff]
  apply RawRow.ext_get?
  · rw [row_mapRow, row_mapRow]
  · intro field
    by_cases hmapped : ∃ header : String, profile.columns[header]? = some field
    · obtain ⟨header, hcolumn⟩ := hmapped
      rw [(reads_mapRow row himportable other).mapped header field hcolumn,
        (reads_mapRow row himportable record).mapped header field hcolumn, hvalue]
    · have hunmapped := not_exists.mp hmapped
      rw [(reads_mapRow row himportable other).unmapped field hunmapped,
        (reads_mapRow row himportable record).unmapped field hunmapped]

end SupplierProfile

end Repricing
