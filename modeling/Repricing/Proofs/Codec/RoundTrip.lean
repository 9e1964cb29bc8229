import Mathlib.Data.List.Basic
import Repricing.Json.Codec
import Repricing.Proofs.Float.Finite

/-!
# Reading what was written

A type reads back when every value of it whose doubles are finite is read from its own JSON form,
and when a JSON value is never read as one with other doubles.  Both carry over to lists, maps,
missing values and the fields of records.
-/

namespace Repricing.Json

/-! ## JSON values and doubles -/

/-- The values that JSON texts stand for: whole numbers have 64 bits, other numbers are finite. -/
inductive Proper : Json → Prop where
  | null : Proper .null
  | bool (b : Bool) : Proper (.bool b)
  | int {n : Int} (hlower : -2 ^ 63 ≤ n) (hupper : n < 2 ^ 64) : Proper (.int n)
  | float {x : Float} (hfinite : x.isFinite = true) : Proper (.float x)
  | str (s : String) : Proper (.str s)
  | arr {items : List Json} (hitems : ∀ item ∈ items, Proper item) : Proper (.arr items)
  | obj {entries : List (String × Json)} (hentries : ∀ entry ∈ entries, Proper entry.2) :
      Proper (.obj entries)

/-- Types whose values may hold doubles. -/
class Floats (α : Type) where
  floats : α → List Float

export Floats (floats)

/-- Whether all doubles of a value are finite. -/
def AllFinite {α : Type} [Floats α] (a : α) : Prop :=
  ∀ x ∈ floats a, x.isFinite = true

instance {α : Type} [Floats α] (a : α) : Decidable (AllFinite a) :=
  inferInstanceAs (Decidable (∀ x ∈ floats a, x.isFinite = true))

instance : Floats Bool := ⟨fun _ => []⟩

instance : Floats String := ⟨fun _ => []⟩

instance : Floats UInt64 := ⟨fun _ => []⟩

instance : Floats UInt32 := ⟨fun _ => []⟩

instance : Floats Int32 := ⟨fun _ => []⟩

instance : Floats Float := ⟨fun x => [x]⟩

instance {α : Type} [Floats α] : Floats (Option α) := ⟨fun o => o.toList.flatMap floats⟩

instance {α : Type} [Floats α] : Floats (List α) := ⟨fun as => as.flatMap floats⟩

instance {α : Type} [Floats α] : Floats (Std.ExtTreeMap String α) :=
  ⟨fun map => map.toList.flatMap fun entry => floats entry.2⟩

/-- Types whose values hold no doubles. -/
class NoFloats (α : Type) [Floats α] : Prop where
  floats_eq_nil (a : α) : floats a = []

theorem allFinite {α : Type} [Floats α] [NoFloats α] (a : α) : AllFinite a := by
  intro x hx
  rw [NoFloats.floats_eq_nil] at hx
  cases hx

instance : NoFloats Bool := ⟨fun _ => rfl⟩

instance : NoFloats String := ⟨fun _ => rfl⟩

instance : NoFloats UInt64 := ⟨fun _ => rfl⟩

instance : NoFloats UInt32 := ⟨fun _ => rfl⟩

instance : NoFloats Int32 := ⟨fun _ => rfl⟩

instance {α : Type} [Floats α] [NoFloats α] : NoFloats (Option α) :=
  ⟨fun _ => List.flatMap_eq_nil_iff.mpr fun a _ => NoFloats.floats_eq_nil a⟩

instance {α : Type} [Floats α] [NoFloats α] : NoFloats (List α) :=
  ⟨fun _ => List.flatMap_eq_nil_iff.mpr fun a _ => NoFloats.floats_eq_nil a⟩

instance {α : Type} [Floats α] [NoFloats α] : NoFloats (Std.ExtTreeMap String α) :=
  ⟨fun _ => List.flatMap_eq_nil_iff.mpr fun entry _ => NoFloats.floats_eq_nil entry.2⟩

/-! ## Types that read back -/

/-- Types whose values are read as they were written. -/
class ReadsBack (α : Type) [Encode α] [Decode α] [Floats α] : Prop where
  decode_encode (surplus : Surplus) {a : α} (hfinite : AllFinite a) :
    Decode.decode? surplus (encode a) = some a
  finite_of_decode {surplus : Surplus} {v : Json} {a : α} (hproper : v.Proper)
    (hdecode : Decode.decode? surplus v = some a) : AllFinite a

export ReadsBack (decode_encode finite_of_decode)

/-- Types of which `null` is no value. -/
class NotNull (α : Type) [Decode α] : Prop where
  decode_null (surplus : Surplus) : (Decode.decode? surplus .null : Option α) = none

instance : ReadsBack Bool where
  decode_encode _ _ _ := rfl
  finite_of_decode _ _ := allFinite _

instance : ReadsBack String where
  decode_encode _ _ _ := rfl
  finite_of_decode _ _ := allFinite _

instance : NotNull String := ⟨fun _ => rfl⟩

instance : ReadsBack UInt64 where
  decode_encode _ n _ := by
    have hlt : (n.toNat : Int) < UInt64.size := Int.ofNat_lt.mpr n.toNat_lt
    refine (if_pos ⟨Int.natCast_nonneg _, hlt⟩).trans ?_
    rw [Int.toNat_natCast, UInt64.ofNat_toNat]
  finite_of_decode _ _ := allFinite _

instance : NotNull UInt64 := ⟨fun _ => rfl⟩

instance : ReadsBack UInt32 where
  decode_encode _ n _ := by
    have hlt : (n.toNat : Int) < UInt32.size := Int.ofNat_lt.mpr n.toNat_lt
    refine (if_pos ⟨Int.natCast_nonneg _, hlt⟩).trans ?_
    rw [Int.toNat_natCast, UInt32.ofNat_toNat]
  finite_of_decode _ _ := allFinite _

instance : ReadsBack Int32 where
  decode_encode _ n _ := by
    refine (if_pos ⟨Int32.minValue_le_toInt n, Int32.toInt_le n⟩).trans ?_
    rw [Int32.ofInt_toInt]
  finite_of_decode _ _ := allFinite _

instance : NotNull Int32 := ⟨fun _ => rfl⟩

instance : ReadsBack Float where
  decode_encode _ x hfinite := by
    have hx : x.isFinite = true := hfinite x List.mem_cons_self
    change Decode.decode? _ (if x.isFinite then Json.float x else .null) = _
    rw [if_pos hx]
    rfl
  finite_of_decode {surplus v x} hproper hdecode y hy := by
    obtain rfl := List.mem_singleton.mp hy
    cases hproper with
    | int hlower hupper =>
        cases hdecode
        exact isFinite_ofInt hlower hupper
    | float hfinite =>
        cases hdecode
        exact hfinite
    | null | bool | str | arr | obj => cases hdecode

section Containers

variable {α : Type}

/-! ## Missing values -/

theorem allFinite_some [Floats α] {a : α} : AllFinite (some a) ↔ AllFinite a := by
  simp [AllFinite, floats]

/-- What is no `null` is not written as `null` either. -/
theorem encode_ne_null [Encode α] [Decode α] [Floats α] [ReadsBack α] [NotNull α] {a : α}
    (hfinite : AllFinite a) : encode a ≠ .null := by
  intro hnull
  have hback := decode_encode .refused hfinite
  rw [hnull, NotNull.decode_null] at hback
  cases hback

theorem decode_option_of_ne_null [Decode α] {surplus : Surplus} {v : Json} (hv : v ≠ .null) :
    (Decode.decode? surplus v : Option (Option α)) = (Decode.decode? surplus v).map some := by
  cases v with
  | null => exact absurd rfl hv
  | bool | int | float | str | arr | obj => rfl

instance [Encode α] [Decode α] [Floats α] [ReadsBack α] [NotNull α] : ReadsBack (Option α) where
  decode_encode surplus o hfinite := by
    cases o with
    | none => rfl
    | some a =>
        have ha := allFinite_some.mp hfinite
        change Decode.decode? surplus (encode a) = _
        rw [decode_option_of_ne_null (encode_ne_null ha), decode_encode surplus ha, Option.map_some]
  finite_of_decode {surplus v o} hproper hdecode := by
    cases o with
    | none =>
        intro x hx
        cases hx
    | some a =>
        have hv : v ≠ .null := by
          rintro rfl
          cases hdecode
        rw [decode_option_of_ne_null hv, Option.map_eq_some_iff] at hdecode
        obtain ⟨b, hb, heq⟩ := hdecode
        cases heq
        exact allFinite_some.mpr (finite_of_decode hproper hb)

/-! ## Lists -/

theorem mapM_eq_some_iff {β γ : Type} {f : β → Option γ} {bs : List β} {cs : List γ} :
    bs.mapM f = some cs ↔ bs.map f = cs.map some := by
  induction bs generalizing cs with
  | nil => cases cs <;> simp
  | cons b rest ih =>
      cases cs with
      | nil => simp [Option.bind_eq_some_iff]
      | cons c others => simp [Option.bind_eq_some_iff, ih]

theorem exists_mem_of_mapM_eq_some {β γ : Type} {f : β → Option γ} {bs : List β} {cs : List γ}
    (hmap : bs.mapM f = some cs) {c : γ} (hc : c ∈ cs) : ∃ b ∈ bs, f b = some c := by
  have hmem : some c ∈ bs.map f := by
    rw [mapM_eq_some_iff.mp hmap]
    exact List.mem_map_of_mem hc
  exact List.mem_map.mp hmem

theorem allFinite_list [Floats α] {as : List α} : AllFinite as ↔ ∀ a ∈ as, AllFinite a := by
  simp only [AllFinite, floats, List.mem_flatMap]
  constructor
  · intro hall a ha x hx
    exact hall x ⟨a, ha, hx⟩
  · rintro hall x ⟨a, ha, hx⟩
    exact hall a ha x hx

instance [Encode α] [Decode α] [Floats α] [ReadsBack α] : ReadsBack (List α) where
  decode_encode surplus as hfinite := by
    change (as.map encode).mapM (Decode.decode? surplus) = some as
    rw [mapM_eq_some_iff, List.map_map]
    apply List.map_congr_left
    intro a ha
    exact decode_encode surplus (allFinite_list.mp hfinite a ha)
  finite_of_decode {surplus v as} hproper hdecode := by
    cases hproper with
    | arr hitems =>
        rw [allFinite_list]
        intro a ha
        obtain ⟨item, hitem, hread⟩ := exists_mem_of_mapM_eq_some hdecode ha
        exact finite_of_decode (hitems item hitem) hread
    | null | bool | int | float | str | obj => cases hdecode

/-! ## Maps -/

/-- Maps are among the types with a JSON form. -/
instance [Encode α] : Encode (Std.ExtTreeMap String α) := ⟨encodeMap⟩

theorem allFinite_map [Floats α] {map : Std.ExtTreeMap String α} :
    AllFinite map ↔ ∀ (key : String) (a : α), map[key]? = some a → AllFinite a := by
  simp only [AllFinite, floats, List.mem_flatMap]
  constructor
  · intro hall key a ha x hx
    exact hall x ⟨(key, a), Std.ExtTreeMap.mem_toList_iff_getElem?_eq_some.mpr ha, hx⟩
  · rintro hall x ⟨⟨key, a⟩, ha, hx⟩
    exact hall key a (Std.ExtTreeMap.mem_toList_iff_getElem?_eq_some.mp ha) x hx

theorem allFinite_empty [Floats α] : AllFinite (∅ : Std.ExtTreeMap String α) := by
  rw [allFinite_map]
  intro key a ha
  rw [Std.ExtTreeMap.getElem?_empty] at ha
  cases ha

/-- The entries of a map make up the map. -/
theorem ofList_toList (map : Std.ExtTreeMap String α) :
    Std.ExtTreeMap.ofList map.toList = map := by
  apply Std.ExtTreeMap.ext_getElem?
  intro key
  cases hkey : map[key]? with
  | some a =>
      exact Std.ExtTreeMap.getElem?_ofList_of_mem Std.ReflCmp.compare_self map.distinct_keys_toList
        (Std.ExtTreeMap.mem_toList_iff_getElem?_eq_some.mpr hkey)
  | none =>
      apply Std.ExtTreeMap.getElem?_ofList_of_contains_eq_false
      rw [Std.ExtTreeMap.map_fst_toList_eq_keys, Std.ExtTreeMap.contains_keys,
        ← Std.ExtTreeMap.isSome_getElem?_eq_contains, hkey, Option.isSome_none]

/-- What a map holds after entries were added is one of them or was there before. -/
theorem mem_of_getElem?_insertMany {map : Std.ExtTreeMap String α} {pairs : List (String × α)}
    {key : String} {a : α} (ha : (map.insertMany pairs)[key]? = some a) :
    (key, a) ∈ pairs ∨ map[key]? = some a := by
  induction pairs generalizing map with
  | nil =>
      rw [Std.ExtTreeMap.insertMany_nil] at ha
      exact .inr ha
  | cons pair rest ih =>
      rw [Std.ExtTreeMap.insertMany_cons] at ha
      rcases ih ha with hrest | hhead
      · exact .inl (List.mem_cons_of_mem _ hrest)
      · rw [Std.ExtTreeMap.getElem?_insert] at hhead
        split at hhead
        · next hkey =>
            obtain rfl := Option.some_inj.mp hhead
            obtain rfl := Std.LawfulEqOrd.eq_of_compare hkey
            exact .inl List.mem_cons_self
        · exact .inr hhead

theorem mem_of_getElem?_ofList {pairs : List (String × α)} {key : String} {a : α}
    (ha : (Std.ExtTreeMap.ofList pairs)[key]? = some a) : (key, a) ∈ pairs := by
  rw [Std.ExtTreeMap.ofList_eq_insertMany_empty] at ha
  rcases mem_of_getElem?_insertMany ha with hmem | hnone
  · exact hmem
  · rw [Std.ExtTreeMap.getElem?_empty] at hnone
    cases hnone

instance [Encode α] [Decode α] [Floats α] [ReadsBack α] :
    ReadsBack (Std.ExtTreeMap String α) where
  decode_encode surplus map hfinite := by
    have hpairs : (map.toList.map fun (key, a) => (key, encode a)).mapM (decodeBinding? surplus) =
        some map.toList := by
      rw [mapM_eq_some_iff, List.map_map]
      apply List.map_congr_left
      rintro ⟨key, a⟩ hmem
      have ha := allFinite_map.mp hfinite key a
        (Std.ExtTreeMap.mem_toList_iff_getElem?_eq_some.mp hmem)
      change (Decode.decode? surplus (encode a)).map (fun a => (key, a)) = some (key, a)
      rw [decode_encode surplus ha, Option.map_some]
    change ((map.toList.map fun (key, a) => (key, encode a)).mapM (decodeBinding? surplus)).map
      (fun pairs => Std.ExtTreeMap.ofList pairs) = some map
    rw [hpairs, Option.map_some, ofList_toList]
  finite_of_decode {surplus v map} hproper hdecode := by
    cases hproper with
    | obj hentries =>
        obtain ⟨pairs, hpairs, rfl⟩ := Option.map_eq_some_iff.mp hdecode
        rw [allFinite_map]
        intro key a ha
        obtain ⟨entry, hentry, hread⟩ :=
          exists_mem_of_mapM_eq_some hpairs (mem_of_getElem?_ofList ha)
        obtain ⟨b, hb, heq⟩ := Option.map_eq_some_iff.mp hread
        cases heq
        exact finite_of_decode (hentries entry hentry) hb
    | null | bool | int | float | str | arr => cases hdecode

end Containers

/-! ## Fields of records -/

/-- One step of reading a record. -/
theorem bind_eq_some {α β : Type} {field : Option α} {rest : α → Option β} {a : α} {b : β}
    (hfield : field = some a) (hrest : rest a = some b) : field.bind rest = some b := by
  rw [hfield, Option.bind_some, hrest]

namespace Fields

variable {α : Type} {fields : Fields} {name : String} {a : α}

section Written

variable [Encode α] [Decode α] [Floats α] [ReadsBack α]

theorem required_eq_some (hget : fields.get? name = some (encode a)) (hfinite : AllFinite a) :
    fields.required name = some a := by
  rw [required, hget, Option.bind_some, decode_encode fields.surplus hfinite]

theorem withDefault_eq_some {standard : α} (hget : fields.get? name = some (encode a))
    (hfinite : AllFinite a) :
    fields.withDefault name standard = some a := by
  rw [withDefault, hget]
  exact decode_encode fields.surplus hfinite

theorem optional_eq_some [NotNull α] {o : Option α} (hget : fields.get? name = some (encode o))
    (hfinite : AllFinite o) :
    fields.optional name = some o := by
  rw [optional, hget]
  exact decode_encode fields.surplus hfinite

end Written

section Read

variable {names : List String} {surplus : Surplus} {v : Json}

theorem proper_of_get? {w : Json} (hproper : v.Proper)
    (hfields : fields? names surplus v = some fields) (hget : fields.get? name = some w) :
    w.Proper := by
  cases hproper with
  | obj hentries =>
      cases hfields
      obtain ⟨before, after, hsplit, -⟩ := List.lookup_eq_some_iff.mp hget
      exact hentries (name, w) (by rw [hsplit]; simp)
  | arr hitems =>
      rw [fields?] at hfields
      split at hfields
      · cases hfields
      · cases hfields
        obtain ⟨before, after, hsplit, -⟩ := List.lookup_eq_some_iff.mp hget
        exact hitems w (List.of_mem_zip (a := name) (by rw [hsplit]; simp)).2
  | null | bool | int | float | str => cases hfields

variable [Encode α] [Decode α] [Floats α] [ReadsBack α]

theorem finite_of_required (hproper : v.Proper) (hfields : fields? names surplus v = some fields)
    (hread : fields.required name = some a) :
    AllFinite a := by
  obtain ⟨w, hget, hdecode⟩ := Option.bind_eq_some_iff.mp hread
  exact finite_of_decode (proper_of_get? hproper hfields hget) hdecode

theorem finite_of_withDefault {standard : α} (hproper : v.Proper)
    (hfields : fields? names surplus v = some fields) (hstandard : AllFinite standard)
    (hread : fields.withDefault name standard = some a) :
    AllFinite a := by
  rw [withDefault] at hread
  split at hread
  · cases hread
    exact hstandard
  · next w hget => exact finite_of_decode (proper_of_get? hproper hfields hget) hread

end Read

end Fields

end Repricing.Json
