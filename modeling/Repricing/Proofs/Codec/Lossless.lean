import Repricing.Proofs.Codec.Records
import Repricing.Proofs.Json.Printer

/-!
# Types whose JSON form loses nothing

The JSON form of a value holds finite doubles only, since others are written as `null`. A type is
lossless when no two values of it have one form, as long as their own doubles are finite. Types
that read back are lossless, and so are lists and missing values of lossless types.
-/

namespace Repricing.Json

/-- Types of which different values have different JSON forms. -/
class Lossless (α : Type) [Encode α] [Floats α] : Prop where
  finiteFloats (a : α) : FiniteFloats (encode a)
  encode_inj {a b : α} (ha : AllFinite a) (hb : AllFinite b) (heq : encode a = encode b) : a = b

export Lossless (finiteFloats encode_inj)

variable {α : Type} [Encode α] [Floats α]

/-- What is read back is told from all other values. -/
theorem eq_of_encode_eq [Decode α] [ReadsBack α] {a b : α} (ha : AllFinite a) (hb : AllFinite b)
    (heq : encode a = encode b) : a = b := by
  have hread := decode_encode .refused ha
  rw [heq, decode_encode .refused hb] at hread
  exact (Option.some.inj hread).symm

instance : Floats Nat := ⟨fun _ => []⟩

instance : NoFloats Nat := ⟨fun _ => rfl⟩

instance : NotNull Float := ⟨fun _ => rfl⟩

instance : Lossless Bool := ⟨.bool, eq_of_encode_eq⟩

instance : Lossless String := ⟨.str, eq_of_encode_eq⟩

instance : Lossless UInt64 := ⟨fun _ => .int _, eq_of_encode_eq⟩

instance : Lossless UInt32 := ⟨fun _ => .int _, eq_of_encode_eq⟩

instance : Lossless Int32 := ⟨fun _ => .int _, eq_of_encode_eq⟩

instance : Lossless Nat where
  finiteFloats _ := .int _
  encode_inj _ _ heq := Int.ofNat.inj (Json.int.inj heq)

instance : Lossless Float where
  finiteFloats x := by
    change FiniteFloats (if x.isFinite then .float x else .null)
    split
    · next hfinite => exact .float hfinite
    · exact .null
  encode_inj := eq_of_encode_eq

instance [Decode α] [ReadsBack α] [NotNull α] [Lossless α] : Lossless (Option α) where
  finiteFloats
    | none => .null
    | some a => finiteFloats a
  encode_inj := eq_of_encode_eq

instance [Lossless α] : Lossless (List α) where
  finiteFloats as := by
    apply FiniteFloats.arr
    intro item hitem
    obtain ⟨a, -, rfl⟩ := List.mem_map.mp hitem
    exact finiteFloats a
  encode_inj {as bs} has hbs heq := by
    have hmap : as.map encode = bs.map encode := Json.arr.inj heq
    rw [allFinite_list] at has hbs
    induction as generalizing bs with
    | nil => exact (List.map_eq_nil_iff.mp hmap.symm).symm
    | cons a as ih =>
        obtain ⟨b, bs, rfl, hhead, htail⟩ := List.map_eq_cons_iff.mp hmap.symm
        obtain ⟨ha, has⟩ := List.forall_mem_cons.mp has
        obtain ⟨hb, hbs⟩ := List.forall_mem_cons.mp hbs
        rw [encode_inj ha hb hhead.symm, ih has hbs (congrArg Json.arr htail.symm) htail.symm]

end Repricing.Json

namespace Repricing

open Json (FiniteFloats Lossless eq_of_encode_eq finiteFloats)

instance : Lossless Currency := ⟨fun _ => .str _, eq_of_encode_eq⟩

instance : Lossless CatalogId := ⟨fun _ => .int _, eq_of_encode_eq⟩

instance : Lossless RowErrorKind := ⟨fun _ => .str _, eq_of_encode_eq⟩

instance : Lossless MatchField := ⟨fun _ => .str _, eq_of_encode_eq⟩

instance : Lossless Money where
  finiteFloats _ := .obj (by simp [finiteFloats])
  encode_inj := eq_of_encode_eq

instance : Lossless CatalogEntry where
  finiteFloats _ := .obj (by simp [finiteFloats])
  encode_inj := eq_of_encode_eq

instance : Lossless Item where
  finiteFloats _ := .obj (by simp [finiteFloats])
  encode_inj := eq_of_encode_eq

instance : Lossless RowError where
  finiteFloats _ := .obj (by simp [finiteFloats])
  encode_inj := eq_of_encode_eq

end Repricing
