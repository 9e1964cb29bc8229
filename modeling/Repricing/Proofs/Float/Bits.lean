import Repricing.Proofs.Float.Order

/-!
# The bits of doubles

A double that is finite and not zero is a sign, a mantissa and an exponent in canonical form.  Its
bits are these three side by side, so that unpacking undoes packing, and positive doubles are
ordered like their bits.
-/

namespace Repricing

open Float.Model (Format UnpackedFloat)
open Float.Model.UnpackedFloat (Sign unpack unpackSign unpackExponent unpackMantissa)

/-- A mantissa and an exponent as doubles have them: the mantissa has fifty-three bits, or fewer if
the exponent is the least one. -/
structure Canonical (m : Nat) (e : Int) : Prop where
  pos : 0 < m
  lt : m < 2 ^ 53
  full : 2 ^ 52 ≤ m ∨ e = -1074
  ge : -1074 ≤ e

/-- The bits that stand for an unpacked double. -/
def HasBits : UnpackedFloat → Nat → Prop
  | .notANumber, bits => 2047 * 2 ^ 52 < bits % 2 ^ 63
  | .infinity s, bits => bits = s.toBitVec.toNat * 2 ^ 63 + 2047 * 2 ^ 52
  | .zero s, bits => bits = s.toBitVec.toNat * 2 ^ 63
  | .finite s m e _, bits =>
    Canonical m e ∧ e ≤ 971 ∧ bits = s.toBitVec.toNat * 2 ^ 63 + ((e + 1074).toNat * 2 ^ 52 + m)

/-! ## Unpacking -/

theorem toNat_one_append {w : Nat} (v : BitVec w) : (1#1 ++ v).toNat = 2 ^ w + v.toNat := by
  rw [BitVec.toNat_append, ← Nat.shiftLeft_add_eq_or_of_lt v.isLt]
  simp [Nat.shiftLeft_eq]

theorem toNat_packComponents (s : Sign) (e : BitVec 11) (m : BitVec 52) :
    (UnpackedFloat.packComponents .binary64 s e m).toNat =
      s.toBitVec.toNat * 2 ^ 63 + e.toNat * 2 ^ 52 + m.toNat := by
  have he := e.isLt
  have hm := m.isLt
  simp only [UnpackedFloat.packComponents]
  rw [BitVec.toNat_append, BitVec.toNat_append, ← Nat.shiftLeft_add_eq_or_of_lt hm,
    ← Nat.shiftLeft_add_eq_or_of_lt he]
  simp only [Nat.shiftLeft_eq]
  omega

section Unpacking

variable (b : BitVec Format.binary64.numBits)

theorem toNat_eq_fields :
    b.toNat =
      (unpackSign b).toNat * 2 ^ 63 + (unpackExponent b).toNat * 2 ^ 52
        + (unpackMantissa b).toNat := by
  conv_lhs => rw [← UnpackedFloat.packComponents_unpackSign_unpackExponent_unpackMantissa b]
  rw [toNat_packComponents, Sign.toBitVec_ofBitVec]

theorem hasBits_unpack : HasBits (unpack .binary64 b) b.toNat := by
  have hmantissa : (unpackMantissa b).toNat < 2 ^ 52 := (unpackMantissa b).isLt
  have hexponent : (unpackExponent b).toNat < 2 ^ 11 := (unpackExponent b).isLt
  have hsign : ∀ v : BitVec 1, (Sign.ofBitVec v).toBitVec = v := Sign.toBitVec_ofBitVec
  have hmax : unpackExponent b = -1#_ ↔ (unpackExponent b).toNat = 2047 := by
    rw [← BitVec.toNat_inj]
    rfl
  have hmin : unpackExponent b = 0#_ ↔ (unpackExponent b).toNat = 0 := by
    rw [← BitVec.toNat_inj]
    rfl
  have hnone : unpackMantissa b = 0#_ ↔ (unpackMantissa b).toNat = 0 := by
    rw [← BitVec.toNat_inj]
    rfl
  have hbias : ((Format.binary64.exponentBias : Nat) : Int) = 1023 := rfl
  have hwidth : ((Format.binary64.mantissaBitsWithoutImplicit : Nat) : Int) = 52 := rfl
  rw [toNat_eq_fields b]
  unfold UnpackedFloat.unpack
  simp only [hmax, hmin, hnone, hbias, hwidth]
  split
  · split
    · simp only [HasBits, hsign]
      omega
    · simp only [HasBits]
      omega
  · split
    · split
      · simp only [HasBits, hsign]
        omega
      · simp only [HasBits, hsign]
        exact ⟨⟨by omega, by omega, by omega, by omega⟩, by omega, by omega⟩
    · simp only [HasBits, hsign, toNat_one_append]
      exact ⟨⟨by omega, by omega, by omega, by omega⟩, by omega, by omega⟩

end Unpacking

theorem hasBits_toBits (x : Float) : HasBits x.toModel.unpack x.toBits.toNat :=
  hasBits_unpack x.toBits.toBitVec

variable {x y : Float} {m : Nat} {e : Int} {s : Sign}

theorem canonical_of_unpack
    {h : 0 < m} (hx : x.toModel.unpack = .finite s m e h) :
    Canonical m e ∧ e ≤ 971 := by
  have hbits := hasBits_toBits x
  rw [hx] at hbits
  exact ⟨hbits.1, hbits.2.1⟩

/-! ## Order -/

theorem Canonical.compare_eq_lt_iff
    {m' : Nat} {e' : Int} (h : Canonical m e) (h' : Canonical m' e') :
    (compare e e').then (compare m m') = .lt ↔
      (e + 1074).toNat * 2 ^ 52 + m < (e' + 1074).toNat * 2 ^ 52 + m' := by
  obtain ⟨-, hlt, hfull, hge⟩ := h
  obtain ⟨-, hlt', hfull', hge'⟩ := h'
  rw [Ordering.then_eq_lt, compare_lt_iff_lt, compare_eq_iff_eq, compare_lt_iff_lt]
  omega

theorem pos_iff_unpack :
    (0.0 : Float) < x ↔
      x.toModel.unpack = .infinity .positive ∨
        ∃ m e h, x.toModel.unpack = .finite .positive m e h := by
  have hzero : (0.0 : Float).toModel.unpack = .zero .positive := rfl
  rw [lt_iff_comparison, comparison, hzero]
  rcases x.toModel.unpack with (_ | _) | _ | _ | ⟨_ | _, m, e, hm⟩ <;>
    simp [UnpackedFloat.compare, *]

/-- A double that is not below zero is one of the zeros, or positive. -/
theorem zero_or_pos (hx : (0.0 : Float) ≤ x) :
    (∃ s, x.toModel.unpack = .zero s) ∨ (0.0 : Float) < x := by
  have hzero : (0.0 : Float).toModel.unpack = .zero .positive := rfl
  rcases le_iff_comparison.mp hx with hlt | heq
  · exact .inr (lt_iff_comparison.mpr hlt)
  · left
    rw [comparison, hzero] at heq
    cases hunpack : x.toModel.unpack with
    | zero s => exact ⟨s, rfl⟩
    | notANumber =>
        rw [hunpack] at heq
        cases heq
    | infinity s =>
        rw [hunpack] at heq
        cases s <;> cases heq
    | finite s m e hm =>
        rw [hunpack] at heq
        cases s <;> cases heq

/-- Positive doubles are ordered like their bits. -/
theorem lt_iff_toBits_lt (hx : (0.0 : Float) < x) (hy : (0.0 : Float) < y) :
    x < y ↔ x.toBits.toNat < y.toBits.toNat := by
  have hxbits := hasBits_toBits x
  have hybits := hasBits_toBits y
  have hplus : (Sign.toBitVec .positive).toNat = 0 := rfl
  rw [lt_iff_comparison, comparison]
  rcases pos_iff_unpack.mp hx with hx | ⟨m, e, hm, hx⟩ <;>
    rcases pos_iff_unpack.mp hy with hy | ⟨m', e', hm', hy⟩ <;>
    rw [hx] at hxbits ⊢ <;>
    rw [hy] at hybits ⊢
  · simp [UnpackedFloat.compare, hxbits.trans hybits.symm]
  · have hlt := hybits.1.lt
    simp only [HasBits] at hxbits hybits
    simp [UnpackedFloat.compare]
    omega
  · have hlt := hxbits.1.lt
    simp only [HasBits] at hxbits hybits
    simp [UnpackedFloat.compare]
    omega
  · obtain ⟨hcanonical, -, hxbits⟩ := hxbits
    obtain ⟨hcanonical', -, hybits⟩ := hybits
    simp only [UnpackedFloat.compare, Option.some.injEq, hcanonical.compare_eq_lt_iff hcanonical']
    omega

/-! ## Packing -/

theorem hasBits_pack {h : 0 < m} (hcanonical : Canonical m e) (hle : e ≤ 971) :
    HasBits (.finite s m e h) (UnpackedFloat.pack .binary64 (.finite s m e h)).toNat := by
  refine ⟨hcanonical, hle, ?_⟩
  obtain ⟨-, hlt, hfull, hmin⟩ := hcanonical
  have hbias : ((Format.binary64.exponentBias : Nat) : Int) = 1023 := rfl
  have hwidth : ((Format.binary64.mantissaBitsWithoutImplicit : Nat) : Int) = 52 := rfl
  have hbits : Format.binary64.mantissaBits = 53 := rfl
  have hfields : 2 ^ Format.binary64.exponentBits = 2048 := rfl
  simp only [UnpackedFloat.pack, hbias, hwidth, hbits, hfields]
  rw [if_neg (by omega)]
  split
  · next hlog =>
      have hm : 2 ^ 52 ≤ m := (Nat.le_log2 (by omega)).mp (by omega)
      rw [toNat_packComponents, BitVec.toNat_ofNat, BitVec.toNat_ofNat]
      omega
  · next hlog =>
      have hm : m < 2 ^ 52 := by
        by_contra hge
        have := (Nat.le_log2 (by omega)).mpr (Nat.le_of_not_lt hge)
        have := (Nat.log2_lt (by omega)).mpr hlt
        omega
      rw [toNat_packComponents, BitVec.toNat_ofNat]
      simp
      omega

/-- Bits stand for one unpacked double only. -/
theorem eq_of_hasBits
    {h : 0 < m} {u : UnpackedFloat} {bits : Nat} (hu : HasBits u bits)
    (hbits : HasBits (.finite s m e h) bits) :
    u = .finite s m e h := by
  obtain ⟨⟨-, hlt, hfull, hmin⟩, hle, hbits⟩ := hbits
  have hs := s.toBitVec.isLt
  rcases u with s' | _ | s' | ⟨s', m', e', h'⟩
  · have hs' := s'.toBitVec.isLt
    simp only [HasBits] at hu
    omega
  · simp only [HasBits] at hu
    omega
  · have hs' := s'.toBitVec.isLt
    simp only [HasBits] at hu
    omega
  · have hs' := s'.toBitVec.isLt
    obtain ⟨⟨-, hlt', hfull', hmin'⟩, hle', hu⟩ := hu
    obtain ⟨hsign, rfl, rfl⟩ : s'.toBitVec.toNat = s.toBitVec.toNat ∧ e' = e ∧ m' = m := by omega
    obtain rfl : s' = s := by
      cases s <;> cases s' <;> first | rfl | cases hsign
    rfl

/-- What has been packed is unpacked again. -/
theorem unpack_pack {h : 0 < m} (hcanonical : Canonical m e) (hle : e ≤ 971) :
    (Float.Model.pack (.finite s m e h)).unpack = .finite s m e h :=
  eq_of_hasBits (hasBits_unpack _) (hasBits_pack hcanonical hle)

end Repricing
