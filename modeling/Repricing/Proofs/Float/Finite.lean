import Repricing.Proofs.Float.Bounds

/-!
# Whole numbers are finite

A whole number of 64 bits is far below the greatest double, so the nearest double is finite.
-/

namespace Repricing

open Float.Model (UnpackedFloat)
open Float.Model.UnpackedFloat (roundWithAccuracy)

/-- What is at most `2 ^ 64` packs into a finite double. -/
theorem isFinite_pack_of_atMost {u : UnpackedFloat} (hu : AtMost (2 ^ 52) 12 u) :
    (Float.ofModel (Float.Model.pack u)).isFinite = true := by
  change (Float.Model.pack u).unpack.isFinite = true
  rw [unpack_pack_of_atMost (by decide) hu]
  cases u with
  | notANumber => exact hu.elim
  | infinity s => exact hu.elim
  | zero s => rfl
  | finite s m e h => rfl

/-- A product of mantissas that is at most `2 ^ 64` is so when it has been rounded. -/
theorem atMost_product {m : Nat} {e : Int} (hm : 2 ^ 52 ≤ m) (he : e ≤ 12)
    (hle : m ≤ 2 ^ 52 * 2 ^ (12 - e).toNat) :
    AtMost (2 ^ 52) 12 (roundWithAccuracy .binary64 .positive m e .exact) := by
  have hbound : Canonical (2 ^ 52) 12 := ⟨by decide, by decide, .inl le_rfl, by decide⟩
  apply atMost_roundWithAccuracy hbound (.inl hm) he
  rcases Nat.lt_or_eq_of_le hle with hlt | heq
  · exact .inl hlt
  · exact .inr ⟨heq, rfl⟩

theorem isFinite_toFloat_mul_one {k : UInt64} (hpos : 0 < k.toNat) (hlt : k.toNat < 2 ^ 53) :
    (k.toFloat * Float.ofBits 0x3FF0000000000000).isFinite = true := by
  have hone : (Float.ofBits 0x3FF0000000000000).toModel.unpack =
      .finite .positive (2 ^ 52) (-52) (by decide) := rfl
  have hlog : k.toNat.log2 < 53 := log2_lt_of_lt hlt
  obtain ⟨hcanonical, hunpack⟩ := unpack_toFloat hpos hlt
  apply isFinite_pack_of_atMost
  rw [hunpack, hone]
  apply atMost_product
  · exact Nat.le_mul_of_pos_left _ hcanonical.pos
  · omega
  · rw [mul_comm]
    apply Nat.mul_le_mul_left
    exact hcanonical.lt.le.trans (Nat.pow_le_pow_right (by decide) (by omega))

/-- A natural number is made into a double as a product: it is multiplied by one if it is a double
itself, and its mantissa is multiplied by one if it is not. -/
theorem isFinite_ofNat {n : Nat} (hn : n ≤ 2 ^ 64) : (Float.ofNat n).isFinite = true := by
  rcases Nat.eq_zero_or_pos n with rfl | hpos
  · decide
  change (Float.ofScientific n false 0).isFinite = true
  unfold Float.ofScientific
  split
  · next hsmall =>
      have htoNat : n.toUInt64.toNat = n := by
        rw [Nat.toUInt64_eq, UInt64.toNat_ofNat']
        exact Nat.mod_eq_of_lt (by omega)
      exact isFinite_toFloat_mul_one (k := n.toUInt64) (by omega) (by omega)
  · apply isFinite_pack_of_atMost
    have hmantissa : Float.Model.Format.binary64.mantissaBits = 53 := rfl
    have hexponent : Float.Model.Format.binary64.exponentBits = 11 := rfl
    have hzero : (if false = true then Int.negOfNat 0 else Int.ofNat 0) = 0 := rfl
    have hscaled : n <<< 53 * 10 ^ 0 = 2 ^ 53 * n := by
      rw [Nat.shiftLeft_eq, pow_zero, mul_one, mul_comm]
    have hsign : UnpackedFloat.Sign.positive * .positive = .positive := rfl
    have hlarge : ¬ (0 : Int) < -((2 : Int) ^ 11 + n.log2) := by omega
    rw [hzero, UnpackedFloat.ofScientific, dif_neg hpos.ne', if_neg (by decide), hexponent,
      if_neg hlarge, if_pos le_rfl, UnpackedFloat.mul]
    simp only [hmantissa, hsign, Int.toNat_zero, hscaled]
    apply atMost_product
    · omega
    · decide
    · calc 2 ^ 53 * n ≤ 2 ^ 53 * 2 ^ 64 := Nat.mul_le_mul_left _ hn
        _ = 2 ^ 52 * 2 ^ (12 - (-(53 : Nat) + 0 : Int)).toNat := by decide

theorem isFinite_neg {x : Float} (hx : x.isFinite = true) : x.neg.isFinite = true := by
  change x.toModel.unpack.isFinite = true at hx
  change (Float.Model.pack x.toModel.unpack.neg).unpack.isFinite = true
  cases hunpack : x.toModel.unpack with
  | notANumber =>
      rw [hunpack] at hx
      cases hx
  | infinity s =>
      rw [hunpack] at hx
      cases hx
  | zero s => cases s <;> rfl
  | finite s m e h =>
      obtain ⟨hcanonical, hle⟩ := canonical_of_unpack hunpack
      rw [UnpackedFloat.neg, unpack_pack hcanonical hle]
      rfl

/-- A whole number of 64 bits, with or without a sign, is a finite double. -/
theorem isFinite_ofInt {n : Int} (hlower : -2 ^ 63 ≤ n) (hupper : n < 2 ^ 64) :
    (Float.ofInt n).isFinite = true := by
  cases n with
  | ofNat n =>
      apply isFinite_ofNat
      rw [Int.ofNat_eq_natCast] at hupper
      omega
  | negSucc n =>
      apply isFinite_neg
      apply isFinite_ofNat
      omega

end Repricing
