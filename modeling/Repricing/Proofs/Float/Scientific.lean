import Repricing.Proofs.Float.Nearest

/-!
# Decimal numbers are read as the nearest double

A whole number times a power of ten becomes a double by one product or one quotient, whose factors
are exact. Where the power is out of all proportion the result is known without it.
-/

namespace Repricing

open Float.Model (UnpackedFloat)

variable {m e : Nat} {v : ℚ}

/-! ## Small numbers -/

/-- The tabulated powers of ten are doubles. -/
theorem unpack_powerOfTen (he : e < Float.exactlyRepresentablePowersOfTen.size) :
    ∃ (m j : Nat) (h : 0 < m),
      Float.exactlyRepresentablePowersOfTen[e].toModel.unpack = .finite .positive m (j - 52) h ∧
      2 ^ 52 ≤ m ∧ m * 2 ^ j = 10 ^ e * 2 ^ 52 := by
  have hsize : Float.exactlyRepresentablePowersOfTen.size = 23 := rfl
  rw [← getElem!_pos Float.exactlyRepresentablePowersOfTen e he]
  rw [hsize] at he
  -- The second number is the binary logarithm of the power.
  refine ⟨10 ^ e * 2 ^ 52 / 2 ^ (e * 93 / 28), e * 93 / 28, ?_⟩
  interval_cases e <;> exact ⟨by decide, rfl, by decide, by decide⟩

theorem mul_two_zpow_eq {n j k : Nat} (heq : m * 2 ^ j = n * 2 ^ k) :
    (m : ℚ) * 2 ^ (j - k : Int) = n := by
  have hcast : (m : ℚ) * 2 ^ j = n * 2 ^ k := by exact_mod_cast heq
  rw [zpow_sub₀ (by norm_num), zpow_natCast, zpow_natCast, ← mul_div_assoc, hcast]
  field_simp

/-- A mantissa and a power of ten that are doubles themselves. -/
theorem isRounded_ofScientific_of_small
    (hm : m < 2 ^ 53) (he : e < Float.exactlyRepresentablePowersOfTen.size) :
    IsRounded (m * 10 ^ e) (m.toUInt64.toFloat * Float.exactlyRepresentablePowersOfTen[e]) ∧
      IsRounded (m / 10 ^ e) (m.toUInt64.toFloat / Float.exactlyRepresentablePowersOfTen[e]) := by
  obtain ⟨p, j, hp, hunpackPower, hfull, hpower⟩ := unpack_powerOfTen he
  have hpower := mul_two_zpow_eq hpower
  push_cast at hpower
  have hnat : m.toUInt64.toNat = m :=
    UInt64.toNat_ofNat_of_lt' (hm.trans (by decide))
  rcases Nat.eq_zero_or_pos m with rfl | hpos
  · have hzero : (Nat.toUInt64 0).toFloat.toModel.unpack = .zero .positive := rfl
    rw [Nat.cast_zero, zero_mul, zero_div]
    constructor
    · change IsRounded 0 (Float.ofModel (Float.Model.pack (UnpackedFloat.mul _ _ _)))
      rw [hzero, hunpackPower]
      exact isRounded_zero le_rfl (two_zpow_pos _).le
    · change IsRounded 0 (Float.ofModel (Float.Model.pack (UnpackedFloat.div _ _ _)))
      rw [hzero, hunpackPower]
      exact isRounded_zero le_rfl (two_zpow_pos _).le
  · obtain ⟨hcanonical, hunpack⟩ :=
      unpack_toFloat (hnat.symm ▸ hpos) (hnat.symm ▸ hm)
    have hmantissa : ((m.toUInt64.toNat * 2 ^ (52 - m.toUInt64.toNat.log2) : Nat) : ℚ) *
        2 ^ (m.toUInt64.toNat.log2 - 52 : Int) = m := by
      rw [hnat]
      apply mul_two_zpow_eq
      have hlog : m.log2 < 53 := log2_lt_of_lt hm
      rw [mul_assoc, ← pow_add, Nat.sub_add_cancel (by omega)]
    rw [← hpower, ← hmantissa]
    constructor
    · change IsRounded _ (Float.ofModel (Float.Model.pack (UnpackedFloat.mul _ _ _)))
      rw [hunpack, hunpackPower]
      apply isRounded_pack
      exact roundsTo_mul (.inl (hfull.trans (Nat.le_mul_of_pos_left _ hcanonical.pos)))
    · change IsRounded _ (Float.ofModel (Float.Model.pack (UnpackedFloat.div _ _ _)))
      rw [hunpack, hunpackPower]
      exact isRounded_pack roundsTo_div

/-! ## All numbers -/

/-- A power of ten above the safety bound is beyond the greatest double. -/
theorem overflowLimit_le_of_large {k : Int} (hm : 0 < m) (hk : 2 ^ 11 < k) :
    overflowLimit ≤ m * 10 ^ k := by
  have hone : (1 : ℚ) ≤ m := by exact_mod_cast hm
  have hlimit : overflowLimit ≤ 2 ^ (1024 : Int) := by
    rw [overflowLimit, show (1024 : Int) = 54 + 970 by rfl, zpow_add₀ (by norm_num)]
    apply mul_le_mul_of_nonneg_right _ (two_zpow_pos _).le
    norm_num
  calc overflowLimit
    _ ≤ 2 ^ (1024 : Int) := hlimit
    _ ≤ 2 ^ k := zpow_le_zpow_right₀ (by norm_num) (by omega)
    _ ≤ 10 ^ k := zpow_le_zpow_left₀ (by omega) (by norm_num) (by norm_num)
    _ ≤ m * 10 ^ k := le_mul_of_one_le_left (by positivity) hone

/-- A power of ten below the safety bound leaves nothing of the mantissa. -/
theorem le_of_small {k : Int} (hk : k < -(2 ^ 11 + m.log2 : Int)) :
    (m : ℚ) * 10 ^ k ≤ 2 ^ (-1075 : Int) := by
  have hlog : (m : ℚ) ≤ 2 ^ (m.log2 + 1 : Int) := by
    exact_mod_cast Nat.lt_log2_self.le
  have hpower : (10 : ℚ) ^ k ≤ 2 ^ k := by
    have hopposite : (2 : ℚ) ^ (-k) ≤ 10 ^ (-k) :=
      zpow_le_zpow_left₀ (by omega) (by norm_num) (by norm_num)
    have hinverse := inv_anti₀ (two_zpow_pos (-k)) hopposite
    rwa [← zpow_neg, ← zpow_neg, neg_neg] at hinverse
  calc (m : ℚ) * 10 ^ k
    _ ≤ 2 ^ (m.log2 + 1 : Int) * 2 ^ k :=
      mul_le_mul hlog hpower (by positivity) (two_zpow_pos _).le
    _ = 2 ^ (m.log2 + 1 + k : Int) := (zpow_add₀ (by norm_num) _ _).symm
    _ ≤ 2 ^ (-1075 : Int) := zpow_le_zpow_right₀ (by norm_num) (by omega)

theorem isRounded_ofModel_ofScientific (m : Nat) (k : Int) :
    IsRounded (m * 10 ^ k) (Float.ofModel (Float.Model.ofScientific m k)) := by
  have hbits : Float.Model.Format.binary64.mantissaBits = 53 := rfl
  change IsRounded _ (Float.ofModel (Float.Model.pack (UnpackedFloat.ofScientific .binary64 m k)))
  unfold UnpackedFloat.ofScientific
  simp only [hbits]
  split_ifs with hzero hlarge hsmall hsign
  · rw [hzero, Nat.cast_zero, zero_mul]
    exact isRounded_zero le_rfl (two_zpow_pos _).le
  · exact .inr ⟨rfl, overflowLimit_le_of_large (Nat.pos_of_ne_zero hzero) hlarge⟩
  · exact isRounded_zero (by positivity) (le_of_small hsmall)
  · obtain ⟨n, rfl⟩ := Int.eq_ofNat_of_zero_le hsign
    have hvalue : (m * 10 ^ (n : Int) : ℚ) =
        (m <<< 53 : Nat) * 2 ^ (-53 : Int) * ((10 ^ n : Nat) * 2 ^ (0 : Int)) := by
      rw [Nat.shiftLeft_eq, zpow_natCast, zpow_neg, zpow_zero, mul_one]
      push_cast
      field_simp
    rw [hvalue]
    apply isRounded_pack
    apply roundsTo_mul
    left
    calc 2 ^ 52 ≤ 2 ^ 53 := by decide
      _ ≤ m <<< 53 := by
        rw [Nat.shiftLeft_eq]
        exact Nat.le_mul_of_pos_left _ (Nat.pos_of_ne_zero hzero)
      _ ≤ m <<< 53 * 10 ^ n := Nat.le_mul_of_pos_right _ (by positivity)
  · obtain ⟨n, hn⟩ := Int.eq_ofNat_of_zero_le (a := -k) (by omega)
    obtain rfl : k = -(n : Int) := by omega
    have hvalue : (m * 10 ^ (-(n : Int)) : ℚ) =
        m * 2 ^ (0 : Int) / ((10 ^ n : Nat) * 2 ^ (0 : Int)) := by
      rw [zpow_neg, zpow_natCast]
      push_cast
      norm_num [div_eq_mul_inv]
    rw [hvalue]
    simp only [neg_neg, Int.toNat_natCast]
    exact isRounded_pack roundsTo_div

/-- A mantissa with a decimal exponent is read as the double to which its value rounds. -/
theorem isRounded_ofScientific (m : Nat) (negative : Bool) (e : Nat) :
    IsRounded (m * 10 ^ (if negative then -(e : Int) else e))
      (Float.ofScientific m negative e) := by
  have hsize : Float.exactlyRepresentablePowersOfTen.size = 23 := rfl
  unfold Float.ofScientific
  by_cases hsmall : m < 2 ^ 53 ∧ e ≤ 22
  · obtain ⟨hproduct, hquotient⟩ :=
      isRounded_ofScientific_of_small hsmall.1 (show e < _ by omega)
    rw [dif_pos hsmall]
    cases negative
    · rw [if_neg Bool.false_ne_true, zpow_natCast]
      exact hproduct
    · rw [if_pos rfl, zpow_neg, zpow_natCast, ← div_eq_mul_inv]
      exact hquotient
  · have hrounded := isRounded_ofModel_ofScientific m
      (if negative then Int.negOfNat e else Int.ofNat e)
    rw [dif_neg hsmall]
    rwa [show (if negative then -(e : Int) else e) =
      if negative then Int.negOfNat e else Int.ofNat e by rw [Int.negOfNat_eq]; rfl]

end Repricing
