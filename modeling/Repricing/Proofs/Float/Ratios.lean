import Repricing.Proofs.Float.Scientific

/-!
# Shares of whole numbers

The quotient of two whole numbers of which the first is not the greater one lies between zero and
one, and so does one less such a quotient, although each of the numbers may have been rounded
itself.
-/

namespace Repricing

open Float.Model (UnpackedFloat)

variable {k n : Nat} {v : ℚ} {x y : Float}

theorem isRounded_ofNat (n : Nat) : IsRounded n (Float.ofNat n) := by
  have hrounded := isRounded_ofScientific n false 0
  rwa [if_neg Bool.false_ne_true, Nat.cast_zero, zpow_zero, mul_one] at hrounded

theorem ofNat_le_ofNat (hkn : k ≤ n) : Float.ofNat k ≤ Float.ofNat n :=
  (isRounded_ofNat k).le_of_le (isRounded_ofNat n) (by exact_mod_cast hkn)

/-- A number from one on rounds to a double whose mantissa is full. -/
theorem IsRounded.exists_unpack (hy : IsRounded v y) (hone : 1 ≤ v) (hlt : v < overflowLimit) :
    ∃ m e h, y.toModel.unpack = .finite .positive m e h ∧ 2 ^ 52 ≤ m := by
  have hcovers : Covers (2 ^ 52) (-52) 1 := by
    have hself := covers_self (2 ^ 52) (-52)
    rwa [show ((2 ^ 52 : Nat) : ℚ) * 2 ^ (-52 : Int) = 1 by norm_num] at hself
  have hnormalized : Normalized (2 ^ 52) (-52) := ⟨by decide, .inl le_rfl, by decide⟩
  rcases hy with hy | ⟨-, hlimit⟩
  · obtain ⟨-, hcovers'⟩ | ⟨m, e, hm, hunpack, hcanonical, hcovers'⟩ := hy.eq_zero_or_finite
    · have hle := hcovers.le_of_le hcovers' hnormalized normalized_zero hone
      omega
    · have hle := hcovers.le_of_le hcovers' hnormalized hcanonical.normalized hone
      exact ⟨m, e, hm, hunpack, hcanonical.full.resolve_right (by omega)⟩
  · exact absurd hlimit hlt.not_ge

theorem exists_unpack_ofNat (hpos : 0 < n) (hlt : n < 2 ^ 64) :
    ∃ m e h, (Float.ofNat n).toModel.unpack = .finite .positive m e h ∧ 2 ^ 52 ≤ m := by
  apply (isRounded_ofNat n).exists_unpack
  · exact_mod_cast hpos
  · have hpower : (2 : ℚ) ^ (11 : Int) ≤ 2 ^ (970 : Int) :=
      zpow_le_zpow_right₀ (by norm_num) (by decide)
    calc (n : ℚ)
      _ < 2 ^ 64 := by exact_mod_cast hlt
      _ ≤ (2 ^ 54 - 1) * 2 ^ (11 : Int) := by norm_num
      _ ≤ overflowLimit := mul_le_mul_of_nonneg_left hpower (by norm_num)

/-! ## Quotients -/

/-- A share of a whole number lies between zero and one. -/
theorem share_mem (hkn : k ≤ n) (hpos : 0 < n) (hlt : n < 2 ^ 64) :
    (0.0 : Float) ≤ Float.ofNat k / Float.ofNat n ∧ Float.ofNat k / Float.ofNat n ≤ 1.0 := by
  have hone : (1.0 : Float).toModel.unpack = .finite .positive (2 ^ 52) (-52) (by decide) := rfl
  obtain ⟨m, e, h, hunpack, hfull⟩ := exists_unpack_ofNat hpos hlt
  have hpart : AtMost m e (Float.ofNat k).toModel.unpack :=
    (atMost_iff hunpack).mpr ⟨(isRounded_ofNat k).nonneg (Nat.cast_nonneg k), ofNat_le_ofNat hkn⟩
  exact (atMost_iff hone).mp (atMost_div hunpack hfull hpart)

/-- A whole number is all of itself. -/
theorem share_self (hpos : 0 < n) (hlt : n < 2 ^ 64) : Float.ofNat n / Float.ofNat n = 1.0 := by
  obtain ⟨m, e, h, hunpack, -⟩ := exists_unpack_ofNat hpos hlt
  have hrounded : IsRounded ((m * 2 ^ e) / (m * 2 ^ e)) (Float.ofNat n / Float.ofNat n) := by
    change IsRounded _ (Float.ofModel (Float.Model.pack (UnpackedFloat.div _ _ _)))
    rw [hunpack]
    exact isRounded_pack roundsTo_div
  have hm : (m : ℚ) * 2 ^ e ≠ 0 := mul_ne_zero (by exact_mod_cast h.ne') (two_zpow_pos e).ne'
  rw [div_self hm] at hrounded
  exact hrounded.unique isRounded_one

/-- What is left of one lies between zero and one. -/
theorem one_sub_mem (hx : (0.0 : Float) ≤ x ∧ x ≤ 1.0) :
    (0.0 : Float) ≤ 1.0 - x ∧ 1.0 - x ≤ 1.0 := by
  obtain ⟨n, hn⟩ := exists_isMultiple hx
  obtain ⟨k, hk, hone⟩ := exists_isMultiple_one
  have hle : n ≤ 2 ^ k := (hn.le_iff hone).mp hx.2
  have hzero : IsMultiple 0 (0.0 : Float).toModel.unpack := rfl
  have hdifference := isMultiple_toModel_sub hone hn hle le_rfl (by omega)
  constructor
  · exact (hzero.le_iff hdifference).mpr (Nat.zero_le _)
  · exact (hdifference.le_iff hone).mpr (nearest_le_two_pow (Nat.sub_le _ _))

end Repricing
