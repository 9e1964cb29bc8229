import Repricing.Matching.Search
import Repricing.Proofs.Float.Multiples

/-!
# Confidences

A confidence is at most one, and candidates with positive confidences are ranked as these compare.
-/

namespace Repricing

open Float.Model.UnpackedFloat (Sign)

variable {x y : Float}

/-! ## Scores are at most one -/

/-- Rounding to a whole number does not go beyond a whole number. -/
theorem roundUnits_le
    {n : UInt64} (hpos : 0 < n.toNat) (hlt : n.toNat < 2 ^ 53) (hx : (0.0 : Float) ≤ x)
    (hle : x ≤ n.toFloat) :
    (0.0 : Float) ≤ roundUnits x ∧ roundUnits x ≤ n.toFloat := by
  unfold roundUnits
  dsimp only
  rcases toUInt64_lt_or_eq hpos hlt hx hle with hless | rfl
  · split
    · exact toFloat_add_one_le hless hlt
    · exact toFloat_le hless.le hlt
  · obtain ⟨hcanonical, hunpack⟩ := unpack_toFloat hpos hlt
    have hhalf : ¬ (0.5 : Float) ≤ 0.0 := by decide
    rw [toUInt64_toFloat hpos hlt, sub_self_of_unpack hunpack, if_neg hhalf]
    exact toFloat_le le_rfl hlt

/-- The nearer end of the range from zero to one lies in it. -/
theorem clampUnit_mem (hx : x.isNaN = false) :
    (0.0 : Float) ≤ clampUnit x ∧ clampUnit x ≤ 1.0 := by
  unfold clampUnit
  split
  · decide
  · next hlower =>
      split
      · decide
      · next hupper => exact ⟨le_of_not_lt hx rfl hlower, le_of_not_lt rfl hx hupper⟩

theorem quantize_le_one (hscore : (quantize x).isNaN = false) : quantize x ≤ 1.0 := by
  unfold quantize at hscore ⊢
  split at hscore
  · next hnan =>
      rw [hnan] at hscore
      cases hscore
  · next hnan =>
      have hone : (1.0 : Float).toModel.unpack = .finite .positive (2 ^ 52) (-52) (by decide) :=
        rfl
      have hmillion : (1e6 : Float).toModel.unpack =
          .finite .positive (10 ^ 6 * 2 ^ 33) (-33) (by decide) := rfl
      have hclamp := clampUnit_mem (Bool.eq_false_of_not_eq_true hnan)
      have hunits := atMost_mul hmillion (by decide) ((atMost_iff hone).mpr hclamp)
      rw [atMost_iff hmillion] at hunits
      have hrounded := roundUnits_le (n := 1000000) (by decide) (by decide) hunits.1 hunits.2
      have hquotient := atMost_div hmillion (by decide) ((atMost_iff hmillion).mpr hrounded)
      rw [if_neg hnan]
      exact ((atMost_iff hone).mp hquotient).2

/-! ## Ranking -/

/-- A positive double has its bits as its place. -/
theorem orderKey_of_pos (hx : (0.0 : Float) < x) : orderKey x = x.toBits.toNat := by
  have hbits := hasBits_toBits x
  have hplus : (Sign.toBitVec .positive).toNat = 0 := rfl
  have hmax : Int64.maxValue.toInt = 2 ^ 63 - 1 := rfl
  have hle : (x.toBits.toNat : Int) ≤ Int64.maxValue.toInt := by
    rcases pos_iff_unpack.mp hx with hx | ⟨m, e, hm, hx⟩
    · rw [hx] at hbits
      simp only [HasBits] at hbits
      omega
    · rw [hx] at hbits
      obtain ⟨hcanonical, he, hbits⟩ := hbits
      have hm := hcanonical.lt
      omega
  exact if_pos hle

theorem orderKey_lt_iff (hx : (0.0 : Float) < x) (hy : (0.0 : Float) < y) :
    orderKey x < orderKey y ↔ x < y := by
  rw [orderKey_of_pos hx, orderKey_of_pos hy, lt_iff_toBits_lt hx hy, Int.ofNat_lt]

theorem eq_of_orderKey_eq
    (hx : (0.0 : Float) < x) (hy : (0.0 : Float) < y) (heq : orderKey x = orderKey y) :
    x = y := by
  rw [orderKey_of_pos hx, orderKey_of_pos hy, Int.natCast_inj, UInt64.toNat_inj] at heq
  exact Float.toBits_inj.mp heq

theorem orderKey_pos (hx : (0.0 : Float) < x) : 0 < orderKey x := by
  have hbits := hasBits_toBits x
  rw [orderKey_of_pos hx]
  rcases pos_iff_unpack.mp hx with hx | ⟨m, e, hm, hx⟩
  · rw [hx] at hbits
    simp only [HasBits] at hbits
    omega
  · rw [hx] at hbits
    obtain ⟨-, -, hbits⟩ := hbits
    omega

/-- The zeros come before all positive doubles. -/
theorem orderKey_nonpos_of_zero
    {s : Sign} (hx : x.toModel.unpack = .zero s) : orderKey x ≤ 0 := by
  have hbits := hasBits_toBits x
  rw [hx] at hbits
  have hmax : Int64.maxValue.toInt = 2 ^ 63 - 1 := rfl
  have hplus : (Sign.toBitVec .positive).toNat = 0 := rfl
  have hminus : (Sign.toBitVec .negative).toNat = 1 := rfl
  simp only [HasBits] at hbits
  unfold orderKey
  dsimp only
  cases s <;> split <;> omega

/-- Among confidences, one that is ranked no later is not the lower one. -/
theorem le_of_orderKey_le
    (hx : (0.0 : Float) ≤ x ∧ x ≤ 1.0) (hy : (0.0 : Float) ≤ y ∧ y ≤ 1.0)
    (hle : orderKey y ≤ orderKey x) :
    y ≤ x := by
  by_contra hnot
  have hlt : x < y :=
    lt_of_not_le (isNaN_eq_false_of_le hx.2).1 (isNaN_eq_false_of_le hy.2).1 hnot
  have hzero : (0.0 : Float) ≤ 1.0 := by decide
  have hypos : (0.0 : Float) < y := by
    by_contra hnonpos
    exact hnot (le_trans_of_le (le_of_not_lt_of_le hzero hy.2 hnonpos) hx.1)
  have hkeys : orderKey x < orderKey y := by
    rcases zero_or_pos hx.1 with ⟨s, hs⟩ | hxpos
    · exact (orderKey_nonpos_of_zero hs).trans_lt (orderKey_pos hypos)
    · exact (orderKey_lt_iff hxpos hypos).mpr hlt
  exact not_le_of_gt hkeys hle

end Repricing
