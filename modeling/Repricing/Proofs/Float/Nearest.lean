import Repricing.Proofs.Float.Intervals
import Repricing.Proofs.Float.Multiples

/-!
# Products, quotients and numerals are rounded correctly

Rounding keeps of an exact result a mantissa and two bits that say how much was cut off.  They are
enough to round to the nearest double, of two equally near ones to the even one.  So the product and
the quotient of two doubles, and a decimal number that is read as a double, are the double to whose
interval the exact value belongs, or infinite beyond all intervals.
-/

namespace Repricing

open Float.Model (Format UnpackedFloat)
open Float.Model.UnpackedFloat (Accuracy ExtendedMantissa Sign accuracyOfFraction divCore
  roundWithAccuracy shiftToTargetExponent)

variable {m m' r : Nat} {e e' t : Int} {v w x : ℚ}

/-! ## What is cut off -/

/-- The two bits of a mantissa say where in its last place the part that was cut off ends. -/
def Remainder : (roundBit stickyBit : Bool) → ℚ → Prop
  | false, false, f => f = 0
  | false, true, f => 0 < f ∧ f < 1 / 2
  | true, false, f => f = 1 / 2
  | true, true, f => 1 / 2 < f ∧ f < 1

/-- The mantissa and its two bits stand for a number. -/
def Represents (em : ExtendedMantissa) (x : ℚ) : Prop :=
  Remainder em.roundBit em.stickyBit (x - em.mantissa)

theorem Represents.mantissa_le {em : ExtendedMantissa} (h : Represents em x) : em.mantissa ≤ x := by
  obtain ⟨m, roundBit, stickyBit⟩ := em
  cases roundBit <;> cases stickyBit <;> simp only [Represents, Remainder] at h ⊢ <;> linarith

theorem represents_exact (m : Nat) :
    Represents (ExtendedMantissa.ofMantissaAndAccuracy m .exact) m :=
  sub_self _

theorem represents_fraction {d : Nat} (q : Nat) (hlt : r < d) :
    Represents (ExtendedMantissa.ofMantissaAndAccuracy q (accuracyOfFraction r d))
      (q + (r : ℚ) / d) := by
  have hd : (0 : ℚ) < d := by exact_mod_cast Nat.zero_lt_of_lt hlt
  have hone : (r : ℚ) / d < 1 := (div_lt_one hd).mpr (by exact_mod_cast hlt)
  rw [accuracyOfFraction]
  split
  · next hzero => simp [hzero, represents_exact]
  · next hnonzero =>
      have hpos : (0 : ℚ) < r := by exact_mod_cast Nat.pos_of_ne_zero hnonzero
      have hhalf : (r : ℚ) / d < 1 / 2 ↔ 2 * r < d := by
        rw [div_lt_div_iff₀ hd (by norm_num), one_mul, mul_comm]
        norm_cast
      have hhalf' : 1 / 2 < (r : ℚ) / d ↔ d < 2 * r := by
        rw [div_lt_div_iff₀ (by norm_num) hd, one_mul, mul_comm (r : ℚ)]
        norm_cast
      rcases lt_trichotomy (2 * r) d with hless | heq | hmore
      · rw [compare_lt_iff_lt.mpr hless]
        change Remainder false true ((q : ℚ) + r / d - q)
        rw [add_sub_cancel_left]
        exact ⟨div_pos hpos hd, hhalf.mpr hless⟩
      · rw [compare_eq_iff_eq.mpr heq]
        change Remainder true false ((q : ℚ) + r / d - q)
        rw [add_sub_cancel_left]
        exact le_antisymm (le_of_not_gt fun hlt => by have := hhalf'.mp hlt; omega)
          (le_of_not_gt fun hlt => by have := hhalf.mp hlt; omega)
      · rw [compare_gt_iff_gt.mpr hmore]
        change Remainder true true ((q : ℚ) + r / d - q)
        rw [add_sub_cancel_left]
        exact ⟨hhalf'.mpr hmore, hone⟩

/-- Half of a mantissa stands for half of its number. -/
theorem Represents.shiftRightOne {em : ExtendedMantissa} (h : Represents em x) :
    Represents em.shiftRightOne (x / 2) := by
  obtain ⟨m, roundBit, stickyBit⟩ := em
  have hsplit : (m : ℚ) = 2 * (m / 2 : Nat) + (m % 2 : Nat) := by
    exact_mod_cast (Nat.div_add_mod m 2).symm
  simp only [Represents, ExtendedMantissa.shiftRightOne] at h ⊢
  rw [hsplit] at h
  rcases Nat.mod_two_eq_zero_or_one m with hm | hm <;>
    cases roundBit <;> cases stickyBit <;>
    simp only [hm, Remainder, bne_self_eq_false, Bool.or_self, Bool.or_true, Bool.true_or,
      Nat.cast_zero, Nat.cast_one, Nat.reduceBNe] at h ⊢ <;>
    first | linarith | (constructor <;> linarith)

theorem Represents.shiftRight {em : ExtendedMantissa} (h : Represents em x) (k : Nat) :
    Represents (em >>> k) (x / 2 ^ k) := by
  induction k with
  | zero =>
      rw [pow_zero, div_one]
      exact h
  | succ k ih =>
      rw [pow_succ, ← div_div]
      exact ih.shiftRightOne

/-! ## Rounding a mantissa -/

/-- The whole number is nearest to the number, and even if there is another one that is so. -/
structure IsNearest (r : Nat) (x : ℚ) : Prop where
  lower : r - 1 / 2 ≤ x
  upper : x ≤ r + 1 / 2
  even_of_half : x = r - 1 / 2 ∨ x = r + 1 / 2 → Even r

theorem Represents.isNearest {em : ExtendedMantissa} (h : Represents em x) :
    IsNearest em.roundedMantissa x := by
  obtain ⟨m, roundBit, stickyBit⟩ := em
  simp only [Represents] at h
  rw [roundedMantissa_eq]
  cases roundBit
  · -- Less than half is cut off.
    have hbounds : 0 ≤ x - m ∧ x - m < 1 / 2 := by
      cases stickyBit
      · exact ⟨h.ge, h.trans_lt (by norm_num)⟩
      · exact ⟨h.1.le, h.2⟩
    simp only [Bool.false_and, Bool.toNat_false, add_zero]
    refine ⟨by linarith, by linarith, ?_⟩
    rintro (heq | heq) <;> linarith
  · cases stickyBit
    · -- Exactly one half is cut off.
      simp only [Remainder] at h
      rcases Nat.mod_two_eq_zero_or_one m with hm | hm <;> simp [hm]
      · exact ⟨by linarith, by linarith, fun _ => Nat.even_iff.mpr hm⟩
      · refine ⟨by push_cast; linarith, by push_cast; linarith, fun _ => ?_⟩
        rw [Nat.even_add_one, Nat.even_iff]
        omega
    · simp only [Remainder] at h
      simp only [Bool.true_or, Bool.true_and, Bool.toNat_true]
      refine ⟨by push_cast; linarith, by push_cast; linarith, ?_⟩
      push_cast
      rintro (heq | heq) <;> linarith

/-- A rounded mantissa that fits is the one of the double. -/
theorem IsNearest.covers (h : IsNearest r x) (hx : r = 2 ^ 52 → -1074 < t → 2 ^ 52 ≤ x) :
    Covers r t (x * 2 ^ t) := by
  have hpos := two_zpow_pos (t - 2)
  have hsplit : x * 2 ^ t = 4 * x * 2 ^ (t - 2) := by
    rw [zpow_sub₀ (by norm_num)]
    ring
  rw [hsplit]
  refine ⟨?_, ?_, ?_⟩
  · apply mul_le_mul_of_nonneg_right _ hpos.le
    unfold quartersBelow
    split
    · next hleast =>
        have := hx hleast.1 hleast.2
        rw [hleast.1]
        push_cast
        linarith
    · have := h.lower
      push_cast
      linarith
  · apply mul_le_mul_of_nonneg_right _ hpos.le
    linarith [h.upper]
  · rintro (heq | heq)
    · have hquarters := mul_right_cancel₀ hpos.ne' heq
      unfold quartersBelow at hquarters
      split at hquarters
      · next hleast =>
          rw [hleast.1]
          decide
      · apply h.even_of_half (.inl _)
        push_cast at hquarters
        linarith
    · have hquarters := mul_right_cancel₀ hpos.ne' heq
      exact h.even_of_half (.inr (by linarith))

/-- A mantissa that has become too long by rounding is the least one of the next exponent. -/
theorem IsNearest.covers_next (h : IsNearest (2 ^ 53) x) (ht : -1074 ≤ t) :
    Covers (2 ^ 52) (t + 1) (x * 2 ^ t) := by
  have hpos := two_zpow_pos (t + 1 - 2)
  have hsplit : x * 2 ^ t = 2 * x * 2 ^ (t + 1 - 2) := by
    rw [show t + 1 - 2 = t - 1 by omega, zpow_sub_one₀ (by norm_num)]
    ring
  have hlower := h.lower
  have hupper := h.upper
  push_cast at hlower hupper
  rw [hsplit]
  refine ⟨?_, ?_, fun _ => by decide⟩
  · apply mul_le_mul_of_nonneg_right _ hpos.le
    rw [quartersBelow, if_pos ⟨rfl, by omega⟩]
    push_cast
    linarith
  · apply mul_le_mul_of_nonneg_right _ hpos.le
    push_cast
    linarith

/-! ## Rounding a result -/

/-- The number rounds to the unpacked double, if exponents are not bounded above. -/
def RoundsTo (v : ℚ) : UnpackedFloat → Prop
  | .zero s => s = .positive ∧ Covers 0 (-1074) v
  | .finite s m e _ => s = .positive ∧ Canonical m e ∧ Covers m e v
  | _ => False

/-- A number rounds to zero or to a positive double. -/
theorem RoundsTo.eq_zero_or_finite {u : UnpackedFloat} (h : RoundsTo v u) :
    u = .zero .positive ∧ Covers 0 (-1074) v ∨
      ∃ m e hm, u = .finite .positive m e hm ∧ Canonical m e ∧ Covers m e v := by
  cases u with
  | notANumber => exact h.elim
  | infinity s => exact h.elim
  | zero s =>
      obtain ⟨rfl, hcovers⟩ := h
      exact .inl ⟨rfl, hcovers⟩
  | finite s m e hm =>
      obtain ⟨rfl, hcanonical, hcovers⟩ := h
      exact .inr ⟨m, e, hm, rfl, hcanonical, hcovers⟩

theorem roundsTo_of_shift
    {acc : Accuracy} {em : ExtendedMantissa}
    (hshift : shiftToTargetExponent .binary64 m e acc = (em, t)) (hge : -1074 ≤ t)
    (hfull : 2 ^ 52 ≤ em.roundedMantissa ∨ t = -1074) (hle : em.roundedMantissa ≤ 2 ^ 53)
    (hrepresents : Represents em x) (hx : -1074 < t → 2 ^ 52 ≤ x) :
    RoundsTo (x * 2 ^ t) (roundWithAccuracy .binary64 .positive m e acc) := by
  have hnearest := hrepresents.isNearest
  rcases Nat.lt_or_eq_of_le hle with hlt | heq
  · have hcovers := hnearest.covers fun _ => hx
    rw [roundWithAccuracy_of_shifts hshift (shiftToTargetExponent_of_lt hlt hge)]
    split
    · next hzero =>
        obtain rfl : t = -1074 := hfull.resolve_left (by omega)
        rw [hzero] at hcovers
        exact ⟨rfl, hcovers⟩
    · next hnonzero => exact ⟨rfl, ⟨Nat.pos_of_ne_zero hnonzero, hlt, hfull, hge⟩, hcovers⟩
  · rw [roundWithAccuracy_of_shifts hshift (heq ▸ shiftToTargetExponent_two_pow hge),
      dif_neg (by decide)]
    rw [heq] at hnearest
    exact ⟨rfl, ⟨by decide, by decide, .inl le_rfl, by omega⟩, hnearest.covers_next hge⟩

/-- A result that is rounded becomes the double to whose interval its exact value belongs. -/
theorem roundsTo_roundWithAccuracy
    {acc : Accuracy} (hfull : 2 ^ 52 ≤ m ∨ e ≤ -1074)
    (hrepresents : Represents (ExtendedMantissa.ofMantissaAndAccuracy m acc) x) :
    RoundsTo (x * 2 ^ e) (roundWithAccuracy .binary64 .positive m e acc) := by
  obtain ⟨k, hshift, hlower, hge, hrounded, hrounded'⟩ := exists_shift acc hfull
  have hscaled : x * 2 ^ e = x / 2 ^ k * 2 ^ (e + k) := by
    rw [zpow_add₀ (by norm_num), zpow_natCast]
    field_simp
  rw [hscaled]
  apply roundsTo_of_shift hshift hge hrounded hrounded' (hrepresents.shiftRight k)
  intro hlt
  have hm : (2 : ℚ) ^ (52 + k) ≤ m := by exact_mod_cast hlower.resolve_right (by omega)
  have hmantissa := hrepresents.mantissa_le
  rw [mantissa_ofMantissaAndAccuracy] at hmantissa
  rw [le_div_iff₀ (by positivity), ← pow_add]
  exact hm.trans hmantissa

/-! ## Products and quotients -/

theorem roundsTo_mul
    {h : 0 < m} {h' : 0 < m'} (hfull : 2 ^ 52 ≤ m * m' ∨ e + e' ≤ -1074) :
    RoundsTo (m * 2 ^ e * (m' * 2 ^ e'))
      (UnpackedFloat.mul .binary64 (.finite .positive m e h) (.finite .positive m' e' h')) := by
  have hproduct : (m * 2 ^ e * (m' * 2 ^ e') : ℚ) = (m * m' : Nat) * 2 ^ (e + e') := by
    rw [zpow_add₀ (by norm_num)]
    push_cast
    ring
  rw [hproduct]
  exact roundsTo_roundWithAccuracy hfull (represents_exact (m * m'))

theorem roundsTo_div {h : 0 < m} {h' : 0 < m'} :
    RoundsTo (m * 2 ^ e / (m' * 2 ^ e'))
      (UnpackedFloat.div .binary64 (.finite .positive m e h) (.finite .positive m' e' h')) := by
  obtain ⟨k, hcore, hfull, -⟩ := exists_divCore h h' e e'
  have hm' : (m' : ℚ) ≠ 0 := by exact_mod_cast h'.ne'
  have hquotient : (m * 2 ^ e / (m' * 2 ^ e') : ℚ) =
      ((m * 2 ^ k / m' : Nat) + (m * 2 ^ k % m' : Nat) / m') * 2 ^ (e - e' - k) := by
    have hdivision : (m * 2 ^ k : ℚ) = m' * (m * 2 ^ k / m' : Nat) + (m * 2 ^ k % m' : Nat) := by
      exact_mod_cast (Nat.div_add_mod (m * 2 ^ k) m').symm
    have hsum : ((m * 2 ^ k / m' : Nat) + (m * 2 ^ k % m' : Nat) / m' : ℚ) = m * 2 ^ k / m' := by
      rw [hdivision]
      field_simp
    rw [hsum, zpow_sub₀ (by norm_num), zpow_sub₀ (by norm_num), zpow_natCast]
    field_simp
  rw [hquotient, UnpackedFloat.div, hcore]
  exact roundsTo_roundWithAccuracy hfull (represents_fraction _ (Nat.mod_lt _ h'))

/-! ## Packing -/

/-- The number, which is not negative, rounds to the double. -/
def IsRounded (v : ℚ) (x : Float) : Prop :=
  RoundsTo v x.toModel.unpack ∨
    x.toModel.unpack = .infinity .positive ∧ overflowLimit ≤ v

theorem unpack_pack_of_overflow {h : 0 < m} (he : 972 ≤ e) :
    (Float.Model.pack (.finite .positive m e h)).unpack = .infinity .positive := by
  have hbias : ((Format.binary64.exponentBias : Nat) : Int) = 1023 := rfl
  have hwidth : ((Format.binary64.mantissaBitsWithoutImplicit : Nat) : Int) = 52 := rfl
  have hfields : 2 ^ Format.binary64.exponentBits = 2048 := rfl
  have hpack : UnpackedFloat.pack .binary64 (.finite .positive m e h) =
      UnpackedFloat.packedInfinity .binary64 .positive := by
    simp only [UnpackedFloat.pack, hbias, hwidth, hfields]
    rw [if_pos (by omega)]
  change UnpackedFloat.unpack .binary64 (UnpackedFloat.pack .binary64 _) = _
  rw [hpack]
  rfl

theorem isRounded_pack {u : UnpackedFloat} (h : RoundsTo v u) :
    IsRounded v (Float.ofModel (Float.Model.pack u)) := by
  obtain ⟨rfl, hcovers⟩ | ⟨m, e, hm, rfl, hcanonical, hcovers⟩ := h.eq_zero_or_finite
  · exact .inl ⟨rfl, hcovers⟩
  · rcases le_or_gt e 971 with hle | hgt
    · left
      change RoundsTo v (Float.Model.pack _).unpack
      rw [unpack_pack hcanonical hle]
      exact ⟨rfl, hcanonical, hcovers⟩
    · have hfull := hcanonical.full.resolve_right (by omega)
      exact .inr ⟨unpack_pack_of_overflow (by omega), hcovers.overflowLimit_le hfull (by omega)⟩

variable {y z : Float}

theorem isRounded_of_unpack {h : 0 < m} (hy : y.toModel.unpack = .finite .positive m e h) :
    IsRounded (m * 2 ^ e) y := by
  left
  rw [hy]
  exact ⟨rfl, (canonical_of_unpack hy).1, covers_self m e⟩

/-- What is at most half of the least double rounds to zero. -/
theorem isRounded_zero (hv : 0 ≤ v) (hle : v ≤ 2 ^ (-1075 : Int)) : IsRounded v 0.0 :=
  .inl ⟨rfl, (covers_zero_iff hv).mpr hle⟩

theorem isRounded_one : IsRounded 1 1.0 := by
  have hone : (1.0 : Float).toModel.unpack = .finite .positive (2 ^ 52) (-52) (by decide) := rfl
  have hrounded := isRounded_of_unpack hone
  rwa [show ((2 ^ 52 : Nat) : ℚ) * 2 ^ (-52 : Int) = 1 by norm_num] at hrounded

theorem RoundsTo.lt_overflowLimit (h : RoundsTo v y.toModel.unpack) : v < overflowLimit := by
  obtain ⟨-, hcovers⟩ | ⟨m, e, hm, hunpack, hcanonical, hcovers⟩ := h.eq_zero_or_finite
  · exact hcovers.lt_overflowLimit (by decide) (by decide)
  · exact hcovers.lt_overflowLimit hcanonical.lt (canonical_of_unpack hunpack).2

/-- The number rounds to one unpacked double only. -/
theorem RoundsTo.unique {u u' : UnpackedFloat} (h : RoundsTo v u) (h' : RoundsTo v u') :
    u = u' := by
  obtain ⟨rfl, hcovers⟩ | ⟨m, e, hm, rfl, hcanonical, hcovers⟩ := h.eq_zero_or_finite <;>
    obtain ⟨rfl, hcovers'⟩ | ⟨m', e', hm', rfl, hcanonical', hcovers'⟩ := h'.eq_zero_or_finite
  · rfl
  · have hzero := (hcovers.unique hcovers' normalized_zero hcanonical'.normalized).1
    omega
  · have hzero := (hcovers.unique hcovers' hcanonical.normalized normalized_zero).1
    omega
  · obtain ⟨rfl, rfl⟩ := hcovers.unique hcovers' hcanonical.normalized hcanonical'.normalized
    rfl

/-- A number rounds to one double only. -/
theorem IsRounded.unique (hy : IsRounded v y) (hz : IsRounded v z) : y = z := by
  rcases hy with hy | ⟨hy, hlimit⟩ <;> rcases hz with hz | ⟨hz, hlimit'⟩
  · apply eq_of_unpack_eq (hy.unique hz)
    intro hnan
    rw [hnan] at hy
    exact hy
  · exact absurd hy.lt_overflowLimit hlimit'.not_gt
  · exact absurd hz.lt_overflowLimit hlimit.not_gt
  · apply eq_of_unpack_eq (hy.trans hz.symm)
    rw [hy]
    exact nofun

/-- Rounding keeps the order. -/
theorem RoundsTo.isLE_compare {u u' : UnpackedFloat} (h : RoundsTo v u) (h' : RoundsTo w u')
    (hvw : v ≤ w) :
    (u.compare u').any (·.isLE) = true := by
  obtain ⟨rfl, hcovers⟩ | ⟨m, e, hm, rfl, hcanonical, hcovers⟩ := h.eq_zero_or_finite <;>
    obtain ⟨rfl, hcovers'⟩ | ⟨m', e', hm', rfl, hcanonical', hcovers'⟩ := h'.eq_zero_or_finite
  · rfl
  · rfl
  · have hge := hcanonical.ge
    have hle := hcovers.le_of_le hcovers' hcanonical.normalized normalized_zero hvw
    omega
  · have hle := hcovers.le_of_le hcovers' hcanonical.normalized hcanonical'.normalized hvw
    exact (isLE_compare_then e e' m m').mpr hle

theorem IsRounded.le_of_le (hy : IsRounded v y) (hz : IsRounded w z) (hvw : v ≤ w) : y ≤ z := by
  change decide (y.toModel ≤ z.toModel) = true
  rw [decide_eq_true_iff]
  change (y.toModel.unpack.compare z.toModel.unpack).any (·.isLE) = true
  rcases hz with hz | ⟨hz, hlimit⟩
  · rcases hy with hy | ⟨hy, hlimit⟩
    · exact hy.isLE_compare hz hvw
    · exact absurd (hlimit.trans hvw) hz.lt_overflowLimit.not_ge
  · rw [hz]
    rcases hy with hy | ⟨hy, -⟩
    · obtain ⟨hunpack, -⟩ | ⟨m, e, hm, hunpack, -⟩ := hy.eq_zero_or_finite <;>
        rw [hunpack] <;>
        rfl
    · rw [hy]
      rfl

/-- The double to which a number that is not negative rounds is not negative. -/
theorem IsRounded.nonneg (hy : IsRounded v y) (hv : 0 ≤ v) : (0.0 : Float) ≤ y :=
  (isRounded_zero le_rfl (two_zpow_pos _).le).le_of_le hy hv

theorem unpack_neg_zero {s : Sign} (hy : y.toModel.unpack = .zero s) :
    (-y).toModel.unpack = .zero (-s) := by
  change (Float.Model.pack y.toModel.unpack.neg).unpack = _
  rw [hy]
  cases s <;> rfl

theorem unpack_neg_of_finite
    {s : Sign} {h : 0 < m} (hy : y.toModel.unpack = .finite s m e h) :
    (-y).toModel.unpack = .finite (-s) m e h := by
  obtain ⟨hcanonical, hle⟩ := canonical_of_unpack hy
  change (Float.Model.pack y.toModel.unpack.neg).unpack = _
  rw [hy]
  exact unpack_pack hcanonical hle

/-- Its opposite is not negative if the number is so small that it rounds to zero. -/
theorem IsRounded.neg_nonneg_iff (hy : IsRounded v y) (hv : 0 ≤ v) :
    (0.0 : Float) ≤ -y ↔ v ≤ 2 ^ (-1075 : Int) := by
  have hzero : (0.0 : Float).toModel.unpack = .zero .positive := rfl
  rw [← covers_zero_iff hv, le_iff_comparison, comparison, hzero]
  rcases hy with hy | ⟨hinfinite, hlimit⟩
  · obtain ⟨hunpack, hcovers⟩ | ⟨m, e, hm, hunpack, hcanonical, hcovers⟩ := hy.eq_zero_or_finite
    · rw [unpack_neg_zero hunpack]
      exact iff_of_true (.inr rfl) hcovers
    · rw [unpack_neg_of_finite hunpack]
      refine iff_of_false (by rintro (h | h) <;> cases h) fun hcovers' => ?_
      have hm' := (hcovers.unique hcovers' hcanonical.normalized normalized_zero).1
      omega
  · have hneg : (-y).toModel.unpack = .infinity .negative := by
      change (Float.Model.pack y.toModel.unpack.neg).unpack = _
      rw [hinfinite]
      rfl
    rw [hneg]
    refine iff_of_false (by rintro (h | h) <;> cases h) fun hcovers => ?_
    exact (hcovers.lt_overflowLimit (by decide) (by decide)).not_ge hlimit

end Repricing
