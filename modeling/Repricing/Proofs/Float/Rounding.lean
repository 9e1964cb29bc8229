import Repricing.Proofs.Float.Bits

/-!
# Rounding

An exact result is shifted until its mantissa fits, rounded to the nearest whole mantissa, and
shifted once more if rounding has made it too long.  What is rounded stays at most every double
that it was at most before.
-/

namespace Repricing

open Float.Model (Format UnpackedFloat totalExponent)
open Float.Model.UnpackedFloat (Accuracy ExtendedMantissa Sign decreaseExponent
  roundWithAccuracy shiftToExponent shiftToTargetExponent)

variable {m M r : Nat} {e E t : Int} {acc : Accuracy} {s : Sign}

/-! ## Shifts of a mantissa -/

theorem mantissa_shiftRight (em : ExtendedMantissa) (k : Nat) :
    (em >>> k).mantissa = em.mantissa / 2 ^ k := by
  induction k with
  | zero => exact (Nat.div_one _).symm
  | succ k ih =>
      have hstep : em >>> (k + 1) = (em >>> k).shiftRightOne := rfl
      rw [hstep, ExtendedMantissa.shiftRightOne, ih, Nat.div_div_eq_div_mul, pow_succ]

theorem shiftRight_mul_two_pow (m k : Nat) :
    (⟨m * 2 ^ k, false, false⟩ : ExtendedMantissa) >>> k = ⟨m, false, false⟩ := by
  induction k generalizing m with
  | zero =>
      rw [pow_zero, mul_one]
      rfl
  | succ k ih =>
      have hstep :
          (⟨m * 2 ^ (k + 1), false, false⟩ : ExtendedMantissa) >>> (k + 1) =
            ((⟨m * 2 * 2 ^ k, false, false⟩ : ExtendedMantissa) >>> k).shiftRightOne := by
        rw [mul_assoc, ← pow_succ']
        rfl
      rw [hstep, ih]
      simp [ExtendedMantissa.shiftRightOne]

theorem roundedMantissa_mem (em : ExtendedMantissa) :
    em.mantissa ≤ em.roundedMantissa ∧ em.roundedMantissa ≤ em.mantissa + 1 := by
  obtain ⟨m, roundBit, stickyBit⟩ := em
  cases roundBit <;> cases stickyBit <;>
    simp [ExtendedMantissa.roundedMantissa, ExtendedMantissa.accuracy,
      Accuracy.roundToNearestEven]
  omega

theorem mantissa_ofMantissaAndAccuracy (m : Nat) (acc : Accuracy) :
    (ExtendedMantissa.ofMantissaAndAccuracy m acc).mantissa = m := by
  rcases acc with _ | _ | _ | _ <;> rfl

/-- Rounding does not go beyond a whole mantissa. -/
theorem roundedMantissa_shiftRight_le
    {k : Nat} (hle : m < r * 2 ^ k ∨ m = r * 2 ^ k ∧ acc = .exact) :
    (ExtendedMantissa.ofMantissaAndAccuracy m acc >>> k).roundedMantissa ≤ r := by
  rcases hle with hlt | ⟨rfl, rfl⟩
  · have hmantissa := mantissa_shiftRight (ExtendedMantissa.ofMantissaAndAccuracy m acc) k
    rw [mantissa_ofMantissaAndAccuracy] at hmantissa
    have hbelow : m / 2 ^ k < r := (Nat.div_lt_iff_lt_mul (Nat.two_pow_pos k)).mpr hlt
    have hrounded := (roundedMantissa_mem (ExtendedMantissa.ofMantissaAndAccuracy m acc >>> k)).2
    omega
  · exact (congrArg ExtendedMantissa.roundedMantissa (shiftRight_mul_two_pow r k)).le

/-! ## Shifts to a target exponent -/

theorem targetExponent_eq (m : Nat) (e : Int) :
    Format.binary64.targetExponent (totalExponent m e) = max (m.log2 + 1 + e - 53) (-1074) := rfl

theorem log2_lt_of_lt {k : Nat} (hlt : m < 2 ^ (k + 1)) : m.log2 < k + 1 := by
  rcases Nat.eq_zero_or_pos m with rfl | hpos
  · exact Nat.succ_pos k
  · exact (Nat.log2_lt hpos.ne').mpr hlt

theorem shiftToTargetExponent_of_lt (hlt : m < 2 ^ 53) (hge : -1074 ≤ e) :
    shiftToTargetExponent .binary64 m e .exact = (⟨m, false, false⟩, e) := by
  have hlog := log2_lt_of_lt hlt
  have hshift : (Format.binary64.targetExponent (totalExponent m e) - e).toNat = 0 := by
    rw [targetExponent_eq]
    omega
  rw [shiftToTargetExponent, shiftToExponent, hshift]
  exact Prod.ext rfl (add_zero e)

theorem shiftToTargetExponent_two_pow (hge : -1074 ≤ e) :
    shiftToTargetExponent .binary64 (2 ^ 53) e .exact = (⟨2 ^ 52, false, false⟩, e + 1) := by
  have hshift : (Format.binary64.targetExponent (totalExponent (2 ^ 53) e) - e).toNat = 1 := by
    rw [targetExponent_eq, Nat.log2_two_pow]
    omega
  rw [shiftToTargetExponent, shiftToExponent, hshift]
  rfl

/-! ## Rounding -/

/-- A mantissa is rounded after a first shift, and fits after a second one. -/
theorem roundWithAccuracy_of_shifts
    {em : ExtendedMantissa} {t' : Int}
    (hfirst : shiftToTargetExponent .binary64 m e acc = (em, t))
    (hsecond : shiftToTargetExponent .binary64 em.roundedMantissa t .exact =
      (⟨r, false, false⟩, t')) :
    roundWithAccuracy .binary64 s m e acc =
      if h : r = 0 then .zero s else .finite s r t' (Nat.pos_of_ne_zero h) := by
  simp only [roundWithAccuracy, hfirst, hsecond]

theorem roundWithAccuracy_of_canonical (hcanonical : Canonical m e) :
    roundWithAccuracy .binary64 s m e .exact = .finite s m e hcanonical.pos := by
  have hshift := shiftToTargetExponent_of_lt hcanonical.lt hcanonical.ge
  rw [roundWithAccuracy_of_shifts hshift hshift]
  exact dif_neg hcanonical.pos.ne'

/-- The unpacked double is zero, or positive and at most `M * 2 ^ E`. -/
def AtMost (M : Nat) (E : Int) : UnpackedFloat → Prop
  | .zero _ => True
  | .finite s m e _ => s = .positive ∧ Canonical m e ∧ (e < E ∨ e = E ∧ m ≤ M)
  | _ => False

/-- A rounded mantissa below the bound leads to a double below the bound. -/
theorem atMost_roundWithAccuracy_of_shift
    {em : ExtendedMantissa} (hbound : Canonical M E)
    (hshift : shiftToTargetExponent .binary64 m e acc = (em, t))
    (hfull : 2 ^ 52 ≤ em.roundedMantissa ∨ t = -1074) (hge : -1074 ≤ t)
    (hle : em.roundedMantissa ≤ 2 ^ 53) (htE : t ≤ E)
    (hrounded : em.roundedMantissa ≤ M * 2 ^ (E - t).toNat) :
    AtMost M E (roundWithAccuracy .binary64 .positive m e acc) := by
  have hM := hbound.lt
  rcases Nat.lt_or_eq_of_le hle with hlt | heq
  · rw [roundWithAccuracy_of_shifts hshift (shiftToTargetExponent_of_lt hlt hge)]
    split
    · trivial
    · next hzero =>
        refine ⟨rfl, ⟨Nat.pos_of_ne_zero hzero, hlt, hfull, hge⟩, ?_⟩
        rcases lt_or_eq_of_le htE with htE | rfl
        · exact .inl htE
        · rw [sub_self, Int.toNat_zero, pow_zero, mul_one] at hrounded
          exact .inr ⟨rfl, hrounded⟩
  · rw [roundWithAccuracy_of_shifts hshift (heq ▸ shiftToTargetExponent_two_pow hge)]
    rw [heq] at hrounded
    -- The bound has no mantissa of fifty-four bits, so its exponent is the greater one.
    have hlt : t < E := by
      apply lt_of_le_of_ne htE
      rintro rfl
      rw [sub_self, Int.toNat_zero, pow_zero, mul_one] at hrounded
      omega
    rw [dif_neg (by decide)]
    refine ⟨rfl, ⟨by decide, by decide, .inl le_rfl, by omega⟩, ?_⟩
    rcases lt_or_eq_of_le (Int.add_one_le_iff.mpr hlt) with hnext | rfl
    · exact .inl hnext
    · rw [add_sub_cancel_left, Int.toNat_one, pow_one] at hrounded
      exact .inr ⟨rfl, by omega⟩

/-- The first shift leaves fifty-three bits of the mantissa, or ends at the least exponent. -/
theorem exists_shift (acc : Accuracy) (hfull : 2 ^ 52 ≤ m ∨ e ≤ -1074) :
    ∃ k : Nat,
      let em := ExtendedMantissa.ofMantissaAndAccuracy m acc >>> k
      shiftToTargetExponent .binary64 m e acc = (em, e + k) ∧
      (2 ^ (52 + k) ≤ m ∨ e + k = -1074) ∧ -1074 ≤ e + k ∧
      (2 ^ 52 ≤ em.roundedMantissa ∨ e + k = -1074) ∧ em.roundedMantissa ≤ 2 ^ 53 := by
  obtain ⟨k, hk⟩ : ∃ k : Nat, k = (max (m.log2 + 1 + e - 53) (-1074) - e).toNat := ⟨_, rfl⟩
  have hlog : 2 ^ 52 ≤ m → 52 ≤ m.log2 := fun h => (Nat.le_log2 (by omega)).mpr h
  have hexponent : e + k = max (m.log2 + 1 + e - 53) (-1074) := by omega
  have hupper : m < 2 ^ (53 + k) := by
    rcases Nat.eq_zero_or_pos m with rfl | hpos
    · exact Nat.two_pow_pos _
    · exact (Nat.log2_lt hpos.ne').mp (by omega)
  have hlower : 2 ^ (52 + k) ≤ m ∨ e + k = -1074 := by
    by_cases hmin : e + k = -1074
    · exact .inr hmin
    · have hpos : m ≠ 0 := by
        rintro rfl
        rw [Nat.log2_zero] at hexponent
        omega
      exact .inl ((Nat.le_log2 hpos).mp (by omega))
  have hmantissa := mantissa_shiftRight (ExtendedMantissa.ofMantissaAndAccuracy m acc) k
  rw [mantissa_ofMantissaAndAccuracy] at hmantissa
  have hrounded := roundedMantissa_mem (ExtendedMantissa.ofMantissaAndAccuracy m acc >>> k)
  rw [hmantissa] at hrounded
  refine ⟨k, ?_, hlower, by omega, ?_, ?_⟩
  · rw [shiftToTargetExponent, shiftToExponent, targetExponent_eq, ← hk]
  · rcases hlower with hlower | hmin
    · rw [pow_add] at hlower
      exact .inl (((Nat.le_div_iff_mul_le (Nat.two_pow_pos k)).mpr hlower).trans hrounded.1)
    · exact .inr hmin
  · have hquotient : m / 2 ^ k < 2 ^ 53 := by
      rw [Nat.div_lt_iff_lt_mul (Nat.two_pow_pos k), ← pow_add]
      exact hupper
    omega

/-- What is at most a double is still so when it has been rounded. -/
theorem atMost_roundWithAccuracy
    (hbound : Canonical M E) (hfull : 2 ^ 52 ≤ m ∨ e ≤ -1074) (heE : e ≤ E)
    (hle : m < M * 2 ^ (E - e).toNat ∨ m = M * 2 ^ (E - e).toNat ∧ acc = .exact) :
    AtMost M E (roundWithAccuracy .binary64 .positive m e acc) := by
  obtain ⟨k, hshift, hlower, hge, hrounded, hrounded'⟩ := exists_shift acc hfull
  have hmle : m ≤ M * 2 ^ (E - e).toNat := by
    rcases hle with hlt | ⟨heq, -⟩
    · exact hlt.le
    · exact heq.le
  -- The mantissa has at least as many bits as the shift leaves, and no more than the bound.
  have htE : e + k ≤ E := by
    rcases hlower with hlower | hmin
    · by_contra hcon
      have hpower : 2 ^ (53 + (E - e).toNat) ≤ 2 ^ (52 + k) :=
        Nat.pow_le_pow_right (by decide) (by omega)
      have hmlt : M * 2 ^ (E - e).toNat < 2 ^ (53 + (E - e).toNat) := by
        rw [pow_add]
        exact Nat.mul_lt_mul_of_pos_right hbound.lt (Nat.two_pow_pos _)
      omega
    · rw [hmin]
      exact hbound.ge
  have hsplit : M * 2 ^ (E - e).toNat = M * 2 ^ (E - (e + k)).toNat * 2 ^ k := by
    rw [mul_assoc, ← pow_add]
    congr 2
    omega
  rw [hsplit] at hle
  exact atMost_roundWithAccuracy_of_shift hbound hshift hrounded hge hrounded' htE
    (roundedMantissa_shiftRight_le hle)

/-- The exponent goes down until the mantissa is full or the exponent is the least one. -/
theorem round_eq (s : Sign) (m : Nat) (e : Int) :
    let k := (e - max (m.log2 + 1 + e - 53) (-1074)).toNat
    UnpackedFloat.round .binary64 s m e =
      roundWithAccuracy .binary64 s (m * 2 ^ k) (e - k) .exact := by
  dsimp only [UnpackedFloat.round, decreaseExponent]
  rw [targetExponent_eq, Nat.shiftLeft_eq]

/-- A sum or a whole number that is at most a double is still so when it has been rounded. -/
theorem atMost_round
    (hbound : Canonical M E) (hpos : 0 < m) (heE : e ≤ E) (hle : m ≤ M * 2 ^ (E - e).toNat) :
    AtMost M E (UnpackedFloat.round .binary64 .positive m e) := by
  obtain ⟨k, hk⟩ : ∃ k : Nat, k = (e - max (m.log2 + 1 + e - 53) (-1074)).toNat := ⟨_, rfl⟩
  rw [round_eq, ← hk]
  apply atMost_roundWithAccuracy hbound
  · by_cases hmin : e - k ≤ -1074
    · exact .inr hmin
    · have hpower : 2 ^ 52 ≤ 2 ^ (m.log2 + k) := Nat.pow_le_pow_right (by decide) (by omega)
      refine .inl (hpower.trans ?_)
      rw [pow_add]
      exact Nat.mul_le_mul_right _ (Nat.log2_self_le hpos.ne')
  · omega
  · have hsplit : (E - (e - k)).toNat = (E - e).toNat + k := by omega
    have hscaled : m * 2 ^ k ≤ M * 2 ^ (E - (e - k)).toNat := by
      rw [hsplit, pow_add, ← mul_assoc]
      exact Nat.mul_le_mul_right _ hle
    rcases Nat.lt_or_eq_of_le hscaled with hlt | heq
    · exact .inl hlt
    · exact .inr ⟨heq, rfl⟩

/-- Whole numbers below `2 ^ 53` are rounded to themselves. -/
theorem round_of_whole (hpos : 0 < m) (hlt : m < 2 ^ 53) :
    ∃ h : Canonical (m * 2 ^ (52 - m.log2)) (m.log2 - 52),
      UnpackedFloat.round .binary64 s m 0 =
        .finite s (m * 2 ^ (52 - m.log2)) (m.log2 - 52) h.pos := by
  have hlog : m.log2 < 53 := log2_lt_of_lt hlt
  have hk : (0 - max (m.log2 + 1 + (0 : Int) - 53) (-1074)).toNat = 52 - m.log2 := by omega
  have hexponent : (0 : Int) - (52 - m.log2 : Nat) = m.log2 - 52 := by omega
  have hlower : 2 ^ 52 ≤ m * 2 ^ (52 - m.log2) := by
    calc 2 ^ 52
      _ = 2 ^ m.log2 * 2 ^ (52 - m.log2) := by
        rw [← pow_add]
        congr 1
        omega
      _ ≤ m * 2 ^ (52 - m.log2) := Nat.mul_le_mul_right _ (Nat.log2_self_le hpos.ne')
  have hupper : m * 2 ^ (52 - m.log2) < 2 ^ 53 := by
    calc m * 2 ^ (52 - m.log2)
      _ < 2 ^ (m.log2 + 1) * 2 ^ (52 - m.log2) :=
        Nat.mul_lt_mul_of_pos_right Nat.lt_log2_self (Nat.two_pow_pos _)
      _ = 2 ^ 53 := by
        rw [← pow_add]
        congr 1
        omega
  have hcanonical : Canonical (m * 2 ^ (52 - m.log2)) (m.log2 - 52) :=
    ⟨by omega, hupper, .inl hlower, by omega⟩
  refine ⟨hcanonical, ?_⟩
  rw [round_eq, hk, hexponent]
  exact roundWithAccuracy_of_canonical hcanonical

end Repricing
