import Repricing.Proofs.Float.Bounds

/-!
# Sums and differences of doubles

A double is a whole multiple of the least positive one, and so is the exact sum or difference of
two doubles.  Rounding such a multiple to a double keeps the order.  So taking away more leaves no
more, and a sum of numbers that are not negative is not below its parts.
-/

namespace Repricing

open Float.Model (Format UnpackedFloat)
open Float.Model.UnpackedFloat (ExtendedMantissa Sign decreaseExponent roundWithAccuracy
  shiftToExponent shiftToTargetExponent)

variable {m m' n n' k : Nat} {e e' : Int} {x y : Float} {u v : UnpackedFloat}

/-! ## Rounding whole numbers -/

/-- A whole number without its last `k` bits, rounded to the nearest; a tie goes to the even
neighbour. -/
def roundedShift (n k : Nat) : Nat :=
  ((⟨n, false, false⟩ : ExtendedMantissa) >>> k).roundedMantissa

/-- A whole number rounded to fifty-three bits. -/
def nearest (n : Nat) : Nat :=
  roundedShift n (n.log2 - 52) * 2 ^ (n.log2 - 52)

/-- The last bit that is cut off, and whether any other one was set, is all that is kept. -/
theorem shiftRight_succ_eq (n k : Nat) :
    (⟨n, false, false⟩ : ExtendedMantissa) >>> (k + 1) =
      ⟨n / 2 ^ (k + 1), n / 2 ^ k % 2 != 0, n % 2 ^ k != 0⟩ := by
  induction k with
  | zero =>
      change (⟨n, false, false⟩ : ExtendedMantissa).shiftRightOne = _
      simp [ExtendedMantissa.shiftRightOne, Nat.mod_one]
  | succ k ih =>
      change ((⟨n, false, false⟩ : ExtendedMantissa) >>> (k + 1)).shiftRightOne = _
      have hquotient : n / 2 ^ (k + 1) / 2 = n / 2 ^ (k + 2) := by
        rw [Nat.div_div_eq_div_mul, ← pow_succ]
      have hrest : n % 2 ^ (k + 1) = n % 2 ^ k + 2 ^ k * (n / 2 ^ k % 2) := by
        rw [pow_succ, Nat.mod_mul]
      have hpos := Nat.two_pow_pos k
      rw [ih, ExtendedMantissa.shiftRightOne, hquotient, hrest]
      congr 1
      rcases Nat.mod_two_eq_zero_or_one (n / 2 ^ k) with hbit | hbit <;> simp [hbit]

theorem shiftRight_add (em : ExtendedMantissa) (j k : Nat) :
    em >>> (j + k) = (em >>> j) >>> k := by
  induction k with
  | zero => rfl
  | succ k ih =>
      change (em >>> (j + k)).shiftRightOne = ((em >>> j) >>> k).shiftRightOne
      rw [ih]

theorem roundedShift_mul_two_pow (n j k : Nat) :
    roundedShift (n * 2 ^ j) (j + k) = roundedShift n k := by
  rw [roundedShift, shiftRight_add, shiftRight_mul_two_pow, roundedShift]

theorem roundedShift_mem (n k : Nat) :
    n / 2 ^ k ≤ roundedShift n k ∧ roundedShift n k ≤ n / 2 ^ k + 1 := by
  have hrounded := roundedMantissa_mem ((⟨n, false, false⟩ : ExtendedMantissa) >>> k)
  rwa [mantissa_shiftRight] at hrounded

/-- A mantissa is rounded up if more than half of a unit was cut off, or half of it and the mantissa
is odd. -/
theorem roundedMantissa_eq (q : Nat) (roundBit stickyBit : Bool) :
    (⟨q, roundBit, stickyBit⟩ : ExtendedMantissa).roundedMantissa =
      q + (roundBit && (stickyBit || q % 2 == 1)).toNat := by
  rcases Nat.mod_two_eq_zero_or_one q with hq | hq <;> cases roundBit <;> cases stickyBit <;>
    simp [ExtendedMantissa.roundedMantissa, ExtendedMantissa.accuracy,
      UnpackedFloat.Accuracy.roundToNearestEven, hq]

theorem roundedShift_succ (n k : Nat) :
    roundedShift n (k + 1) =
      n / 2 ^ k / 2 +
        (n / 2 ^ k % 2 != 0 && (n % 2 ^ k != 0 || n / 2 ^ k / 2 % 2 == 1)).toNat := by
  rw [roundedShift, shiftRight_succ_eq, roundedMantissa_eq, pow_succ, Nat.div_div_eq_div_mul]

/-- Rounding keeps the order of whole numbers of which the same number of bits is cut off. -/
theorem roundedShift_mono (hle : n ≤ n') (k : Nat) : roundedShift n k ≤ roundedShift n' k := by
  cases k with
  | zero => exact hle
  | succ k =>
      rw [roundedShift_succ, roundedShift_succ]
      have hquotient : n / 2 ^ k ≤ n' / 2 ^ k := Nat.div_le_div_right hle
      rcases Nat.lt_or_eq_of_le hquotient with hlt | heq
      · -- An odd quotient is rounded up to the next even one at most.
        have hup := Bool.toNat_le
          (n / 2 ^ k % 2 != 0 && (n % 2 ^ k != 0 || n / 2 ^ k / 2 % 2 == 1))
        rcases Nat.mod_two_eq_zero_or_one (n / 2 ^ k) with heven | hodd
        · simp only [heven, bne_self_eq_false, Bool.false_and, Bool.toNat_false]
          omega
        · omega
      · have hrest : n % 2 ^ k ≤ n' % 2 ^ k := by
          have hn := Nat.div_add_mod n (2 ^ k)
          have hn' := Nat.div_add_mod n' (2 ^ k)
          rw [heq] at hn
          omega
        rw [heq]
        apply Nat.add_le_add_left
        apply Bool.toNat_le_toNat
        intro hup
        simp only [Bool.and_eq_true, Bool.or_eq_true, bne_iff_ne] at hup ⊢
        exact ⟨hup.1, hup.2.imp_left fun hne => by omega⟩

theorem div_two_pow_lt (n : Nat) : n / 2 ^ (n.log2 - 52) < 2 ^ 53 := by
  rw [Nat.div_lt_iff_lt_mul (Nat.two_pow_pos _), ← pow_add]
  exact Nat.lt_log2_self.trans_le (Nat.pow_le_pow_right (by decide) (by omega))

theorem le_div_two_pow (hlog : 52 ≤ n.log2) : 2 ^ 52 ≤ n / 2 ^ (n.log2 - 52) := by
  rw [Nat.le_div_iff_mul_le (Nat.two_pow_pos _), ← pow_add, Nat.add_sub_cancel' hlog]
  exact Nat.log2_self_le (by rintro rfl; simp at hlog)

theorem nearest_zero : nearest 0 = 0 := rfl

/-- A whole number whose bits fit stays as it is. -/
theorem nearest_mul_two_pow (hm : m < 2 ^ 53) (j : Nat) : nearest (m * 2 ^ j) = m * 2 ^ j := by
  have hlog : (m * 2 ^ j).log2 < 53 + j := by
    rcases Nat.eq_zero_or_pos (m * 2 ^ j) with hzero | hpos
    · rw [hzero, Nat.log2_zero]
      omega
    · rw [Nat.log2_lt hpos.ne', pow_add]
      exact Nat.mul_lt_mul_of_pos_right hm (Nat.two_pow_pos j)
  obtain ⟨i, hi⟩ : ∃ i, j = i + ((m * 2 ^ j).log2 - 52) :=
    ⟨j - ((m * 2 ^ j).log2 - 52), by omega⟩
  have hsplit : m * 2 ^ j = m * 2 ^ i * 2 ^ ((m * 2 ^ j).log2 - 52) := by
    rw [mul_assoc, ← pow_add, ← hi]
  have hexact := roundedShift_mul_two_pow (m * 2 ^ i) ((m * 2 ^ j).log2 - 52) 0
  rw [← hsplit, add_zero] at hexact
  rw [nearest, hexact]
  exact hsplit.symm

/-- Rounding to fifty-three bits keeps the order. -/
theorem nearest_mono (hle : n ≤ n') : nearest n ≤ nearest n' := by
  have hlog : n.log2 ≤ n'.log2 := log2_mono hle
  rcases Nat.lt_or_eq_of_le (Nat.sub_le_sub_right hlog 52) with hlt | heq
  · -- A power of two lies between the two numbers.
    have hlower : nearest n ≤ 2 ^ 53 * 2 ^ (n.log2 - 52) :=
      Nat.mul_le_mul_right _ ((roundedShift_mem n _).2.trans (div_two_pow_lt n))
    have hupper : 2 ^ 52 * 2 ^ (n'.log2 - 52) ≤ nearest n' :=
      Nat.mul_le_mul_right _ ((le_div_two_pow (by omega)).trans (roundedShift_mem n' _).1)
    calc nearest n
      _ ≤ 2 ^ 53 * 2 ^ (n.log2 - 52) := hlower
      _ = 2 ^ (53 + (n.log2 - 52)) := (pow_add _ _ _).symm
      _ ≤ 2 ^ (52 + (n'.log2 - 52)) := Nat.pow_le_pow_right (by decide) (by omega)
      _ = 2 ^ 52 * 2 ^ (n'.log2 - 52) := pow_add _ _ _
      _ ≤ nearest n' := hupper
  · rw [nearest, nearest, heq]
    exact Nat.mul_le_mul_right _ (roundedShift_mono hle _)

/-! ## Multiples of the least positive double -/

/-- The unpacked double is `n` times the least positive one. -/
def IsMultiple (n : Nat) : UnpackedFloat → Prop
  | .zero _ => n = 0
  | .finite s m e _ => s = .positive ∧ Canonical m e ∧ n = m * 2 ^ (e + 1074).toNat
  | _ => False

theorem IsMultiple.zero_or_finite (hu : IsMultiple n u) :
    (n = 0 ∧ ∃ s, u = .zero s) ∨
      ∃ m e hpos, u = .finite .positive m e hpos ∧ Canonical m e ∧
        n = m * 2 ^ (e + 1074).toNat := by
  cases u with
  | notANumber => exact hu.elim
  | infinity s => exact hu.elim
  | zero s => exact .inl ⟨hu, s, rfl⟩
  | finite s m e hpos =>
      obtain ⟨rfl, hcanonical, rfl⟩ := hu
      exact .inr ⟨m, e, hpos, rfl, hcanonical, rfl⟩

theorem log2_mul_two_pow (hm : 0 < m) (j : Nat) : (m * 2 ^ j).log2 = m.log2 + j := by
  rw [Nat.log2_eq_iff (Nat.mul_pos hm (Nat.two_pow_pos j)).ne', pow_add, Nat.add_right_comm, pow_add]
  exact ⟨Nat.mul_le_mul_right _ (Nat.log2_self_le hm.ne'),
    Nat.mul_lt_mul_of_pos_right Nat.lt_log2_self (Nat.two_pow_pos j)⟩

/-- A mantissa that has been rounded is the nearest multiple, if it needed no more places. -/
theorem isMultiple_of_shift
    {acc : UnpackedFloat.Accuracy} {em : ExtendedMantissa} {t : Int}
    (hshift : shiftToTargetExponent .binary64 m e acc = (em, t))
    (hfull : 2 ^ 52 ≤ em.roundedMantissa ∨ t = -1074) (hge : -1074 ≤ t)
    (hle : em.roundedMantissa ≤ 2 ^ 53) :
    IsMultiple (em.roundedMantissa * 2 ^ (t + 1074).toNat)
      (roundWithAccuracy .binary64 .positive m e acc) := by
  rcases Nat.lt_or_eq_of_le hle with hlt | heq
  · rw [roundWithAccuracy_of_shifts hshift (shiftToTargetExponent_of_lt hlt hge)]
    split
    · next hzero =>
        rw [hzero, zero_mul]
        rfl
    · next hzero => exact ⟨rfl, ⟨Nat.pos_of_ne_zero hzero, hlt, hfull, hge⟩, rfl⟩
  · rw [roundWithAccuracy_of_shifts hshift (heq ▸ shiftToTargetExponent_two_pow hge),
      dif_neg (by decide), heq]
    refine ⟨rfl, ⟨by decide, by decide, .inl le_rfl, by omega⟩, ?_⟩
    have hnext : (t + 1 + 1074).toNat = (t + 1074).toNat + 1 := by omega
    rw [hnext, pow_succ']
    ring

/-- A whole number of the least positive doubles is rounded to the nearest one that is a double. -/
theorem isMultiple_round (hm : 0 < m) (he : -1074 ≤ e) :
    IsMultiple (nearest (m * 2 ^ (e + 1074).toNat))
      (UnpackedFloat.round .binary64 .positive m e) := by
  obtain ⟨t, ht⟩ : ∃ t : Int, t = max (m.log2 + 1 + e - 53) (-1074) := ⟨_, rfl⟩
  obtain ⟨k, hk⟩ : ∃ k : Nat, k = (e - t).toNat := ⟨_, rfl⟩
  obtain ⟨j, hj⟩ : ∃ j : Nat, j = (t - (e - k)).toNat := ⟨_, rfl⟩
  have hbits : (m * 2 ^ (e + 1074).toNat).log2 - 52 = (t + 1074).toNat := by
    rw [log2_mul_two_pow hm]
    omega
  have hsplit : m * 2 ^ (e + 1074).toNat = m * 2 ^ k * 2 ^ (e - k + 1074).toNat := by
    rw [mul_assoc, ← pow_add]
    congr 2
    omega
  have hsame : roundedShift (m * 2 ^ (e + 1074).toNat) (t + 1074).toNat =
      roundedShift (m * 2 ^ k) j := by
    rw [hsplit, ← roundedShift_mul_two_pow (m * 2 ^ k) (e - k + 1074).toNat j]
    congr 1
    omega
  have hshift : shiftToTargetExponent .binary64 (m * 2 ^ k) (e - k) .exact =
      ((⟨m * 2 ^ k, false, false⟩ : ExtendedMantissa) >>> j, t) := by
    have htarget : max ((m * 2 ^ k).log2 + 1 + (e - k) - 53) (-1074) = t := by
      rw [log2_mul_two_pow hm]
      omega
    have hexponent : e - k + j = t := by omega
    rw [shiftToTargetExponent, shiftToExponent, targetExponent_eq, htarget, ← hj, hexponent]
    rfl
  obtain ⟨hlower, hupper⟩ := roundedShift_mem (m * 2 ^ (e + 1074).toNat) (t + 1074).toNat
  have hlt := div_two_pow_lt (m * 2 ^ (e + 1074).toNat)
  rw [hbits] at hlt
  rw [round_eq, ← ht, ← hk, nearest, hbits, hsame]
  apply isMultiple_of_shift hshift
  · by_cases hmin : t = -1074
    · exact .inr hmin
    · have hfull := le_div_two_pow (n := m * 2 ^ (e + 1074).toNat) (by omega)
      rw [hbits] at hfull
      exact .inl (hfull.trans (hlower.trans hsame.le))
  · omega
  · exact hsame.symm.le.trans (hupper.trans hlt)

theorem isMultiple_normalize (d : Nat) (he : -1074 ≤ e) :
    IsMultiple (nearest (d * 2 ^ (e + 1074).toNat))
      (UnpackedFloat.normalize .binary64 d e .positive) := by
  rcases Nat.eq_zero_or_pos d with rfl | hpos
  · rw [zero_mul, nearest_zero]
    rfl
  · rw [normalize_natCast hpos]
    exact isMultiple_round hpos he

theorem IsMultiple.nearest_eq (hu : IsMultiple n u) : nearest n = n := by
  rcases hu.zero_or_finite with ⟨rfl, -⟩ | ⟨m, e, hpos, -, hcanonical, rfl⟩
  · exact nearest_zero
  · exact nearest_mul_two_pow hcanonical.lt _

/-- Two multiples of powers of two are multiples of the lower one. -/
theorem Canonical.mul_two_pow_min (h : Canonical m e) (h' : Canonical m' e') :
    -1074 ≤ min e e' ∧
      m * 2 ^ (e + 1074).toNat =
        m * 2 ^ (e - min e e').toNat * 2 ^ (min e e' + 1074).toNat ∧
      m' * 2 ^ (e' + 1074).toNat =
        m' * 2 ^ (e' - min e e').toNat * 2 ^ (min e e' + 1074).toNat := by
  have hge : -1074 ≤ min e e' := le_min h.ge h'.ge
  rw [mul_assoc, mul_assoc, ← pow_add, ← pow_add]
  refine ⟨hge, ?_, ?_⟩
  · congr 2
    omega
  · congr 2
    omega

theorem isMultiple_sub (hu : IsMultiple n u) (hv : IsMultiple n' v) (hle : n' ≤ n) :
    IsMultiple (nearest (n - n')) (UnpackedFloat.sub .binary64 u v) := by
  rcases hv.zero_or_finite with ⟨rfl, s', rfl⟩ | ⟨m', e', hpos', rfl, hcanonical', rfl⟩
  · rw [Nat.sub_zero, hu.nearest_eq]
    rcases hu.zero_or_finite with ⟨rfl, s, rfl⟩ | ⟨m, e, hpos, rfl, -⟩
    · rw [UnpackedFloat.sub]
      split <;> rfl
    · exact hu
  · rcases hu.zero_or_finite with ⟨rfl, -⟩ | ⟨m, e, hpos, rfl, hcanonical, rfl⟩
    · exact absurd (Nat.mul_pos hpos' (Nat.two_pow_pos _)) (Nat.not_lt_of_le hle)
    · obtain ⟨hge, hn, hn'⟩ := hcanonical.mul_two_pow_min hcanonical'
      rw [hn, hn'] at hle ⊢
      have hless := Nat.le_of_mul_le_mul_right hle (Nat.two_pow_pos _)
      have hmantissa : Sign.positive.apply (m * 2 ^ (e - min e e').toNat : Nat)
          - Sign.positive.apply (m' * 2 ^ (e' - min e e').toNat : Nat) =
            (m * 2 ^ (e - min e e').toNat - m' * 2 ^ (e' - min e e').toNat : Nat) := by
        simp only [Sign.apply]
        omega
      simp only [UnpackedFloat.sub, decreaseExponent, Nat.shiftLeft_eq]
      rw [hmantissa, ← Nat.sub_mul]
      exact isMultiple_normalize _ hge

theorem isMultiple_add (hu : IsMultiple n u) (hv : IsMultiple n' v) :
    IsMultiple (nearest (n + n')) (UnpackedFloat.add .binary64 u v) := by
  rcases hv.zero_or_finite with ⟨rfl, s', rfl⟩ | ⟨m', e', hpos', rfl, hcanonical', rfl⟩
  · rw [Nat.add_zero, hu.nearest_eq]
    rcases hu.zero_or_finite with ⟨rfl, s, rfl⟩ | ⟨m, e, hpos, rfl, -⟩
    · rw [UnpackedFloat.add]
      split <;> exact hu
    · exact hu
  · rcases hu.zero_or_finite with ⟨rfl, s, rfl⟩ | ⟨m, e, hpos, rfl, hcanonical, rfl⟩
    · rw [Nat.zero_add, hv.nearest_eq]
      exact hv
    · obtain ⟨hge, hn, hn'⟩ := hcanonical.mul_two_pow_min hcanonical'
      have hmantissa : Sign.positive.apply (m * 2 ^ (e - min e e').toNat : Nat)
          + Sign.positive.apply (m' * 2 ^ (e' - min e e').toNat : Nat) =
            (m * 2 ^ (e - min e e').toNat + m' * 2 ^ (e' - min e e').toNat : Nat) := by
        simp only [Sign.apply]
        omega
      simp only [UnpackedFloat.add, decreaseExponent, Nat.shiftLeft_eq]
      rw [hn, hn', hmantissa, ← Nat.add_mul]
      exact isMultiple_normalize _ hge

/-! ## Comparisons -/

theorem Canonical.mul_two_pow_lt
    (h : Canonical m e) (h' : Canonical m' e') (hlt : e < e') :
    m * 2 ^ (e + 1074).toNat < m' * 2 ^ (e' + 1074).toNat := by
  have hge := h.ge
  have hfull : 2 ^ 52 ≤ m' := h'.full.resolve_right (by omega)
  calc m * 2 ^ (e + 1074).toNat
    _ < 2 ^ 53 * 2 ^ (e + 1074).toNat := Nat.mul_lt_mul_of_pos_right h.lt (Nat.two_pow_pos _)
    _ = 2 ^ 52 * 2 ^ ((e + 1074).toNat + 1) := by ring
    _ ≤ 2 ^ 52 * 2 ^ (e' + 1074).toNat :=
      Nat.mul_le_mul_left _ (Nat.pow_le_pow_right (by decide) (by omega))
    _ ≤ m' * 2 ^ (e' + 1074).toNat := Nat.mul_le_mul_right _ hfull

/-- Multiples compare as their factors. -/
theorem IsMultiple.compare_eq (hu : IsMultiple n u) (hv : IsMultiple n' v) :
    u.compare v = some (compare n n') := by
  rcases hu.zero_or_finite with ⟨rfl, s, rfl⟩ | ⟨m, e, hpos, rfl, hcanonical, rfl⟩
  · rcases hv.zero_or_finite with ⟨rfl, s', rfl⟩ | ⟨m', e', hpos', rfl, -, rfl⟩
    · rfl
    · rw [compare_lt_iff_lt.mpr (Nat.mul_pos hpos' (Nat.two_pow_pos _))]
      rfl
  · rcases hv.zero_or_finite with ⟨rfl, s', rfl⟩ | ⟨m', e', hpos', rfl, hcanonical', rfl⟩
    · rw [compare_gt_iff_gt.mpr (Nat.mul_pos hpos (Nat.two_pow_pos _))]
      rfl
    · change some ((compare e e').then (compare m m')) = _
      rcases lt_trichotomy e e' with hlt | rfl | hgt
      · rw [compare_lt_iff_lt.mpr hlt,
          compare_lt_iff_lt.mpr (hcanonical.mul_two_pow_lt hcanonical' hlt)]
        rfl
      · have hscale : StrictMono fun i : Nat => i * 2 ^ (e + 1074).toNat := fun _ _ hlt =>
          Nat.mul_lt_mul_of_pos_right hlt (Nat.two_pow_pos _)
        rw [compare_eq_iff_eq.mpr rfl, ← cmp_eq_compare, ← cmp_eq_compare,
          ← hscale.cmp_map_eq m m']
        rfl
      · rw [compare_gt_iff_gt.mpr hgt,
          compare_gt_iff_gt.mpr (hcanonical'.mul_two_pow_lt hcanonical hgt)]
        rfl

theorem IsMultiple.le_iff
    (hx : IsMultiple n x.toModel.unpack) (hy : IsMultiple n' y.toModel.unpack) :
    x ≤ y ↔ n ≤ n' := by
  rw [le_iff_comparison, comparison, hx.compare_eq hy, Option.some.injEq, Option.some.injEq,
    compare_lt_iff_lt, compare_eq_iff_eq]
  exact Nat.le_iff_lt_or_eq.symm

/-- One is a power of two, and not too high a one for sums. -/
theorem exists_isMultiple_one :
    ∃ k : Nat, k < 2097 ∧ IsMultiple (2 ^ k) (1.0 : Float).toModel.unpack := by
  have hone : (1.0 : Float).toModel.unpack = .finite .positive (2 ^ 52) (-52) (by decide) := rfl
  obtain ⟨k, hk⟩ : ∃ k : Nat, k = (-52 + 1074 : Int).toNat := ⟨_, rfl⟩
  have hcanonical : Canonical (2 ^ 52) (-52) := ⟨by decide, by decide, .inl le_rfl, by decide⟩
  refine ⟨52 + k, by omega, ?_⟩
  rw [hone, IsMultiple, ← hk]
  exact ⟨rfl, hcanonical, pow_add 2 52 k⟩

/-- A double between zero and one is a multiple. -/
theorem exists_isMultiple (hunit : (0.0 : Float) ≤ x ∧ x ≤ 1.0) :
    ∃ n, IsMultiple n x.toModel.unpack := by
  have hone : (1.0 : Float).toModel.unpack = .finite .positive (2 ^ 52) (-52) (by decide) := rfl
  have hbounds := (atMost_iff hone).mpr hunit
  cases hunpack : x.toModel.unpack with
  | notANumber =>
      rw [hunpack] at hbounds
      exact hbounds.elim
  | infinity s =>
      rw [hunpack] at hbounds
      exact hbounds.elim
  | zero s => exact ⟨0, rfl⟩
  | finite s m e hpos =>
      rw [hunpack] at hbounds
      exact ⟨_, hbounds.1, hbounds.2.1, rfl⟩

/-! ## Sums and differences -/

theorem unpack_pack_of_isMultiple (hu : IsMultiple n u) (hn : n ≤ 2 ^ k) (hk : k < 2098) :
    (Float.Model.pack u).unpack = u := by
  rcases hu.zero_or_finite with ⟨-, s, rfl⟩ | ⟨m, e, hpos, rfl, hcanonical, rfl⟩
  · cases s <;> rfl
  · apply unpack_pack hcanonical
    by_contra hgt
    have hfull : 2 ^ 52 ≤ m := hcanonical.full.resolve_right (by omega)
    have hlower : 2 ^ k < m * 2 ^ (e + 1074).toNat := by
      calc 2 ^ k
        _ < 2 ^ (52 + (e + 1074).toNat) := Nat.pow_lt_pow_right (by decide) (by omega)
        _ = 2 ^ 52 * 2 ^ (e + 1074).toNat := pow_add _ _ _
        _ ≤ m * 2 ^ (e + 1074).toNat := Nat.mul_le_mul_right _ hfull
    exact Nat.not_lt_of_le hn hlower

theorem nearest_le_two_pow (hn : n ≤ 2 ^ k) : nearest n ≤ 2 ^ k := by
  have hpower := nearest_mul_two_pow (m := 1) (by decide) k
  rw [one_mul] at hpower
  exact (nearest_mono hn).trans hpower.le

theorem isMultiple_toModel_sub
    (hx : IsMultiple n x.toModel.unpack) (hy : IsMultiple n' y.toModel.unpack) (hle : n' ≤ n)
    (hn : n ≤ 2 ^ k) (hk : k < 2098) :
    IsMultiple (nearest (n - n')) (x - y).toModel.unpack := by
  have hdifference := isMultiple_sub hx hy hle
  have hbound := nearest_le_two_pow ((Nat.sub_le n n').trans hn)
  change IsMultiple _ (Float.Model.pack
    (UnpackedFloat.sub .binary64 x.toModel.unpack y.toModel.unpack)).unpack
  rwa [unpack_pack_of_isMultiple hdifference hbound hk]

theorem isMultiple_toModel_add
    (hx : IsMultiple n x.toModel.unpack) (hy : IsMultiple n' y.toModel.unpack)
    (hn : n ≤ 2 ^ k) (hn' : n' ≤ 2 ^ k) (hk : k < 2097) :
    IsMultiple (nearest (n + n')) (x + y).toModel.unpack := by
  have hsum := isMultiple_add hx hy
  have hbound : nearest (n + n') ≤ 2 ^ (k + 1) := by
    apply nearest_le_two_pow
    rw [Nat.two_pow_succ]
    exact Nat.add_le_add hn hn'
  change IsMultiple _ (Float.Model.pack
    (UnpackedFloat.add .binary64 x.toModel.unpack y.toModel.unpack)).unpack
  rwa [unpack_pack_of_isMultiple hsum hbound (Nat.succ_lt_succ hk)]

/-- If two doubles between zero and one are within a band of each other, then so are two doubles
that lie between them, also if the band is widened. -/
theorem sub_le_add_of_sub_le
    {low lower upper high band slack : Float} (hlow : (0.0 : Float) ≤ low ∧ low ≤ 1.0)
    (hlower : (0.0 : Float) ≤ lower ∧ lower ≤ 1.0) (hupper : (0.0 : Float) ≤ upper ∧ upper ≤ 1.0)
    (hhigh : (0.0 : Float) ≤ high ∧ high ≤ 1.0) (hband : (0.0 : Float) ≤ band ∧ band ≤ 1.0)
    (hslack : (0.0 : Float) ≤ slack ∧ slack ≤ 1.0) (hbelow : low ≤ lower) (hmiddle : lower ≤ upper)
    (habove : upper ≤ high) (hle : high - low ≤ band) :
    upper - lower ≤ band + slack := by
  obtain ⟨k, hk, hone⟩ := exists_isMultiple_one
  obtain ⟨l, hl⟩ := exists_isMultiple hlow
  obtain ⟨l', hl'⟩ := exists_isMultiple hlower
  obtain ⟨u, hu⟩ := exists_isMultiple hupper
  obtain ⟨h, hh⟩ := exists_isMultiple hhigh
  obtain ⟨b, hb⟩ := exists_isMultiple hband
  obtain ⟨d, hd⟩ := exists_isMultiple hslack
  have hll' := (hl.le_iff hl').mp hbelow
  have hlu := (hl'.le_iff hu).mp hmiddle
  have huh := (hu.le_iff hh).mp habove
  have hhone := (hh.le_iff hone).mp hhigh.2
  have hbone := (hb.le_iff hone).mp hband.2
  have hdone := (hd.le_iff hone).mp hslack.2
  have hwide := isMultiple_toModel_sub hh hl ((hll'.trans hlu).trans huh) hhone (by omega)
  have hnarrow := isMultiple_toModel_sub hu hl' hlu (huh.trans hhone) (by omega)
  have hsum := isMultiple_toModel_add hb hd hbone hdone hk
  apply (hnarrow.le_iff hsum).mpr
  calc nearest (u - l')
    _ ≤ nearest (h - l) := nearest_mono (tsub_le_tsub huh hll')
    _ ≤ b := (hwide.le_iff hb).mp hle
    _ = nearest b := hb.nearest_eq.symm
    _ ≤ nearest (b + d) := nearest_mono (Nat.le_add_right b d)

end Repricing
