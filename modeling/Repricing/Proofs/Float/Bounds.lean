import Repricing.Proofs.Float.Rounding

/-!
# Doubles below a bound

A double at most one times a double `c` is at most `c`, and a double at most `c` divided by `c` is
at most one.  Cutting off the places of a double, and writing a whole number as a double, do not go
beyond a bound either.
-/

namespace Repricing

open Float.Model (Format UnpackedFloat)
open Float.Model.UnpackedFloat (Sign accuracyOfFraction decreaseExponent divCore roundToInt
  roundWithAccuracy shiftToExponent)

variable {x y c : Float} {m M : Nat} {e E : Int}

/-! ## Bounds and comparisons -/

/-- The bounds of an unpacked double say how a double compares. -/
theorem atMost_iff {h : 0 < M} (hc : c.toModel.unpack = .finite .positive M E h) :
    AtMost M E x.toModel.unpack ↔ (0.0 : Float) ≤ x ∧ x ≤ c := by
  have hzero : (0.0 : Float).toModel.unpack = .zero .positive := rfl
  rw [le_iff_comparison, le_iff_comparison, comparison, comparison, hc, hzero]
  cases hx : x.toModel.unpack with
  | notANumber => simp [AtMost, UnpackedFloat.compare]
  | infinity s => cases s <;> simp [AtMost, UnpackedFloat.compare]
  | zero s => simp [AtMost, UnpackedFloat.compare]
  | finite s m e hm =>
      cases s with
      | negative => simp [AtMost, UnpackedFloat.compare]
      | positive =>
          have hcanonical := (canonical_of_unpack hx).1
          simp only [AtMost, UnpackedFloat.compare, Option.some.injEq, hcanonical, true_and,
            true_or, Ordering.then_eq_lt, Ordering.then_eq_eq, compare_lt_iff_lt,
            compare_eq_iff_eq]
          omega

theorem unpack_pack_of_atMost {u : UnpackedFloat} (hE : E ≤ 971) (hu : AtMost M E u) :
    (Float.Model.pack u).unpack = u := by
  cases u with
  | notANumber => exact hu.elim
  | infinity s => exact hu.elim
  | zero s => cases s <;> rfl
  | finite s m e h =>
      obtain ⟨-, hcanonical, hle⟩ := hu
      exact unpack_pack hcanonical (by omega)

/-- Only of what is not a number are there several doubles of one unpacked form. -/
theorem eq_of_unpack_eq (heq : x.toModel.unpack = y.toModel.unpack)
    (hnumber : x.toModel.unpack ≠ .notANumber) :
    x = y := by
  have hxbits := hasBits_toBits x
  have hybits := hasBits_toBits y
  rw [← heq] at hybits
  apply Float.toBits_inj.mp
  apply UInt64.toNat_inj.mp
  cases hunpack : x.toModel.unpack with
  | notANumber => exact absurd hunpack hnumber
  | infinity s =>
      rw [hunpack] at hxbits hybits
      exact hxbits.trans hybits.symm
  | zero s =>
      rw [hunpack] at hxbits hybits
      exact hxbits.trans hybits.symm
  | finite s m e h =>
      rw [hunpack] at hxbits hybits
      exact hxbits.2.2.trans hybits.2.2.symm

/-- What is at most a double with a full mantissa, at the lower exponent. -/
theorem le_mul_two_pow
    (hM : 2 ^ 52 ≤ M) (hm : m < 2 ^ 53) (hle : e < E ∨ e = E ∧ m ≤ M) :
    m ≤ M * 2 ^ (E - e).toNat := by
  rcases hle with hlt | ⟨rfl, hle⟩
  · obtain ⟨k, hk⟩ : ∃ k : Nat, (E - e).toNat = k + 1 := ⟨(E - e).toNat - 1, by omega⟩
    calc m
      _ ≤ 2 ^ 52 * 2 ^ 1 := by omega
      _ ≤ M * 2 ^ (E - e).toNat := by
        rw [hk]
        exact Nat.mul_le_mul hM (Nat.pow_le_pow_right (by decide) (Nat.le_add_left 1 k))
  · rw [sub_self, Int.toNat_zero, pow_zero, mul_one]
    exact hle

/-! ## Products and quotients -/

theorem atMost_mul
    {h : 0 < M} (hc : c.toModel.unpack = .finite .positive M E h) (hM : 2 ^ 52 ≤ M)
    (hx : AtMost (2 ^ 52) (-52) x.toModel.unpack) :
    AtMost M E (x * c).toModel.unpack := by
  have hbound := canonical_of_unpack hc
  have hproduct : AtMost M E (UnpackedFloat.mul .binary64 x.toModel.unpack c.toModel.unpack) := by
    rw [hc]
    cases hunpack : x.toModel.unpack with
    | notANumber =>
        rw [hunpack] at hx
        exact hx.elim
    | infinity s =>
        rw [hunpack] at hx
        exact hx.elim
    | zero s => trivial
    | finite s m e hm =>
        rw [hunpack] at hx
        obtain ⟨rfl, hcanonical, hle⟩ := hx
        have hscaled : m ≤ 2 ^ (-e).toNat := by
          have hscaled := le_mul_two_pow le_rfl hcanonical.lt hle
          rw [← pow_add] at hscaled
          convert hscaled using 2
          omega
        apply atMost_roundWithAccuracy hbound.1
        · exact .inl (hM.trans (Nat.le_mul_of_pos_left M hm))
        · omega
        · have hproduct : m * M ≤ M * 2 ^ (E - (e + E)).toNat := by
            rw [sub_add_cancel_right, mul_comm]
            exact Nat.mul_le_mul_left M hscaled
          rcases Nat.lt_or_eq_of_le hproduct with hlt | heq
          · exact .inl hlt
          · exact .inr ⟨heq, rfl⟩
  change AtMost M E (Float.Model.pack
    (UnpackedFloat.mul .binary64 x.toModel.unpack c.toModel.unpack)).unpack
  rwa [unpack_pack_of_atMost hbound.2 hproduct]

/-- The quotient of two mantissas is exact, or below the bound. -/
theorem div_lt_or_eq {n b : Nat} (hM : 0 < M) (hle : n ≤ b * M) :
    n / M < b ∨ n / M = b ∧ accuracyOfFraction (n % M) M = .exact := by
  rcases Nat.lt_or_eq_of_le hle with hlt | rfl
  · exact .inl ((Nat.div_lt_iff_lt_mul hM).mpr hlt)
  · rw [Nat.mul_mod_left]
    exact .inr ⟨Nat.mul_div_cancel b hM, rfl⟩

/-- The dividend is shifted until the quotient has enough bits. -/
theorem exists_divCore (hm : 0 < m) (hM : 0 < M) (e E : Int) :
    ∃ k : Nat,
      divCore .binary64 m e M E =
        (m * 2 ^ k / M, e - E - k, accuracyOfFraction (m * 2 ^ k % M) M) ∧
      (2 ^ 52 ≤ m * 2 ^ k / M ∨ e - E - k ≤ -1074) ∧
      (k : Int) =
        e - E - min (e - E) (max (m.log2 + 1 + e - (M.log2 + 1 + E) - 53) (-1074)) := by
  obtain ⟨t, ht⟩ : ∃ t : Int,
    t = min (e - E) (max (m.log2 + 1 + e - (M.log2 + 1 + E) - 53) (-1074)) := ⟨_, rfl⟩
  obtain ⟨k, hk⟩ : ∃ k : Nat, k = (e - E - t).toNat := ⟨_, rfl⟩
  have hexponent : e - E - k = t := by omega
  refine ⟨k, ?_, ?_, by omega⟩
  · rw [hexponent, hk, ht, ← Nat.shiftLeft_eq]
    rfl
  · rw [hexponent]
    by_cases hmin : t ≤ -1074
    · exact .inr hmin
    · left
      rw [Nat.le_div_iff_mul_le hM]
      calc 2 ^ 52 * M
        _ ≤ 2 ^ 52 * 2 ^ (M.log2 + 1) := Nat.mul_le_mul_left _ Nat.lt_log2_self.le
        _ = 2 ^ (52 + (M.log2 + 1)) := (pow_add 2 52 (M.log2 + 1)).symm
        _ ≤ 2 ^ (m.log2 + k) := Nat.pow_le_pow_right (by decide) (by omega)
        _ = 2 ^ m.log2 * 2 ^ k := pow_add 2 m.log2 k
        _ ≤ m * 2 ^ k := Nat.mul_le_mul_right _ (Nat.log2_self_le hm.ne')

theorem atMost_div
    {h : 0 < M} (hc : c.toModel.unpack = .finite .positive M E h) (hM : 2 ^ 52 ≤ M)
    (hx : AtMost M E x.toModel.unpack) :
    AtMost (2 ^ 52) (-52) (x / c).toModel.unpack := by
  have hone : Canonical (2 ^ 52) (-52) := ⟨by decide, by decide, .inl le_rfl, by decide⟩
  have hbound := canonical_of_unpack hc
  have hlogM : M.log2 = 52 := by
    have hlower := (Nat.le_log2 h.ne').mpr hM
    have hupper := (Nat.log2_lt h.ne').mpr hbound.1.lt
    omega
  have hquotient : AtMost (2 ^ 52) (-52)
      (UnpackedFloat.div .binary64 x.toModel.unpack c.toModel.unpack) := by
    rw [hc]
    cases hunpack : x.toModel.unpack with
    | notANumber =>
        rw [hunpack] at hx
        exact hx.elim
    | infinity s =>
        rw [hunpack] at hx
        exact hx.elim
    | zero s => trivial
    | finite s m e hm =>
        rw [hunpack] at hx
        obtain ⟨rfl, hcanonical, hle⟩ := hx
        have hlogm : m.log2 < 53 := log2_lt_of_lt hcanonical.lt
        obtain ⟨k, hcore, hfull, hk⟩ := exists_divCore hm h e E
        have hdividend : m * 2 ^ k ≤ 2 ^ (-(e - E - k)).toNat * M := by
          calc m * 2 ^ k
            _ ≤ M * 2 ^ (E - e).toNat * 2 ^ k :=
              Nat.mul_le_mul_right _ (le_mul_two_pow hM hcanonical.lt hle)
            _ = 2 ^ (-(e - E - k)).toNat * M := by
              rw [mul_assoc, ← pow_add, mul_comm]
              congr 2
              omega
        rw [UnpackedFloat.div, hcore]
        apply atMost_roundWithAccuracy hone hfull
        · omega
        · have hplaces : 52 + (-52 - (e - E - k)).toNat = (-(e - E - k)).toNat := by omega
          rw [← pow_add, hplaces]
          exact div_lt_or_eq h hdividend
  change AtMost (2 ^ 52) (-52) (Float.Model.pack
    (UnpackedFloat.div .binary64 x.toModel.unpack c.toModel.unpack)).unpack
  rwa [unpack_pack_of_atMost (by decide) hquotient]

/-! ## Whole numbers -/

variable {k n : UInt64}

theorem normalize_natCast (hpos : 0 < m) (e : Int) (s : Sign) :
    UnpackedFloat.normalize .binary64 m e s = UnpackedFloat.round .binary64 .positive m e := by
  have hsign : compare (m : Int) 0 = .gt := compare_gt_iff_gt.mpr (by omega)
  rw [UnpackedFloat.normalize, hsign]
  rfl

/-- A whole number below `2 ^ 53` is a double, with as many bits after its first as fit. -/
theorem unpack_toFloat (hpos : 0 < n.toNat) (hlt : n.toNat < 2 ^ 53) :
    ∃ h : Canonical (n.toNat * 2 ^ (52 - n.toNat.log2)) (n.toNat.log2 - 52),
      n.toFloat.toModel.unpack =
        .finite .positive (n.toNat * 2 ^ (52 - n.toNat.log2)) (n.toNat.log2 - 52) h.pos := by
  obtain ⟨h, hround⟩ := round_of_whole (s := .positive) hpos hlt
  have hlog : n.toNat.log2 < 53 := log2_lt_of_lt hlt
  refine ⟨h, ?_⟩
  change (Float.Model.pack (UnpackedFloat.ofInt .binary64 n.toNat)).unpack = _
  rw [UnpackedFloat.ofInt, normalize_natCast hpos, hround]
  exact unpack_pack h (by omega)

theorem log2_mono {i j : Nat} (hij : i ≤ j) : i.log2 ≤ j.log2 := by
  rcases Nat.eq_zero_or_pos i with rfl | hpos
  · exact Nat.zero_le _
  · exact (Nat.le_log2 (by omega)).mpr ((Nat.log2_self_le hpos.ne').trans hij)

theorem full_of_whole (hpos : 0 < n.toNat) (hlt : n.toNat < 2 ^ 53) :
    2 ^ 52 ≤ n.toNat * 2 ^ (52 - n.toNat.log2) := by
  obtain ⟨⟨-, -, hfull, -⟩, -⟩ := unpack_toFloat hpos hlt
  omega

/-- Lesser whole numbers are lesser doubles. -/
theorem toFloat_le (hkn : k.toNat ≤ n.toNat) (hlt : n.toNat < 2 ^ 53) :
    (0.0 : Float) ≤ k.toFloat ∧ k.toFloat ≤ n.toFloat := by
  rcases Nat.eq_zero_or_pos n.toNat with hzero | hn
  · obtain rfl : n = 0 := UInt64.toNat_inj.mp hzero
    obtain rfl : k = 0 := UInt64.toNat_inj.mp (Nat.le_zero.mp hkn)
    decide
  · obtain ⟨hcanonical, hunpack⟩ := unpack_toFloat hn hlt
    apply (atMost_iff hunpack).mp
    rcases Nat.eq_zero_or_pos k.toNat with hzero | hk
    · obtain rfl : k = 0 := UInt64.toNat_inj.mp hzero
      trivial
    · obtain ⟨hcanonical', hunpack'⟩ := unpack_toFloat hk (hkn.trans_lt hlt)
      rw [hunpack']
      refine ⟨rfl, hcanonical', ?_⟩
      rcases Nat.lt_or_eq_of_le (log2_mono hkn) with hlog | hlog
      · exact .inl (by omega)
      · rw [hlog]
        exact .inr ⟨rfl, Nat.mul_le_mul_right _ hkn⟩

/-- The next whole number does not go beyond a greater whole number. -/
theorem toFloat_add_one_le (hkn : k.toNat < n.toNat) (hlt : n.toNat < 2 ^ 53) :
    (0.0 : Float) ≤ k.toFloat + 1.0 ∧ k.toFloat + 1.0 ≤ n.toFloat := by
  rcases Nat.eq_zero_or_pos k.toNat with hzero | hk
  · obtain rfl : k = 0 := UInt64.toNat_inj.mp hzero
    have hone : (0 : UInt64).toFloat + 1.0 = (1 : UInt64).toFloat := by decide
    rw [hone]
    exact toFloat_le hkn hlt
  · obtain ⟨hcanonical, hunpack⟩ := unpack_toFloat (by omega) hlt
    obtain ⟨hcanonical', hunpack'⟩ := unpack_toFloat hk (hkn.trans hlt)
    have hone : (1.0 : Float).toModel.unpack = .finite .positive (2 ^ 52) (-52) (by decide) := rfl
    have hlog : n.toNat.log2 < 53 := log2_lt_of_lt hlt
    have hsum : AtMost (n.toNat * 2 ^ (52 - n.toNat.log2)) (n.toNat.log2 - 52)
        (UnpackedFloat.add .binary64 k.toFloat.toModel.unpack (1.0 : Float).toModel.unpack) := by
      rw [hunpack', hone]
      have hmin : min ((k.toNat.log2 : Int) - 52) (-52) = -52 := by omega
      have hshift : ((k.toNat.log2 : Int) - 52 - -52).toNat = k.toNat.log2 := by omega
      have hlogk : k.toNat.log2 < 53 := log2_lt_of_lt (hkn.trans hlt)
      -- Both summands at the exponent of one.
      have hscaled : k.toNat * 2 ^ (52 - k.toNat.log2) * 2 ^ k.toNat.log2 = k.toNat * 2 ^ 52 := by
        rw [mul_assoc, ← pow_add, Nat.sub_add_cancel (by omega)]
      have hsame : (-52 - -52 : Int).toNat = 0 := rfl
      have hmantissa : Sign.positive.apply (k.toNat * 2 ^ 52 : Nat)
          + Sign.positive.apply (2 ^ 52 * 2 ^ 0 : Nat) = ((k.toNat + 1) * 2 ^ 52 : Nat) := by
        simp only [Sign.apply]
        omega
      simp only [UnpackedFloat.add, decreaseExponent, hmin, hshift, hsame, Nat.shiftLeft_eq,
        hscaled]
      rw [hmantissa, normalize_natCast (by omega)]
      apply atMost_round hcanonical (by omega) (by omega)
      have hsplit : ((n.toNat.log2 : Int) - 52 - -52).toNat = n.toNat.log2 := by omega
      rw [hsplit, mul_assoc, ← pow_add, Nat.sub_add_cancel (by omega)]
      exact Nat.mul_le_mul_right _ hkn
    apply (atMost_iff hunpack).mp
    change AtMost _ _ (Float.Model.pack (UnpackedFloat.add .binary64 k.toFloat.toModel.unpack
      (1.0 : Float).toModel.unpack)).unpack
    rwa [unpack_pack_of_atMost (by omega) hsum]

theorem sub_self_of_unpack
    {s : Sign} {h : 0 < m} (hx : x.toModel.unpack = .finite s m e h) :
    x - x = 0.0 := by
  change (⟨Float.Model.pack (UnpackedFloat.sub .binary64 x.toModel.unpack
    x.toModel.unpack)⟩ : Float) = 0.0
  rw [hx]
  simp only [UnpackedFloat.sub, sub_self, UnpackedFloat.normalize]
  rfl

theorem sub_self_of_isFinite (hfinite : x.isFinite = true) : x - x = 0.0 := by
  change x.toModel.unpack.isFinite = true at hfinite
  cases hx : x.toModel.unpack with
  | notANumber =>
      rw [hx] at hfinite
      cases hfinite
  | infinity s =>
      rw [hx] at hfinite
      cases hfinite
  | zero s =>
      change (⟨Float.Model.pack (UnpackedFloat.sub .binary64 x.toModel.unpack
        x.toModel.unpack)⟩ : Float) = 0.0
      rw [hx]
      cases s <;> rfl
  | finite s m e h => exact sub_self_of_unpack hx

/-- A double without its places. -/
theorem toNat_toUInt64
    {h : 0 < m} (hx : x.toModel.unpack = .finite .positive m e h) (he : e ≤ 0) :
    x.toUInt64.toNat = m / 2 ^ (-e).toNat := by
  have hm := (canonical_of_unpack hx).1.lt
  have hquotient : m / 2 ^ (-e).toNat ≤ m := Nat.div_le_self _ _
  have hshift : (e - 0).toNat = 0 := by omega
  have hwhole : roundToInt .positive m e = (m / 2 ^ (-e).toNat : Nat) := by
    simp only [roundToInt, decreaseExponent, shiftToExponent, hshift, mantissa_shiftRight,
      mantissa_ofMantissaAndAccuracy]
    rw [Nat.shiftLeft_zero, Int.natCast_zero, sub_zero, zero_sub]
    rfl
  change (UnpackedFloat.toUInt64 x.toModel.unpack).toNat = _
  rw [hx, UnpackedFloat.toUInt64, UnpackedFloat.toInt, hwhole, Int.toNat_natCast, UInt64.ofNatClamp,
    dif_pos (hquotient.trans_lt (hm.trans (by decide)))]
  rfl

theorem toUInt64_toFloat (hpos : 0 < n.toNat) (hlt : n.toNat < 2 ^ 53) :
    n.toFloat.toUInt64 = n := by
  obtain ⟨hcanonical, hunpack⟩ := unpack_toFloat hpos hlt
  have hlog : n.toNat.log2 < 53 := log2_lt_of_lt hlt
  have hplaces : (-((n.toNat.log2 : Int) - 52)).toNat = 52 - n.toNat.log2 := by omega
  rw [← UInt64.toNat_inj, toNat_toUInt64 hunpack (by omega), hplaces]
  exact Nat.mul_div_cancel _ (Nat.two_pow_pos _)

/-- A double that is at most a whole number is this number, or less than it without its places. -/
theorem toUInt64_lt_or_eq
    (hpos : 0 < n.toNat) (hlt : n.toNat < 2 ^ 53) (hx : (0.0 : Float) ≤ x) (hle : x ≤ n.toFloat) :
    x.toUInt64.toNat < n.toNat ∨ x = n.toFloat := by
  obtain ⟨hcanonical, hn⟩ := unpack_toFloat hpos hlt
  have hlog : n.toNat.log2 < 53 := log2_lt_of_lt hlt
  have hfull := full_of_whole hpos hlt
  have hatMost := (atMost_iff hn).mpr ⟨hx, hle⟩
  cases hunpack : x.toModel.unpack with
  | notANumber =>
      rw [hunpack] at hatMost
      exact hatMost.elim
  | infinity s =>
      rw [hunpack] at hatMost
      exact hatMost.elim
  | zero s =>
      left
      change (UnpackedFloat.toUInt64 x.toModel.unpack).toNat < n.toNat
      rw [hunpack]
      exact hpos
  | finite s m e h =>
      rw [hunpack] at hatMost
      obtain ⟨rfl, hcanonical', hbound⟩ := hatMost
      rcases hbound with hbelow | ⟨rfl, hmantissa⟩
      · left
        rw [toNat_toUInt64 hunpack (by omega), Nat.div_lt_iff_lt_mul (Nat.two_pow_pos _)]
        have hm := hcanonical'.lt
        calc m
          _ < n.toNat * 2 ^ (52 - n.toNat.log2) * 2 ^ 1 := by omega
          _ = n.toNat * 2 ^ (52 - n.toNat.log2 + 1) := by rw [mul_assoc, ← pow_add]
          _ ≤ n.toNat * 2 ^ (-e).toNat :=
            Nat.mul_le_mul_left _ (Nat.pow_le_pow_right (by decide) (by omega))
      · rcases Nat.lt_or_eq_of_le hmantissa with hless | rfl
        · left
          rw [toNat_toUInt64 hunpack (by omega), Nat.div_lt_iff_lt_mul (Nat.two_pow_pos _)]
          convert hless using 3
          omega
        · exact .inr (eq_of_unpack_eq (hunpack.trans hn.symm) (by rw [hunpack]; exact nofun))

end Repricing
