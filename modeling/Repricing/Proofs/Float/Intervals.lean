import Repricing.Proofs.Float.Bits

/-!
# The numbers that round to a double

The numbers that round to one double make up an interval around it, which ends halfway to the
neighbouring doubles.  The ends belong to the double with the even mantissa.  Intervals of different
doubles have no number in common, and beyond the last of them a number rounds to infinity.
-/

namespace Repricing

/-- The quarters of the last place by which the interval of a double reaches below it. Below the
least mantissa of an exponent the doubles lie twice as dense. -/
def quartersBelow (m : Nat) (e : Int) : Nat :=
  if m = 2 ^ 52 ∧ -1074 < e then 1 else 2

/-- The number rounds to the mantissa at the exponent. -/
structure Covers (m : Nat) (e : Int) (v : ℚ) : Prop where
  lower : (4 * m - quartersBelow m e) * (2 : ℚ) ^ (e - 2) ≤ v
  upper : v ≤ (4 * m + 2) * (2 : ℚ) ^ (e - 2)
  even_of_end :
    v = (4 * m - quartersBelow m e) * (2 : ℚ) ^ (e - 2) ∨ v = (4 * m + 2) * (2 : ℚ) ^ (e - 2) →
      Even m

/-- From here on numbers round to infinity: halfway between the greatest double and the next power
of two. -/
def overflowLimit : ℚ :=
  (2 ^ 54 - 1) * 2 ^ (970 : Int)

variable {m m' : Nat} {e e' : Int} {v w : ℚ}

theorem two_zpow_pos (e : Int) : (0 : ℚ) < 2 ^ e :=
  zpow_pos (by norm_num) e

theorem quartersBelow_mem (m : Nat) (e : Int) : 1 ≤ quartersBelow m e ∧ quartersBelow m e ≤ 2 := by
  unfold quartersBelow
  split <;> decide

theorem covers_self (m : Nat) (e : Int) : Covers m e (m * 2 ^ e) := by
  have hpos := two_zpow_pos (e - 2)
  have hsplit : (m : ℚ) * 2 ^ e = 4 * m * 2 ^ (e - 2) := by
    rw [zpow_sub₀ (by norm_num)]
    ring
  have hbelow : (1 : ℚ) ≤ quartersBelow m e := by exact_mod_cast (quartersBelow_mem m e).1
  rw [hsplit]
  refine ⟨?_, ?_, ?_⟩
  · nlinarith
  · nlinarith
  · rintro (heq | heq)
    · have := mul_right_cancel₀ hpos.ne' heq
      linarith
    · have := mul_right_cancel₀ hpos.ne' heq
      linarith

/-! ## The intervals lie in order -/

/-- Two neighbouring intervals share their common end at most, and it belongs to one of them. -/
theorem not_covers_of_upper_le_lower
    (h : Covers m e v) (h' : Covers m' e' w) (hwv : w ≤ v)
    (hle : (4 * m + 2) * (2 : ℚ) ^ (e - 2) ≤ (4 * m' - quartersBelow m' e') * (2 : ℚ) ^ (e' - 2)) :
    Even m ∧ Even m' ∧
      (4 * m + 2) * (2 : ℚ) ^ (e - 2) = (4 * m' - quartersBelow m' e') * (2 : ℚ) ^ (e' - 2) := by
  have hends := hle.trans (h'.lower.trans hwv)
  have hupper : v = (4 * m + 2) * (2 : ℚ) ^ (e - 2) := le_antisymm h.upper hends
  have hlower : w = (4 * m' - quartersBelow m' e') * (2 : ℚ) ^ (e' - 2) :=
    le_antisymm (hwv.trans (h.upper.trans hle)) h'.lower
  exact ⟨h.even_of_end (.inr hupper), h'.even_of_end (.inl hlower),
    le_antisymm hle (h'.lower.trans (hwv.trans h.upper))⟩

/-- At one exponent the lesser mantissa has no number from the interval of the greater one on. -/
theorem Covers.not_mantissa_lt
    (h : Covers m e v) (h' : Covers m' e w) (hwv : w ≤ v) (hfull : 2 ^ 52 ≤ m ∨ e = -1074) :
    ¬ m < m' := by
  intro hlt
  have hpos := two_zpow_pos (e - 2)
  have hbelow : quartersBelow m' e = 2 := by
    unfold quartersBelow
    split
    · omega
    · rfl
  have hmantissa : ((m : ℚ) + 1) ≤ m' := by exact_mod_cast hlt
  obtain ⟨heven, heven', heq⟩ := not_covers_of_upper_le_lower h h' hwv (by
    rw [hbelow]
    push_cast
    nlinarith)
  rw [hbelow] at heq
  have hquarters := mul_right_cancel₀ hpos.ne' heq
  have hnext : (m' : ℚ) = m + 1 := by
    push_cast at hquarters
    linarith
  have hnext : m' = m + 1 := by exact_mod_cast hnext
  rw [hnext, Nat.even_add_one] at heven'
  exact heven' heven

/-- The numbers of an exponent end below the least double of a greater one. -/
theorem Covers.lt_of_exponent_lt (h : Covers m e v) (hm : m < 2 ^ 53) (hlt : e < e') :
    v < (2 ^ 54 - 1) * 2 ^ (e' - 2) := by
  have hpos := two_zpow_pos (e - 2)
  have hpower : 2 * (2 : ℚ) ^ (e - 2) ≤ 2 ^ (e' - 2) := by
    rw [← zpow_one_add₀ (by norm_num)]
    exact zpow_le_zpow_right₀ (by norm_num) (by omega)
  have hmantissa : (m : ℚ) + 1 ≤ 2 ^ 53 := by exact_mod_cast hm
  have hupper : (4 * m + 2) * (2 : ℚ) ^ (e - 2) ≤ (2 ^ 55 - 2) * 2 ^ (e - 2) := by
    gcongr
    linarith
  have hnext : (2 ^ 55 - 2 : ℚ) * 2 ^ (e - 2) ≤ (2 ^ 54 - 1) * 2 ^ (e' - 2) := by
    calc (2 ^ 55 - 2 : ℚ) * 2 ^ (e - 2)
      _ = (2 ^ 54 - 1) * (2 * 2 ^ (e - 2)) := by ring
      _ ≤ (2 ^ 54 - 1) * 2 ^ (e' - 2) := by gcongr
  apply lt_of_le_of_ne (h.upper.trans (hupper.trans hnext))
  -- The end itself does not belong to the greatest mantissa, which is odd.
  rintro rfl
  have heven := h.even_of_end (.inr (le_antisymm h.upper (hupper.trans hnext)))
  have hquarters := mul_right_cancel₀ hpos.ne' (le_antisymm hupper (hnext.trans h.upper))
  have hlast : (m : ℚ) + 1 = 2 ^ 53 := by linarith
  have hlast : m + 1 = 2 ^ 53 := by exact_mod_cast hlast
  have hodd : ¬ Even (m + 1) := fun hsucc => Nat.even_add_one.mp hsucc heven
  rw [hlast] at hodd
  exact hodd (by decide)

/-- The numbers of a full mantissa begin right below the least double of the exponent. -/
theorem Covers.le_of_full (h : Covers m e v) (hfull : 2 ^ 52 ≤ m) (he : -1074 < e) :
    (2 ^ 54 - 1) * 2 ^ (e - 2) ≤ v := by
  have hlower : (2 ^ 54 - 1 : ℚ) ≤ 4 * m - quartersBelow m e := by
    rcases Nat.lt_or_eq_of_le hfull with hmore | rfl
    · have hmantissa : (2 ^ 52 + 1 : ℚ) ≤ m := by exact_mod_cast hmore
      have hbelow : (quartersBelow m e : ℚ) ≤ 2 := by exact_mod_cast (quartersBelow_mem m e).2
      linarith
    · rw [quartersBelow, if_pos ⟨rfl, he⟩]
      norm_num
  exact (mul_le_mul_of_nonneg_right hlower (two_zpow_pos _).le).trans h.lower

/-- A mantissa and an exponent as doubles have them, or zero. -/
structure Normalized (m : Nat) (e : Int) : Prop where
  lt : m < 2 ^ 53
  full : 2 ^ 52 ≤ m ∨ e = -1074
  ge : -1074 ≤ e

theorem Canonical.normalized (h : Canonical m e) : Normalized m e :=
  ⟨h.lt, h.full, h.ge⟩

theorem normalized_zero : Normalized 0 (-1074) :=
  ⟨by decide, .inr rfl, le_rfl⟩

/-- The lesser of two numbers does not round to the greater double. -/
theorem Covers.le_of_le
    (h : Covers m e v) (h' : Covers m' e' w) (hnorm : Normalized m e) (hnorm' : Normalized m' e')
    (hvw : v ≤ w) :
    e < e' ∨ e = e' ∧ m ≤ m' := by
  have hge' := hnorm'.ge
  rcases lt_trichotomy e e' with hlt | rfl | hgt
  · exact .inl hlt
  · exact .inr ⟨rfl, not_lt.mp (h'.not_mantissa_lt h hvw hnorm'.full)⟩
  · have hfull := hnorm.full.resolve_right (by omega)
    have hbelow := h'.lt_of_exponent_lt hnorm'.lt hgt
    exact absurd hvw (hbelow.trans_le (h.le_of_full hfull (by omega))).not_ge

/-- A number rounds to one double only. -/
theorem Covers.unique
    (h : Covers m e v) (h' : Covers m' e' v) (hnorm : Normalized m e) (hnorm' : Normalized m' e') :
    m = m' ∧ e = e' := by
  have hle := h.le_of_le h' hnorm hnorm' le_rfl
  have hge := h'.le_of_le h hnorm' hnorm le_rfl
  omega

/-! ## The ends of the line -/

theorem Covers.lt_overflowLimit (h : Covers m e v) (hm : m < 2 ^ 53) (he : e ≤ 971) :
    v < overflowLimit :=
  h.lt_of_exponent_lt hm (by omega : e < 972)

theorem Covers.overflowLimit_le (h : Covers m e v) (hm : 2 ^ 52 ≤ m) (he : 972 ≤ e) :
    overflowLimit ≤ v := by
  have hpower : (2 : ℚ) ^ (970 : Int) ≤ 2 ^ (e - 2) :=
    zpow_le_zpow_right₀ (by norm_num) (by omega)
  calc overflowLimit
    _ ≤ (2 ^ 54 - 1) * 2 ^ (e - 2) := by
      rw [overflowLimit]
      exact mul_le_mul_of_nonneg_left hpower (by norm_num)
    _ ≤ v := h.le_of_full hm (by omega)

/-- A number that is not negative rounds to zero if it is at most half of the least double. -/
theorem covers_zero_iff (hv : 0 ≤ v) : Covers 0 (-1074) v ↔ v ≤ 2 ^ (-1075 : Int) := by
  have hsplit : (2 : ℚ) ^ (-1075 : Int) = 2 * 2 ^ (-1074 - 2 : Int) := by
    rw [← zpow_one_add₀ (by norm_num)]
    rfl
  have hpos := two_zpow_pos (-1074 - 2)
  have hbelow : (1 : ℚ) ≤ quartersBelow 0 (-1074) := by
    exact_mod_cast (quartersBelow_mem 0 (-1074)).1
  rw [hsplit]
  constructor
  · intro h
    have hupper := h.upper
    rwa [Nat.cast_zero, mul_zero, zero_add] at hupper
  · intro hle
    refine ⟨?_, ?_, fun _ => by decide⟩
    · rw [Nat.cast_zero, mul_zero, zero_sub, neg_mul]
      have hproduct := mul_pos (by linarith : (0 : ℚ) < quartersBelow 0 (-1074)) hpos
      linarith
    · rwa [Nat.cast_zero, mul_zero, zero_add]

end Repricing
