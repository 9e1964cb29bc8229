import Repricing.Decimal.Shortest
import Repricing.Proofs.Decimal.Layout
import Repricing.Proofs.Float.Intervals

/-!
# Shortest decimals round to their doubles

Whichever grid the shortest decimal of a double is found on, it lies in the interval of the numbers
that round to the double, and so does the value written out in full.
-/

namespace Repricing.Decimal

variable {m n : Nat} {e grid : Int} {tie : Tie} {i : Interval}

/-! ## Intervals in whole numbers -/

/-- The number of units that is taken lies between the ends of the interval. -/
theorem Interval.nearest?_mem
    (h : i.nearest? tie = some n) (hunit : 0 < i.unit) (hlower : i.lower ≤ i.value)
    (hupper : i.value < i.upper) :
    i.lower ≤ n * i.unit ∧ n * i.unit ≤ i.upper ∧
      (n * i.unit = i.lower ∨ n * i.unit = i.upper → i.closed = true) := by
  have hfloor : i.value / i.unit * i.unit ≤ i.value := Nat.div_mul_le_self _ _
  have hnext : i.value < (i.value / i.unit + 1) * i.unit := by
    rw [Nat.add_one_mul]
    exact Nat.lt_div_mul_add hunit
  have hneighbour :
      n = i.value / i.unit ∧ i.reachesDown n = true ∨
        n = i.value / i.unit + 1 ∧ i.reachesUp n = true := by
    unfold nearest? at h
    dsimp only at h
    split at h
    · next hdown hup =>
        split_ifs at h <;> cases h
        · exact .inl ⟨rfl, hdown⟩
        · exact .inr ⟨rfl, hup⟩
        · exact .inl ⟨rfl, hdown⟩
        · exact .inr ⟨rfl, hup⟩
    · next hdown _ =>
        cases h
        exact .inl ⟨rfl, hdown⟩
    · next _ hup =>
        cases h
        exact .inr ⟨rfl, hup⟩
    · cases h
  rcases hneighbour with ⟨rfl, hdown⟩ | ⟨rfl, hup⟩
  · rw [reachesDown, Bool.or_eq_true, Bool.and_eq_true, decide_eq_true_eq, beq_iff_eq] at hdown
    refine ⟨?_, hfloor.trans hupper.le, ?_⟩
    · rcases hdown with hlt | ⟨-, heq⟩
      · exact hlt.le
      · exact heq.le
    · rintro (heq | heq)
      · rcases hdown with hlt | ⟨hclosed, -⟩
        · exact absurd heq hlt.ne'
        · exact hclosed
      · exact absurd heq (hfloor.trans_lt hupper).ne
  · rw [reachesUp, Bool.or_eq_true, Bool.and_eq_true, decide_eq_true_eq, beq_iff_eq] at hup
    refine ⟨hlower.trans hnext.le, ?_, ?_⟩
    · rcases hup with hlt | ⟨-, heq⟩
      · exact hlt.le
      · exact heq.le
    · rintro (heq | heq)
      · exact absurd heq (hlower.trans_lt hnext).ne'
      · rcases hup with hlt | ⟨hclosed, -⟩
        · exact absurd heq hlt.ne
        · exact hclosed

theorem natCast_pow_toNat (b : Nat) (hb : 0 < b) (k : Int) :
    ((Nat.pow b k.toNat : Nat) : ℚ) = b ^ k * (Nat.pow b (-k).toNat : Nat) := by
  have hb' : (b : ℚ) ≠ 0 := by exact_mod_cast hb.ne'
  rw [Nat.pow_eq, Nat.pow_eq]
  push_cast
  rw [← zpow_natCast, ← zpow_natCast, ← zpow_add₀ hb']
  congr 1
  omega

/-- Units of a power of two and units of a power of ten are whole numbers of one common unit. -/
theorem exists_unit (k grid : Int) :
    ∃ c : ℚ, 0 < c ∧
      (∀ a : Nat, ((a * Nat.pow 2 k.toNat * Nat.pow 10 (-grid).toNat : Nat) : ℚ) =
        a * 2 ^ k * c) ∧
      ∀ n : Nat, ((n * (Nat.pow 2 (-k).toNat * Nat.pow 10 grid.toNat) : Nat) : ℚ) =
        n * 10 ^ grid * c := by
  have htwo := natCast_pow_toNat 2 (by decide) k
  have hten := natCast_pow_toNat 10 (by decide) grid
  refine ⟨(Nat.pow 2 (-k).toNat : Nat) * (Nat.pow 10 (-grid).toNat : Nat), ?_, ?_, ?_⟩
  · have h2 : 0 < Nat.pow 2 (-k).toNat := Nat.pow_pos (by decide)
    have h10 : 0 < Nat.pow 10 (-grid).toNat := Nat.pow_pos (by decide)
    exact_mod_cast Nat.mul_pos h2 h10
  · intro a
    rw [Nat.cast_mul, Nat.cast_mul, htwo]
    push_cast
    ring
  · intro n
    rw [Nat.cast_mul, Nat.cast_mul, hten]
    push_cast
    ring

/-! ## Decimals of an interval -/

theorem covers_of_nearest?
    (hm : 0 < m) (h : ((Interval.ofBinary m e).scale grid).nearest? tie = some n) :
    Covers m e (n * 10 ^ grid) := by
  obtain ⟨c, hc, htwo, hten⟩ := exists_unit (e - 2) grid
  have hquarter : 0 < Nat.pow 2 (e - 2).toNat := Nat.pow_pos (by decide)
  have hup : 0 < Nat.pow 10 (-grid).toNat := Nat.pow_pos (by decide)
  have hunit : 0 < Nat.pow 2 (-(e - 2)).toNat * Nat.pow 10 grid.toNat :=
    Nat.mul_pos (Nat.pow_pos (by decide)) (Nat.pow_pos (by decide))
  have hscaled : (Interval.ofBinary m e).scale grid =
      { lower := (4 * m - quartersBelow m e) * Nat.pow 2 (e - 2).toNat * Nat.pow 10 (-grid).toNat
        value := 4 * m * Nat.pow 2 (e - 2).toNat * Nat.pow 10 (-grid).toNat
        upper := (4 * m + 2) * Nat.pow 2 (e - 2).toNat * Nat.pow 10 (-grid).toNat
        unit := Nat.pow 2 (-(e - 2)).toNat * Nat.pow 10 grid.toNat
        closed := m % 2 == 0 } := by
    rw [show -(e - 2) = 2 - e by omega]
    rfl
  rw [hscaled] at h
  obtain ⟨hlower, hupper, hclosed⟩ := Interval.nearest?_mem h hunit
    (Nat.mul_le_mul_right _ (Nat.mul_le_mul_right _ (Nat.sub_le _ _)))
    (Nat.mul_lt_mul_of_pos_right (Nat.mul_lt_mul_of_pos_right (by omega) hquarter) hup)
  dsimp only at hlower hupper hclosed
  -- The whole numbers are the same in the common unit.
  have hbelow : quartersBelow m e ≤ 4 * m := by
    have := (quartersBelow_mem m e).2
    omega
  rw [← Nat.cast_le (α := ℚ), htwo, hten, mul_le_mul_iff_left₀ hc] at hlower hupper
  rw [← Nat.cast_inj (R := ℚ), ← Nat.cast_inj (R := ℚ), htwo, htwo, hten,
    mul_left_inj' hc.ne', mul_left_inj' hc.ne'] at hclosed
  push_cast [Nat.cast_sub hbelow] at hlower hupper hclosed
  refine ⟨hlower, hupper, fun hend => ?_⟩
  exact Nat.even_iff.mpr (eq_of_beq (hclosed hend))

theorem value_expansion (m : Nat) (e : Int) : (expansion m e).value = m * 2 ^ e := by
  unfold expansion
  split
  · next he =>
      obtain ⟨n, rfl⟩ := Int.eq_ofNat_of_zero_le he
      rw [Scaled.value, Int.toNat_natCast, Nat.pow_eq, zpow_natCast, zpow_zero, mul_one]
      push_cast
      rfl
  · next he =>
      obtain ⟨n, hn⟩ := Int.eq_ofNat_of_zero_le (a := -e) (by omega)
      obtain rfl : e = -(n : Int) := by omega
      rw [Scaled.value, neg_neg, Int.toNat_natCast, Nat.pow_eq, zpow_neg, zpow_neg, zpow_natCast,
        zpow_natCast]
      push_cast
      rw [show (10 : ℚ) = 5 * 2 by norm_num, mul_pow]
      field_simp

/-- The shortest decimal of a double rounds to it. -/
theorem covers_shortest (tie : Tie) (hm : 0 < m) (e : Int) :
    Covers m e (shortest tie m e).value := by
  unfold shortest
  dsimp only
  generalize hfound : List.findSome? _ (List.range 20) = found
  cases found with
  | none =>
      rw [Option.getD_none, value_expansion]
      exact covers_self m e
  | some d =>
      obtain ⟨i, -, hi⟩ := List.exists_of_findSome?_eq_some hfound
      obtain ⟨n, hn, rfl⟩ := Option.map_eq_some_iff.mp hi
      exact covers_of_nearest? hm hn

end Repricing.Decimal
