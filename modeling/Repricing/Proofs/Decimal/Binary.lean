import Repricing.Decimal.Binary
import Repricing.Proofs.Float.Intervals

/-!
# The exact value of a finite double

The sign, the mantissa and the exponent that are read from the bits of a finite double are those of
a normal or subnormal number, and the bits can be computed from them.
-/

namespace Repricing.Decimal

variable {x y : Float} {negative : Bool} {m : Nat} {e : Int}

theorem toNat_toBits_of_exact (hx : exact x = .finite negative m e) :
    x.toBits.toNat = negative.toNat * 2 ^ 63 + (e + 1074).toNat * 2 ^ 52 + m ∧ Normalized m e := by
  have hlt : x.toBits.toNat < 2 ^ 64 := x.toBits.toNat_lt
  have hsign : (decide (2 ^ 63 ≤ x.toBits.toNat)).toNat = x.toBits.toNat / 2 ^ 63 := by
    by_cases hle : 2 ^ 63 ≤ x.toBits.toNat
    · rw [decide_eq_true hle, Bool.toNat_true]
      omega
    · rw [decide_eq_false hle, Bool.toNat_false]
      omega
  unfold exact at hx
  simp only [Nat.pow_eq] at hx
  split_ifs at hx with hmax hzero hmin
  · cases hx
    rw [hsign]
    exact ⟨by omega, ⟨by omega, .inr rfl, le_rfl⟩⟩
  · cases hx
    rw [hsign]
    exact ⟨by omega, ⟨by omega, .inl (by omega), by omega⟩⟩

theorem exists_exact (hfinite : x.isFinite = true) :
    ∃ negative m e, exact x = .finite negative m e := by
  have hbits := hasBits_toBits x
  have hfield : x.toBits.toNat / 2 ^ 52 % 2 ^ 11 ≠ 2047 := by
    change x.toModel.unpack.isFinite = true at hfinite
    cases hunpack : x.toModel.unpack with
    | notANumber =>
        rw [hunpack] at hfinite
        cases hfinite
    | infinity s =>
        rw [hunpack] at hfinite
        cases hfinite
    | zero s =>
        rw [hunpack, HasBits] at hbits
        omega
    | finite s m e h =>
        rw [hunpack] at hbits
        obtain ⟨⟨-, hlt, hfull, hge⟩, hle, hbits⟩ := hbits
        omega
  unfold exact
  simp only [Nat.pow_eq]
  rw [if_neg hfield]
  split
  · exact ⟨_, _, _, rfl⟩
  · exact ⟨_, _, _, rfl⟩

/-- Finite doubles with the same exact value are the same, zeros of different signs apart. -/
theorem eq_of_exact (hx : exact x = .finite negative m e) (hy : exact y = .finite negative m e) :
    x = y := by
  apply Float.toBits_inj.mp
  apply UInt64.toNat_inj.mp
  rw [(toNat_toBits_of_exact hx).1, (toNat_toBits_of_exact hy).1]

end Repricing.Decimal
