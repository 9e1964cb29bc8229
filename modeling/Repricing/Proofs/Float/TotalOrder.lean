import Repricing.Proofs.Float.Bounds

/-!
# The total order of doubles

The bits of doubles put all of them in one line, also those that are no numbers, of which there are
many.  Numbers stand in the line as they compare, negative zero right before zero.  What is no number
stands at one of the two ends, at which one its sign says.
-/

namespace Repricing

open Float.Model (Format UnpackedFloat)
open Float.Model.UnpackedFloat (Sign unpack)

/-! ## Doubles of given bits -/

theorem unpack_ofBits (bits : UInt64) :
    (Float.ofBits bits).toModel.unpack = unpack .binary64 bits.toBitVec := by
  have hbits := hasBits_unpack bits.toBitVec
  change (Float.Model.pack (unpack .binary64 bits.toBitVec)).unpack = _
  generalize unpack .binary64 bits.toBitVec = u at hbits ⊢
  rcases u with s | _ | s | ⟨s, m, e, hm⟩
  · cases s <;> rfl
  · rfl
  · cases s <;> rfl
  · exact unpack_pack hbits.1 hbits.2.1

theorem hasBits_ofBits (bits : UInt64) : HasBits (Float.ofBits bits).toModel.unpack bits.toNat := by
  rw [unpack_ofBits]
  exact hasBits_unpack bits.toBitVec

/-- Of the doubles that are no numbers only one is left. -/
theorem toBits_of_unpack {x : Float} (hx : x.toModel.unpack = .notANumber) :
    x.toBits.toBitVec = UnpackedFloat.packedNaN .binary64 := by
  change unpack .binary64 x.toBits.toBitVec = .notANumber at hx
  unfold unpack at hx
  dsimp only at hx
  split at hx
  · next hexponent =>
      split at hx
      · cases hx
      · next hmantissa => exact x.toModel.valid.eq_packedNaN hexponent hmantissa
  · split at hx
    · split at hx <;> cases hx
    · cases hx

/-- A double is made again from its bits. -/
theorem ofBits_toBits (x : Float) : Float.ofBits x.toBits = x := by
  have hunpack : (Float.ofBits x.toBits).toModel.unpack = x.toModel.unpack :=
    unpack_ofBits x.toBits
  have hx := hasBits_toBits x
  have hy := hasBits_toBits (Float.ofBits x.toBits)
  apply Float.toBits_inj.mp
  rw [hunpack] at hy
  cases hu : x.toModel.unpack with
  | notANumber =>
      rw [← UInt64.toBitVec_inj, toBits_of_unpack hu, toBits_of_unpack (hunpack.trans hu)]
  | infinity s =>
      rw [hu] at hx hy
      exact UInt64.toNat_inj.mp (hy.trans hx.symm)
  | zero s =>
      rw [hu] at hx hy
      exact UInt64.toNat_inj.mp (hy.trans hx.symm)
  | finite s m e hm =>
      rw [hu] at hx hy
      exact UInt64.toNat_inj.mp (hy.2.2.trans hx.2.2.symm)

/-! ## The line -/

/-- The place of the double with these bits in the line of all doubles. -/
def place (bits : UInt64) : Int :=
  if bits.toNat < 2 ^ 63 then bits.toNat else 2 ^ 63 - 1 - bits.toNat

theorem place_injective : Function.Injective place := by
  intro a b heq
  have ha := a.toNat_lt
  have hb := b.toNat_lt
  apply UInt64.toNat_inj.mp
  unfold place at heq
  split at heq <;> split at heq <;> omega

/-! ## Numbers -/

theorem Canonical.bits_lt {m : Nat} {e : Int} (h : Canonical m e) (hle : e ≤ 971) :
    (e + 1074).toNat * 2 ^ 52 + m < 2047 * 2 ^ 52 := by
  have hlt := h.lt
  omega

/-- The place of a number: its bits without the sign, counted down from minus one if it has the
sign. -/
def lineOf : UnpackedFloat → Int
  | .infinity .positive => 2047 * 2 ^ 52
  | .infinity .negative => -1 - 2047 * 2 ^ 52
  | .zero .positive | .notANumber => 0
  | .zero .negative => -1
  | .finite .positive m e _ => (e + 1074).toNat * 2 ^ 52 + m
  | .finite .negative m e _ => -1 - ((e + 1074).toNat * 2 ^ 52 + m)

theorem place_eq_lineOf {bits : UInt64} (hnumber : (Float.ofBits bits).isNaN = false) :
    place bits = lineOf (Float.ofBits bits).toModel.unpack := by
  have hbits := hasBits_ofBits bits
  have hplus : (Sign.toBitVec .positive).toNat = 0 := rfl
  have hminus : (Sign.toBitVec .negative).toNat = 1 := rfl
  change (Float.ofBits bits).toModel.unpack.isNaN = false at hnumber
  generalize (Float.ofBits bits).toModel.unpack = u at hbits hnumber
  unfold place
  rcases u with (_ | _) | _ | (_ | _) | ⟨_ | _, m, e, hm⟩
  case notANumber => cases hnumber
  case finite.negative | finite.positive =>
    obtain ⟨hcanonical, hle, hbits⟩ := hbits
    have hlt := hcanonical.bits_lt hle
    simp only [lineOf]
    split <;> omega
  all_goals
    simp only [HasBits] at hbits
    simp only [lineOf]
    split <;> omega

theorem lineOf_lt_of_compare
    {u v : UnpackedFloat} {a b : Nat} (ha : HasBits u a) (hb : HasBits v b)
    (hlt : u.compare v = some .lt) :
    lineOf u < lineOf v := by
  rcases u with (_ | _) | _ | (_ | _) | ⟨_ | _, m, e, hm⟩ <;>
    rcases v with (_ | _) | _ | (_ | _) | ⟨_ | _, m', e', hm'⟩ <;>
    simp [UnpackedFloat.compare, lineOf] at hlt ⊢
  -- Below zero, the number with the larger magnitude is the lower one.
  case finite.negative.finite.negative =>
    have hgreater : (compare e' e).then (compare m' m) = .lt := by
      rw [← swap_compare_then, hlt]
      rfl
    have hbits := (hb.1.compare_eq_lt_iff ha.1).mp hgreater
    omega
  case finite.positive.finite.positive =>
    have hbits := (ha.1.compare_eq_lt_iff hb.1).mp hlt
    omega
  case infinity.negative.finite.negative =>
    have hbits := hb.1.bits_lt hb.2.1
    omega
  case finite.positive.infinity.positive =>
    have hbits := ha.1.bits_lt ha.2.1
    omega
  all_goals omega

theorem place_lt_of_lt {a b : UInt64} (hlt : Float.ofBits a < Float.ofBits b) :
    place a < place b := by
  obtain ⟨ha, hb⟩ := isNaN_eq_false_of_le (le_of_lt hlt)
  rw [place_eq_lineOf ha, place_eq_lineOf hb]
  exact lineOf_lt_of_compare (hasBits_ofBits a) (hasBits_ofBits b) (lt_iff_comparison.mp hlt)

/-- Numbers stand between the infinities. -/
theorem place_of_number {bits : UInt64} (hnumber : (Float.ofBits bits).isNaN = false) :
    -1 - 2047 * 2 ^ 52 ≤ place bits ∧ place bits ≤ 2047 * 2 ^ 52 := by
  have hbits := hasBits_ofBits bits
  rw [place_eq_lineOf hnumber]
  generalize (Float.ofBits bits).toModel.unpack = u at hbits
  rcases u with (_ | _) | _ | (_ | _) | ⟨_ | _, m, e, hm⟩ <;> simp only [lineOf]
  case finite.negative | finite.positive =>
    have hlt := hbits.1.bits_lt hbits.2.1
    omega
  all_goals omega

/-! ## The total order -/

/-- What is no number stands beyond the infinities. -/
theorem place_of_isNaN {bits : UInt64} (hnan : (Float.ofBits bits).isNaN = true) :
    if bits.toNat < 2 ^ 63 then 2047 * 2 ^ 52 < place bits else place bits < -1 - 2047 * 2 ^ 52 := by
  have hbits := hasBits_ofBits bits
  have hlt := bits.toNat_lt
  rw [unpack_of_isNaN hnan] at hbits
  simp only [HasBits] at hbits
  unfold place
  split <;> omega

/-- The places are those of the total order of doubles. -/
structure IsTotalOrder (place : UInt64 → Int) : Prop where
  injective : Function.Injective place
  /-- Numbers stand as they compare. -/
  lt_of_lt : ∀ a b, Float.ofBits a < Float.ofBits b → place a < place b
  /-- Negative zero comes before zero. -/
  zeros : place (-0.0 : Float).toBits < place (0.0 : Float).toBits
  /-- What is no number comes after all numbers without the sign, and before them with it. -/
  notNumber : ∀ a b, (Float.ofBits a).isNaN = true → (Float.ofBits b).isNaN = false →
    if a.toNat < 2 ^ 63 then place b < place a else place a < place b
  /-- What is no number is ordered by its bits, the other way round with the sign. -/
  notNumbers : ∀ a b, (Float.ofBits a).isNaN = true → (Float.ofBits b).isNaN = true → a < b →
    if b.toNat < 2 ^ 63 then place a < place b else place b < place a

theorem isTotalOrder_place : IsTotalOrder place where
  injective := place_injective
  lt_of_lt _ _ := place_lt_of_lt
  zeros := by decide +kernel
  notNumber a b ha hb := by
    have hnan := place_of_isNaN ha
    have hnumber := place_of_number hb
    split
    · next hplus =>
        rw [if_pos hplus] at hnan
        omega
    · next hminus =>
        rw [if_neg hminus] at hnan
        omega
  notNumbers a b _ _ hlt := by
    have hbits := UInt64.lt_iff_toNat_lt.mp hlt
    unfold place
    split_ifs <;> omega

end Repricing
