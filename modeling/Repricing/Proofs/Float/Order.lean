import Mathlib
import Repricing.Proofs.Float.NotANumber

/-!
# Comparisons of doubles

Two doubles are compared through one comparison, which has no result if one of them is no number.
Less than, at most and their negations are read off it.  Numbers compare as their places on the line
do, so that being at most is transitive.
-/

namespace Repricing

open Float.Model (UnpackedFloat)
open Float.Model.UnpackedFloat (Sign)

/-! ## Unpacked doubles -/

theorem swap_compare_then (e e' : Int) (m m' : Nat) :
    ((compare e e').then (compare m m')).swap = (compare e' e).then (compare m' m) := by
  rw [Ordering.swap_then, ← Std.OrientedCmp.eq_swap, ← Std.OrientedCmp.eq_swap]

theorem swap_compare_sign (s s' : Sign) : (compare s s').swap = compare s' s := by
  cases s <;> cases s' <;> rfl

theorem compare_swap (a b : UnpackedFloat) : b.compare a = (a.compare b).map Ordering.swap := by
  rcases a with (_ | _) | _ | _ | ⟨_ | _, m, e, hm⟩ <;>
    rcases b with (_ | _) | _ | _ | ⟨_ | _, m', e', hm'⟩ <;>
    simp [UnpackedFloat.compare, swap_compare_then, swap_compare_sign]

theorem compare_eq_none_iff (a b : UnpackedFloat) :
    a.compare b = none ↔ a.isNaN = true ∨ b.isNaN = true := by
  rcases a with (_ | _) | _ | _ | ⟨_ | _, m, e, hm⟩ <;>
    rcases b with (_ | _) | _ | _ | ⟨_ | _, m', e', hm'⟩ <;>
    simp [UnpackedFloat.compare, UnpackedFloat.isNaN]

/-! ## Doubles -/

/-- The comparison of two doubles; there is none with what is no number. -/
def comparison (x y : Float) : Option Ordering :=
  x.toModel.unpack.compare y.toModel.unpack

variable {x y : Float}

theorem comparison_swap (x y : Float) : comparison y x = (comparison x y).map Ordering.swap :=
  compare_swap _ _

theorem comparison_eq_none_iff : comparison x y = none ↔ x.isNaN = true ∨ y.isNaN = true :=
  compare_eq_none_iff _ _

theorem lt_iff_comparison : x < y ↔ comparison x y = some .lt := by
  change decide (x.toModel < y.toModel) = true ↔ _
  rw [decide_eq_true_iff]
  change (x.toModel.unpack.compare y.toModel.unpack == some .lt) = true ↔ _
  rw [beq_iff_eq, comparison]

theorem le_iff_comparison : x ≤ y ↔ comparison x y = some .lt ∨ comparison x y = some .eq := by
  change decide (x.toModel ≤ y.toModel) = true ↔ _
  rw [decide_eq_true_iff]
  change (x.toModel.unpack.compare y.toModel.unpack).any (·.isLE) = true ↔ _
  rw [comparison]
  rcases x.toModel.unpack.compare y.toModel.unpack with _ | _ | _ | _ <;> simp

theorem isNaN_eq_false_of_le (hle : x ≤ y) : x.isNaN = false ∧ y.isNaN = false := by
  have hsome : comparison x y ≠ none := by
    rcases le_iff_comparison.mp hle with h | h <;> simp [h]
  rw [ne_eq, comparison_eq_none_iff, not_or] at hsome
  exact ⟨Bool.eq_false_iff.mpr hsome.1, Bool.eq_false_iff.mpr hsome.2⟩

theorem not_lt_of_le (hle : x ≤ y) : ¬ y < x := by
  rw [lt_iff_comparison, comparison_swap x y]
  rcases le_iff_comparison.mp hle with h | h <;> simp [h]

/-- Of two numbers, one is less than the other or the other at most the one. -/
theorem lt_or_le (hx : x.isNaN = false) (hy : y.isNaN = false) : x < y ∨ y ≤ x := by
  have hsome : comparison x y ≠ none := by
    rw [ne_eq, comparison_eq_none_iff, hx, hy]
    simp
  rw [lt_iff_comparison, le_iff_comparison, comparison_swap x y]
  rcases h : comparison x y with _ | _ | _ | _
  · exact absurd h hsome
  · exact .inl rfl
  · exact .inr (.inr rfl)
  · exact .inr (.inl rfl)

theorem le_of_not_lt (hx : x.isNaN = false) (hy : y.isNaN = false) (hlt : ¬ x < y) : y ≤ x :=
  (lt_or_le hx hy).resolve_left hlt

/-- Doubles with an upper bound are numbers, so that one that is not below the other reaches it. -/
theorem le_of_not_lt_of_le {z : Float} (hx : x ≤ z) (hy : y ≤ z) (hlt : ¬ x < y) : y ≤ x :=
  le_of_not_lt (isNaN_eq_false_of_le hx).1 (isNaN_eq_false_of_le hy).1 hlt

theorem not_le_of_isNaN (hx : x.isNaN = true) : ¬ x ≤ y := by
  intro hle
  rw [(isNaN_eq_false_of_le hle).1] at hx
  cases hx

theorem le_of_lt (hlt : x < y) : x ≤ y :=
  le_iff_comparison.mpr (.inl (lt_iff_comparison.mp hlt))

theorem le_self_of_le (hle : x ≤ y) : x ≤ x := by
  have hnan := (isNaN_eq_false_of_le hle).1
  exact (lt_or_le hnan hnan).elim le_of_lt id

theorem lt_of_not_le (hx : x.isNaN = false) (hy : y.isNaN = false) (hle : ¬ y ≤ x) : x < y :=
  (lt_or_le hx hy).resolve_right hle

/-! ## Places on the line -/

/-- The place of a number among all numbers: on which side of zero it is, then its exponent, then
its mantissa. -/
def placeOf : UnpackedFloat → Int ×ₗ Int ×ₗ Int
  | .infinity .negative => toLex (-2, toLex (0, 0))
  | .finite .negative m e _ => toLex (-1, toLex (-e, -(m : Int)))
  | .notANumber | .zero _ => toLex (0, toLex (0, 0))
  | .finite .positive m e _ => toLex (1, toLex (e, (m : Int)))
  | .infinity .positive => toLex (2, toLex (0, 0))

theorem isLE_compare_then (e e' : Int) (m m' : Nat) :
    ((compare e e').then (compare m m')).isLE = true ↔ e < e' ∨ e = e' ∧ m ≤ m' := by
  rcases lt_trichotomy e e' with hlt | rfl | hgt
  · simp [compare_lt_iff_lt.mpr hlt, hlt]
  · simp [Std.isLE_compare]
  · simp [compare_gt_iff_gt.mpr hgt, hgt.not_gt, hgt.ne']

theorem isLE_compare_sign (s s' : Sign) :
    (compare s s').isLE = true ↔ s = .negative ∨ s' = .positive := by
  cases s with
  | negative => cases s' <;> exact iff_of_true rfl (.inl rfl)
  | positive =>
      cases s' with
      | negative => exact iff_of_false Bool.false_ne_true (by simp)
      | positive => exact iff_of_true rfl (.inr rfl)

theorem isLE_compare_iff (a b : UnpackedFloat) :
    (a.compare b).any (·.isLE) = true ↔
      a.isNaN = false ∧ b.isNaN = false ∧ placeOf a ≤ placeOf b := by
  rcases a with (_ | _) | _ | _ | ⟨_ | _, m, e, hm⟩ <;>
    rcases b with (_ | _) | _ | _ | ⟨_ | _, m', e', hm'⟩ <;>
    simp [UnpackedFloat.compare, UnpackedFloat.isNaN, placeOf, Prod.Lex.toLex_le_toLex,
      swap_compare_then, isLE_compare_then, isLE_compare_sign]
  -- Two negative numbers are left, with the comparison of their exponents turned round.
  omega

/-- Two numbers compare as their places do. -/
theorem le_iff_placeOf :
    x ≤ y ↔ x.isNaN = false ∧ y.isNaN = false ∧
      placeOf x.toModel.unpack ≤ placeOf y.toModel.unpack := by
  change decide (x.toModel ≤ y.toModel) = true ↔ _
  rw [decide_eq_true_iff]
  exact isLE_compare_iff _ _

theorem le_trans_of_le {z : Float} (hxy : x ≤ y) (hyz : y ≤ z) : x ≤ z := by
  obtain ⟨hx, -, hxy⟩ := le_iff_placeOf.mp hxy
  obtain ⟨-, hz, hyz⟩ := le_iff_placeOf.mp hyz
  exact le_iff_placeOf.mpr ⟨hx, hz, hxy.trans hyz⟩

end Repricing
