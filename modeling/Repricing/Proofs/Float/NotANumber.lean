/-!
# Doubles that are no numbers

What is no number stays so through a subtraction and an absolute value, and nothing is less than it.
-/

namespace Repricing

open Float.Model (UnpackedFloat)

theorem unpack_of_isNaN {x : Float} (hx : x.isNaN = true) :
    x.toModel.unpack = .notANumber := by
  change x.toModel.unpack.isNaN = true at hx
  cases hunpack : x.toModel.unpack with
  | notANumber => rfl
  | infinity sign =>
      rw [hunpack] at hx
      cases hx
  | zero sign =>
      rw [hunpack] at hx
      cases hx
  | finite sign mantissa exponent hpos =>
      rw [hunpack] at hx
      cases hx

/-- What is packed from no number is none. -/
theorem isNaN_of_toModel {x : Float} (hx : x.toModel = .pack .notANumber) :
    x.isNaN = true := by
  change x.toModel.unpack.isNaN = true
  rw [hx]
  rfl

theorem isNaN_sub_right (x : Float) {y : Float} (hy : y.isNaN = true) :
    (x - y).isNaN = true := by
  apply isNaN_of_toModel
  change Float.Model.pack (UnpackedFloat.sub _ x.toModel.unpack y.toModel.unpack) = _
  rw [unpack_of_isNaN hy]
  cases x.toModel.unpack <;> rfl

theorem isNaN_sub_left {x : Float} (hx : x.isNaN = true) (y : Float) :
    (x - y).isNaN = true := by
  apply isNaN_of_toModel
  change Float.Model.pack (UnpackedFloat.sub _ x.toModel.unpack y.toModel.unpack) = _
  rw [unpack_of_isNaN hx]
  cases y.toModel.unpack <;> rfl

theorem isNaN_abs {x : Float} (hx : x.isNaN = true) : x.abs.isNaN = true := by
  apply isNaN_of_toModel
  change Float.Model.pack x.toModel.unpack.abs = _
  rw [unpack_of_isNaN hx]
  rfl

theorem not_lt_of_isNaN {x y : Float} (hy : y.isNaN = true) : ¬ x < y := by
  intro hlt
  have hunpacked : x.toModel.unpack.lt y.toModel.unpack = true := of_decide_eq_true hlt
  have hnone : x.toModel.unpack.lt .notANumber = false := by
    cases x.toModel.unpack <;> rfl
  rw [unpack_of_isNaN hy, hnone] at hunpacked
  cases hunpacked

end Repricing
