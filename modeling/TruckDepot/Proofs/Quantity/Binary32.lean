import Mathlib.Tactic.Common
import TruckDepot.Quantity.Binary32

/-!
# Floats beside zero

A 32-bit float that is a number is above zero or not above it.  What is not a number is neither: it
fails every comparison.  So a float is not above zero, or not below it, in one more way than the
negated comparison says (`Quantity.not_le_zero_iff`, `Quantity.not_lt_zero_iff`).
-/

namespace TruckDepot.Quantity

open Float.Model

/-! ### Unpacked floats -/

theorem unpackedFloat_le_zero (x : UnpackedFloat) :
    x.le (.zero .positive) = !((UnpackedFloat.zero .positive).lt x || x.isNaN) := by
  cases x with
  | notANumber => rfl
  | infinity sign => cases sign <;> rfl
  | zero sign => cases sign <;> rfl
  | finite sign mantissa exponent hpos => cases sign <;> rfl

theorem unpackedFloat_lt_zero (x : UnpackedFloat) :
    x.lt (.zero .positive) = !((UnpackedFloat.zero .positive).le x || x.isNaN) := by
  cases x with
  | notANumber => rfl
  | infinity sign => cases sign <;> rfl
  | zero sign => cases sign <;> rfl
  | finite sign mantissa exponent hpos => cases sign <;> rfl

/-- A NaN compares with nothing: both `lt` and `le` are `false`. -/
theorem unpackedFloat_of_isNaN {x : UnpackedFloat} (h : x.isNaN = true) (y : UnpackedFloat) :
    y.lt x = false ∧ y.le x = false := by
  cases x with
  | notANumber => cases y <;> exact ⟨rfl, rfl⟩
  | infinity sign => cases h
  | zero sign => cases h
  | finite sign mantissa exponent hpos => cases h

/-! ### Floats -/

variable {x : Float32}

theorem le_zero_iff_unpack : x ≤ 0 ↔ x.toModel.unpack.le (.zero .positive) = true :=
  decide_eq_true_iff

theorem lt_zero_iff_unpack : x < 0 ↔ x.toModel.unpack.lt (.zero .positive) = true :=
  decide_eq_true_iff

theorem zero_le_iff_unpack : 0 ≤ x ↔ (UnpackedFloat.zero .positive).le x.toModel.unpack = true :=
  decide_eq_true_iff

theorem zero_lt_iff_unpack : 0 < x ↔ (UnpackedFloat.zero .positive).lt x.toModel.unpack = true :=
  decide_eq_true_iff

theorem not_le_zero_iff : ¬ x ≤ 0 ↔ 0 < x ∨ x.isNaN = true := by
  rw [le_zero_iff_unpack, zero_lt_iff_unpack, unpackedFloat_le_zero, Bool.not_eq_true,
    Bool.not_eq_false', Bool.or_eq_true]
  rfl

theorem not_lt_zero_iff : ¬ x < 0 ↔ 0 ≤ x ∨ x.isNaN = true := by
  rw [lt_zero_iff_unpack, zero_le_iff_unpack, unpackedFloat_lt_zero, Bool.not_eq_true,
    Bool.not_eq_false', Bool.or_eq_true]
  rfl

theorem isNaN_eq_false_of_zero_le (h : 0 ≤ x) : x.isNaN = false := by
  rw [zero_le_iff_unpack] at h
  rw [← Bool.not_eq_true]
  intro hnan
  rw [(unpackedFloat_of_isNaN hnan _).2] at h
  cases h

theorem isNaN_eq_false_of_zero_lt (h : 0 < x) : x.isNaN = false := by
  rw [zero_lt_iff_unpack] at h
  rw [← Bool.not_eq_true]
  intro hnan
  rw [(unpackedFloat_of_isNaN hnan _).1] at h
  cases h

end TruckDepot.Quantity
