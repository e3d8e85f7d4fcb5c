import Mathlib.Algebra.Order.Field.Rat
import Mathlib.Tactic.Common
import TruckDepot.Quantity.Rational

/-!
# Quantities that lose nothing

Over the rationals the larger and the smaller of two quantities are their maximum and minimum, and a
count is the number itself.  A quantity that is rounded up to a count stays below the same counts
(`ceilUpTo_le_iff`).
-/

namespace TruckDepot.Quantity

@[simp] theorem larger_eq_max (x y : Rat) : larger x y = max x y := by
  unfold larger
  split_ifs with hlt hle
  · exact (max_eq_right hlt.le).symm
  · exact (max_eq_left (not_lt.mp hlt)).symm
  · exact absurd le_rfl hle

@[simp] theorem smaller_eq_min (x y : Rat) : smaller x y = min x y := by
  unfold smaller
  split_ifs with hlt hle
  · exact (min_eq_right hlt.le).symm
  · exact (min_eq_left (not_lt.mp hlt)).symm
  · exact absurd le_rfl hle

@[simp] theorem ofNat_eq_cast (n : Nat) : (Quantity.ofNat n : Rat) = n :=
  rfl

/-- Below `bound`, `ceilUpTo` keeps order with counts, as `⌈x⌉` does. -/
theorem ceilUpTo_le_iff {bound n : Nat} (hn : n < bound) (x : Rat) :
    ceilUpTo bound x ≤ n ↔ x ≤ n := by
  show min bound x.ceil.toNat ≤ n ↔ _
  rw [min_le_iff, Int.toNat_le, Rat.ceil_le_iff, Int.cast_natCast]
  exact or_iff_right (by omega)

theorem ceilUpTo_mono (bound : Nat) {x y : Rat} (h : x ≤ y) :
    ceilUpTo bound x ≤ ceilUpTo bound y := by
  have hceil : x.ceil ≤ y.ceil := Rat.ceil_le_iff.mpr (h.trans (Rat.ceil_le_iff.mp le_rfl))
  exact min_le_min_left bound (Int.toNat_le_toNat hceil)

end TruckDepot.Quantity
