import TruckDepot.Decimal.Fixed
import TruckDepot.Proofs.Decimal.Reading

/-!
# What fixed decimal places show

A magnitude is written with a whole part, a point and as many digits as there are places
(`Decimal.ofChars?_fixedMagnitude`).  Rounding may carry into the whole part, up to a digit more
than it had, but all digits together are still the rounded count of units of the last place.  So the
numeral is within half of such a unit of the number, and has its sign (`Decimal.shows_fixed`).
-/

namespace TruckDepot.Decimal

/-! ### Padded digits -/

theorem digits_paddedDigits (width n : Nat) : Digits (paddedDigits width n) :=
  (digits_toDigits n).zeros_append _

theorem digitsValue_paddedDigits (width n : Nat) :
    digitsValue ((paddedDigits width n).map digitValue) = n := by
  have hzero : digitValue '0' = 0 := rfl
  unfold paddedDigits
  rw [List.map_append, List.map_replicate, hzero, digitsValue_zeros_append, digitsValue_toDigits]

/-- `paddedDigits` fills up to `width` digits a number that fits them. -/
theorem length_paddedDigits {width n : Nat} (hwidth : 0 < width) (h : n < tenTo width) :
    (paddedDigits width n).length = width := by
  have hle : (Nat.toDigits 10 n).length ≤ width :=
    (Nat.length_toDigits_le_iff (by decide) hwidth).mpr h
  unfold paddedDigits
  rw [List.length_append, List.length_replicate, Nat.sub_add_cancel hle]

/-! ### Magnitudes -/

section Magnitude

variable {places : Nat} (hplaces : 0 < places) (num den : Nat)

include hplaces

theorem fixedMagnitude_eq : fixedMagnitude places num den =
    Nat.toDigits 10 (roundDiv (num * tenTo places) den / tenTo places) ++
      '.' :: paddedDigits places (roundDiv (num * tenTo places) den % tenTo places) :=
  if_neg hplaces.ne'

/-- `fixedMagnitude` has `places` digits behind the point, and all its digits are the rounded count
of units of the last place. -/
theorem ofChars?_fixedMagnitude : ∃ whole fraction : List Nat,
    Numeral.ofChars? (fixedMagnitude places num den) =
        some ⟨false, whole, some fraction, none⟩ ∧
      fraction.length = places ∧
      digitsValue (whole ++ fraction) = roundDiv (num * tenTo places) den := by
  have hlength : (paddedDigits places (roundDiv (num * tenTo places) den % tenTo places)).length =
      places := length_paddedDigits hplaces (Nat.mod_lt _ (tenTo_pos places))
  rw [fixedMagnitude_eq hplaces]
  refine ⟨_, _, ofChars?_point (digits_toDigits _) (digits_paddedDigits _ _), ?_, ?_⟩
  · rw [List.length_map, hlength]
  · rw [digitsValue_append, List.length_map, hlength, digitsValue_toDigits,
      digitsValue_paddedDigits, Nat.div_add_mod']

theorem exists_fixedMagnitude_eq_cons :
    ∃ c rest, fixedMagnitude places num den = c :: rest ∧ c.isDigit = true := by
  obtain ⟨c, rest, hdigits, hdigit, -⟩ :=
    beginsPlain_toDigits (roundDiv (num * tenTo places) den / tenTo places)
  rw [fixedMagnitude_eq hplaces, hdigits]
  exact ⟨c, _, rfl, hdigit⟩

end Magnitude

/-- Rounding to `places` is off by half a unit of the last one at most. -/
theorem abs_roundDiv_mul_sub_le (places : Nat) (x : Scaled) :
    |(roundDiv (x.num * tenTo places) x.den : ℚ) * 10 ^ (-(places : Int)) - x.value| ≤
      1 / (2 * 10 ^ places) := by
  have hunit : (0 : ℚ) < 10 ^ places := by positivity
  have hround := abs_div_sub_roundDiv_le (x.num * tenTo places) x.den_pos
  push_cast at hround
  rw [cast_tenTo, mul_div_right_comm, x.num_div_den] at hround
  rw [zpow_neg, zpow_natCast, ← div_eq_mul_inv, abs_sub_comm, sub_div' hunit.ne', abs_div,
    abs_of_pos hunit, div_le_div_iff₀ hunit (by positivity)]
  calc |x.value * 10 ^ places - roundDiv (x.num * tenTo places) x.den| * (2 * 10 ^ places)
      ≤ 1 / 2 * (2 * 10 ^ places) := by gcongr
    _ = 1 * 10 ^ places := by ring

/-! ### Floats -/

/-- The magnitude `v` with a sign. -/
def signed (negative : Bool) (v : ℚ) : ℚ :=
  if negative then -v else v

theorem abs_signed_sub_signed (negative : Bool) (v w : ℚ) :
    |signed negative v - signed negative w| = |v - w| := by
  cases negative with
  | false => rfl
  | true =>
    show |-v - -w| = |v - w|
    rw [neg_sub_neg, abs_sub_comm]

/-- The text shows `x` to some places: a finite number as a decimal with that many digits behind the
point and no power of ten, with the sign of `x` and within half a unit of the last place of its
exact value. -/
def Shows (places : Nat) (s : List Char) (x : Float32) : Prop :=
  match Binary.ofFloat32 x with
  | .notANumber => s = "NaN".toList
  | .infinite negative => s = (if negative then "-inf" else "inf").toList
  | .finite negative magnitude => ∃ n, Numeral.ofChars? s = some n ∧
    n.negative = negative ∧ n.fraction.map List.length = some places ∧ n.exponent = none ∧
    |signed n.negative n.value - signed negative magnitude.value| ≤ 1 / (2 * 10 ^ places)

theorem shows_fixed {places : Nat} (hplaces : 0 < places) (x : Float32) :
    Shows places (fixed places x).toList x := by
  unfold Shows fixed
  rw [String.toList_ofList]
  cases Binary.ofFloat32 x with
  | notANumber => rfl
  | infinite negative =>
    cases negative with
    | false => rfl
    | true => rfl
  | finite negative magnitude =>
    obtain ⟨whole, fraction, hread, hlength, hvalue⟩ :=
      ofChars?_fixedMagnitude hplaces magnitude.num magnitude.den
    refine ⟨⟨negative, whole, some fraction, none⟩, ?_, rfl, congrArg some hlength, rfl, ?_⟩
    · obtain ⟨c, rest, hdigits, hdigit⟩ :=
        exists_fixedMagnitude_eq_cons hplaces magnitude.num magnitude.den
      unfold Binary.fixed
      dsimp only
      rw [hdigits] at hread ⊢
      cases negative with
      | false => exact hread
      | true =>
        show Numeral.ofChars? ('-' :: c :: rest) = _
        rw [ofChars?_minus hdigit, hread]
        rfl
    -- the value of the numeral is the rounded count of units
    · have hsize : (Numeral.mk negative whole (some fraction) none).value =
          (roundDiv (magnitude.num * tenTo places) magnitude.den : ℚ) * 10 ^ (-(places : Int)) := by
        unfold Numeral.value Numeral.significant Numeral.power
        rw [Option.getD_some, hvalue, hlength, Option.getD_none, zero_sub]
      rw [abs_signed_sub_signed, hsize]
      exact abs_roundDiv_mul_sub_le places magnitude

end TruckDepot.Decimal
