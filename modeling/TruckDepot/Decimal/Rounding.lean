/-!
# Rounding a quotient

`roundDiv n d` is the natural number nearest to `n / d`, and of two that are equally near the even
one. Every place of the library that shortens a number goes through it: fixed decimal places, and
the reading of a decimal into a binary format. -/

namespace TruckDepot.Decimal

/-- The natural number nearest to `num / den`; a half goes to the even neighbour. -/
def roundDiv (num den : Nat) : Nat :=
  if 2 * (num % den) < den then num / den
  else if den < 2 * (num % den) then num / den + 1
  else num / den + num / den % 2

/-- The result is within half a unit of the quotient. -/
theorem roundDiv_near (num den : Nat) (h : 0 < den) :
    2 * (roundDiv num den * den) ≤ 2 * num + den ∧
      2 * num ≤ 2 * (roundDiv num den * den) + den := by
  have hmod : num % den < den := Nat.mod_lt _ h
  have hdiv : den * (num / den) + num % den = num := Nat.div_add_mod num den
  have hone : (num / den + 1) * den = den * (num / den) + den := by
    rw [Nat.add_mul, Nat.one_mul, Nat.mul_comm]
  have hzero : num / den * den = den * (num / den) := Nat.mul_comm _ _
  unfold roundDiv
  split
  · rw [hzero]; omega
  · split
    · rw [hone]; omega
    · rcases Nat.mod_two_eq_zero_or_one (num / den) with hp | hp
      · rw [hp, Nat.add_zero, hzero]; omega
      · rw [hp, hone]; omega

/-- At an exact half the even neighbour is taken. -/
theorem roundDiv_tie (num den : Nat) (h : 2 * (num % den) = den) : roundDiv num den % 2 = 0 := by
  unfold roundDiv
  split
  · omega
  · split
    · omega
    · omega

/-- A quotient without remainder is not changed. -/
theorem roundDiv_mul (n den : Nat) (h : 0 < den) : roundDiv (n * den) den = n := by
  have hmod : n * den % den = 0 := Nat.mul_mod_left n den
  have hdiv : n * den / den = n := Nat.mul_div_cancel n h
  rw [roundDiv, hmod, hdiv, if_pos (by omega)]

end TruckDepot.Decimal
