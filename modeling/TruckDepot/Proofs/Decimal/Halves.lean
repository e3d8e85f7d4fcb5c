import Mathlib.Algebra.Order.Field.Power
import Mathlib.Tactic.NormNum.GCD
import TruckDepot.Decimal.Shortest
import TruckDepot.Proofs.Decimal.Nearest

/-!
# Decimals keep away from the halves

A decimal is read as a 32-bit float by way of 64 bits, with a relative error of up to `2 ^ -52`.
The float may come out as the wrong one of two neighbours only if the decimal is as close as that to
the number half way between them.  `Decimal.apart_of_le` excludes this for all decimals whose grid
is no finer than the floats: they are half way exactly, or farther away than `slack`, with one
exception.

Where the power of ten is small, both are whole numbers in a common unit, and none that differ are
close (`Decimal.apart_of_natAbs_le`).  For the others the quotient of the two units is enclosed by
two fractions that have none of a small denominator between them (`Neighbours.outside`), so no
decimal can be closer to a half than these two fractions are to the quotient (`Neighbours.apart`).
-/

namespace TruckDepot.Decimal

/-- Three units in the last of 53 binary places, `3 / 2 ^ 53`. -/
def slack : ℚ :=
  3 / 2 ^ 53

theorem slack_pos : 0 < slack := by
  unfold slack
  norm_num

/-- `x` is not as close to `y` as `slack`, relative to `y`. -/
def Apart (x y : ℚ) : Prop :=
  x ≤ y * (1 - slack) ∨ y * (1 + slack) ≤ x

theorem Apart.mul {x y t : ℚ} (ht : 0 ≤ t) (h : Apart x y) : Apart (x * t) (y * t) := by
  rcases h with h | h
  · left
    calc x * t ≤ y * (1 - slack) * t := mul_le_mul_of_nonneg_right h ht
      _ = y * t * (1 - slack) := by ring
  · right
    calc y * t * (1 + slack) = y * (1 + slack) * t := by ring
      _ ≤ x * t := mul_le_mul_of_nonneg_right h ht

/-! ### Small powers of ten -/

/-- Whole numbers `x ≠ y` are `Apart` unless both reach `2 ^ 51`. -/
theorem apart_of_ne {x y : Nat} (hne : x ≠ y) (h : x < 2 ^ 51 ∨ y < 2 ^ 51) :
    Apart (x : ℚ) y := by
  -- below `2 ^ 51` the slack is less than a whole number
  have hbound : ∀ {n : Nat}, n < 2 ^ 51 → ((n : ℚ) + 1) * slack ≤ 1 := by
    intro n hn
    have hn : (n : ℚ) + 1 ≤ 2 ^ 51 := by exact_mod_cast hn
    calc ((n : ℚ) + 1) * slack ≤ 2 ^ 51 * slack := mul_le_mul_of_nonneg_right hn slack_pos.le
      _ ≤ 1 := by
        unfold slack
        norm_num
  have hslack := slack_pos
  rcases Nat.lt_or_gt_of_ne hne with hlt | hgt
  · left
    have hx := hbound (h.elim id fun hy => hlt.trans hy)
    have hlt : (x : ℚ) + 1 ≤ y := by exact_mod_cast hlt
    have hone : slack ≤ 1 := by
      unfold slack
      norm_num
    calc (x : ℚ) ≤ (x + 1) * (1 - slack) := by linarith
      _ ≤ y * (1 - slack) := mul_le_mul_of_nonneg_right hlt (by linarith)
  · right
    have hy := hbound (h.elim (fun hx => Nat.lt_trans hgt hx) id)
    have hgt : (y : ℚ) + 1 ≤ x := by exact_mod_cast hgt
    linarith

section

variable {p f : Int} {digits n : Nat}

theorem ten_zpow_eq (p : Int) :
    (10 : ℚ) ^ p = ((5 ^ p.toNat : Nat) : ℚ) / (5 ^ (-p).toNat : Nat) * 2 ^ p := by
  rw [show (10 : ℚ) = 5 * 2 by norm_num, mul_zpow, ← pow_toNat_div (by norm_num : (5 : ℚ) ≠ 0) p]
  push_cast
  rfl

/-- For `|p| ≤ 11` a decimal and a binary number are whole numbers of a common unit, and so equal or
`Apart`. -/
theorem apart_of_natAbs_le (hp : p.natAbs ≤ 11) (hn : n ≤ 2 ^ 25 + 2)
    (hdigits : digits ≤ 2 ^ 25 + 2) :
    (digits : ℚ) * 10 ^ p = n * 2 ^ f ∨ Apart (digits * 10 ^ p : ℚ) (n * 2 ^ f) := by
  have hfive : ∀ {k : Nat}, k ≤ 11 → 5 ^ k ≤ 5 ^ 11 := fun hk => Nat.pow_le_pow_right (by decide) hk
  have hup : 5 ^ p.toNat ≤ 5 ^ 11 := hfive (by omega)
  have hdown : 5 ^ (-p).toNat ≤ 5 ^ 11 := hfive (by omega)
  have hsmall : (2 ^ 25 + 2) * 5 ^ 11 < 2 ^ 51 := by norm_num
  -- the common unit is the smaller power of two, divided by a power of five
  obtain ⟨x, y, t, ht, hx, hy, hless⟩ : ∃ x y : Nat, ∃ t : ℚ, 0 ≤ t ∧
      (digits : ℚ) * 10 ^ p = x * t ∧ (n : ℚ) * 2 ^ f = y * t ∧ (x < 2 ^ 51 ∨ y < 2 ^ 51) := by
    have hpos : (0 : ℚ) < (5 ^ (-p).toNat : Nat) := by positivity
    rcases le_total f p with hfp | hpf
    · obtain ⟨k, hk⟩ := Int.eq_ofNat_of_zero_le (sub_nonneg.mpr hfp)
      have hsplit : (2 : ℚ) ^ p = 2 ^ k * 2 ^ f := by
        rw [← zpow_natCast, ← zpow_add₀ two_ne_zero]
        congr 1
        omega
      refine ⟨digits * 5 ^ p.toNat * 2 ^ k, n * 5 ^ (-p).toNat, 2 ^ f / (5 ^ (-p).toNat : Nat),
        by positivity, ?_, ?_, .inr (lt_of_le_of_lt (Nat.mul_le_mul hn hdown) hsmall)⟩
      · rw [ten_zpow_eq, hsplit]
        push_cast
        ring
      · push_cast
        field_simp
    · obtain ⟨k, hk⟩ := Int.eq_ofNat_of_zero_le (sub_nonneg.mpr hpf)
      have hsplit : (2 : ℚ) ^ f = 2 ^ k * 2 ^ p := by
        rw [← zpow_natCast, ← zpow_add₀ two_ne_zero]
        congr 1
        omega
      refine ⟨digits * 5 ^ p.toNat, n * 5 ^ (-p).toNat * 2 ^ k, 2 ^ p / (5 ^ (-p).toNat : Nat),
        by positivity, ?_, ?_, .inl (lt_of_le_of_lt (Nat.mul_le_mul hdigits hup) hsmall)⟩
      · rw [ten_zpow_eq]
        push_cast
        ring
      · rw [hsplit]
        push_cast
        field_simp
  rw [hx, hy]
  by_cases hxy : x = y
  · left
    rw [hxy]
  · exact .inr ((apart_of_ne hxy hless).mul ht)

end

/-! ### Neighbouring fractions -/

/-- Two fractions `a / b` and `c / d` that are as close as their denominators allow:
`b * c = a * d + 1`. -/
structure Neighbours where
  a : Nat
  b : Nat
  c : Nat
  d : Nat
  det : b * c = a * d + 1

namespace Neighbours

/-- Between two neighbours there is no fraction of a denominator below `b + d`. -/
theorem outside (n : Neighbours) {x y : Nat} (hy : y < n.b + n.d) :
    x * n.b ≤ n.a * y ∨ n.c * y ≤ x * n.d := by
  obtain ⟨a, b, c, d, det⟩ := n
  dsimp only at hy ⊢
  by_contra hbetween
  rw [not_or, not_le, not_le] at hbetween
  have hlow := Nat.mul_le_mul_left d (Nat.succ_le_of_lt hbetween.1)
  have hhigh := Nat.mul_le_mul_left b (Nat.succ_le_of_lt hbetween.2)
  have hdet : y * (b * c) = y * (a * d + 1) := by rw [det]
  have : b + d ≤ y := by
    zify at *
    nlinarith
  omega

/-- The neighbours `0 / 1` and `1 / 0` around every quotient. -/
def first : Neighbours :=
  ⟨0, 1, 1, 0, rfl⟩

/-- The fraction between, `(a + c) / (b + d)`, in place of the lower one. -/
def raise (n : Neighbours) : Neighbours :=
  ⟨n.a + n.c, n.b + n.d, n.c, n.d, by
    rw [Nat.add_mul, Nat.add_mul, n.det, Nat.mul_comm n.d]
    omega⟩

/-- The same fraction `a / b` below, and the mediant `(a + c) / (b + d)` above. -/
def lower (n : Neighbours) : Neighbours :=
  ⟨n.a, n.b, n.a + n.c, n.b + n.d, by
    rw [Nat.mul_add, Nat.mul_add, n.det, Nat.mul_comm n.b]
    omega⟩

/-- Neighbours around `num / den` whose denominators together exceed `bound`, if the steps are
enough to find them. -/
def enclose (num den bound : Nat) : Nat → Neighbours → Neighbours
  | 0, n => n
  | steps + 1, n =>
    if bound < n.b + n.d then n
    else if (n.a + n.c) * den ≤ num * (n.b + n.d) then enclose num den bound steps n.raise
    else enclose num den bound steps n.lower

end Neighbours

/-! ### Grids and halves -/

theorem gridFactor_pos (p f : Int) : 0 < gridFactor p f :=
  Nat.mul_pos (tenTo_pos _) (twoTo_pos _)

theorem binaryFactor_pos (p f : Int) : 0 < binaryFactor p f :=
  Nat.mul_pos (tenTo_pos _) (twoTo_pos _)

theorem gridFactor_div_binaryFactor (p f : Int) :
    (gridFactor p f : ℚ) / binaryFactor p f = 10 ^ p / 2 ^ f := by
  unfold gridFactor binaryFactor
  rw [← pow_toNat_div (by norm_num : (10 : ℚ) ≠ 0) p, ← pow_toNat_div two_ne_zero f]
  push_cast
  rw [cast_twoTo, cast_twoTo, cast_tenTo, cast_tenTo]
  field_simp

theorem ten_zpow_eq_gridFactor (p f : Int) :
    (10 : ℚ) ^ p = gridFactor p f / binaryFactor p f * 2 ^ f := by
  rw [gridFactor_div_binaryFactor, div_mul_cancel₀ _ (two_zpow_pos f).ne']

section

variable {p e : Int} {digits n : Nat}

theorem le_grid_iff : n * binaryFactor p e ≤ digits * gridFactor p e ↔
    (n : ℚ) * 2 ^ e ≤ digits * 10 ^ p := by
  have hpos : (0 : ℚ) < binaryFactor p e := by exact_mod_cast binaryFactor_pos p e
  rw [ten_zpow_eq_gridFactor p e, ← mul_assoc, mul_le_mul_iff_of_pos_right (two_zpow_pos e),
    ← mul_div_assoc, le_div_iff₀ hpos]
  exact_mod_cast Iff.rfl

theorem grid_le_iff : digits * gridFactor p e ≤ n * binaryFactor p e ↔
    (digits : ℚ) * 10 ^ p ≤ n * 2 ^ e := by
  have hpos : (0 : ℚ) < binaryFactor p e := by exact_mod_cast binaryFactor_pos p e
  rw [ten_zpow_eq_gridFactor p e, ← mul_assoc, mul_le_mul_iff_of_pos_right (two_zpow_pos e),
    ← mul_div_assoc, div_le_iff₀ hpos]
  exact_mod_cast Iff.rfl

end

/-- The greatest exponent of halves such that a step of the grid `10 ^ p` is at least two of
them. -/
def halfExponent (p : Int) : Int :=
  log2Ratio (tenTo p.toNat) (tenTo (-p).toNat) - 1

/-- The fraction `a / b` is below the quotient of a half and a step of the grid, by `slack` at
least. -/
def StaysBelow (p : Int) (a b : Nat) : Prop :=
  2 ^ 53 * (a * gridFactor p (halfExponent p)) + 3 * (b * binaryFactor p (halfExponent p)) ≤
    2 ^ 53 * (b * binaryFactor p (halfExponent p))

/-- The fraction `c / d` is above that quotient, by `slack` at least. -/
def StaysAbove (p : Int) (c d : Nat) : Prop :=
  2 ^ 53 * (d * binaryFactor p (halfExponent p)) + 3 * (d * binaryFactor p (halfExponent p)) ≤
    2 ^ 53 * (c * gridFactor p (halfExponent p))

instance (p : Int) (a b : Nat) : Decidable (StaysBelow p a b) :=
  inferInstanceAs (Decidable (_ ≤ _))

instance (p : Int) (c d : Nat) : Decidable (StaysAbove p c d) :=
  inferInstanceAs (Decidable (_ ≤ _))

/-- Neighbours around the quotient of both units at `p` that stay away from it, with `b + d` beyond
every half. -/
structure Encloses (p : Int) (n : Neighbours) : Prop where
  bound : 2 ^ 25 + 2 < n.b + n.d
  pos : 0 < n.d
  below : StaysBelow p n.a n.b
  above : StaysAbove p n.c n.d

instance (p : Int) (n : Neighbours) : Decidable (Encloses p n) :=
  decidable_of_iff (2 ^ 25 + 2 < n.b + n.d ∧ 0 < n.d ∧ StaysBelow p n.a n.b ∧ StaysAbove p n.c n.d)
    ⟨fun ⟨h1, h2, h3, h4⟩ => ⟨h1, h2, h3, h4⟩, fun ⟨h1, h2, h3, h4⟩ => ⟨h1, h2, h3, h4⟩⟩

/-- The neighbours that `enclose` finds for the power `p`. -/
def enclosing (p : Int) : Neighbours :=
  .enclose (binaryFactor p (halfExponent p)) (gridFactor p (halfExponent p)) (2 ^ 25 + 2) 1500
    .first

theorem encloses_enclosing :
    ∀ k : Nat, k < 86 → 11 < ((k : Int) - 46).natAbs → (k : Int) - 46 ≠ -32 →
      Encloses ((k : Int) - 46) (enclosing ((k : Int) - 46)) := by
  decide +kernel

section

variable {p : Int} {x y : Nat}

theorem Neighbours.b_pos (n : Neighbours) : 0 < n.b := by
  refine Nat.pos_of_ne_zero fun h => ?_
  have := n.det
  rw [h, Nat.zero_mul] at this
  omega

theorem apart_of_factors {f : Int}
    (h : Apart ((x * gridFactor p f : Nat) : ℚ) (y * binaryFactor p f : Nat)) :
    Apart (x * 10 ^ p : ℚ) (y * 2 ^ f) := by
  have hpos : (0 : ℚ) < binaryFactor p f := by exact_mod_cast binaryFactor_pos p f
  have htwo := two_zpow_pos f
  have ht : (0 : ℚ) ≤ 2 ^ f / binaryFactor p f := by positivity
  convert h.mul ht using 1
  · rw [ten_zpow_eq_gridFactor p f]
    push_cast
    ring
  · push_cast
    field_simp

theorem apart_of_staysBelow {a b : Nat} (h : StaysBelow p a b) (hb : 0 < b) (hxy : x * b ≤ a * y) :
    Apart (x * 10 ^ p : ℚ) (y * 2 ^ halfExponent p) := by
  refine apart_of_factors (.inl ?_)
  unfold StaysBelow at h
  generalize gridFactor p (halfExponent p) = grid at *
  generalize binaryFactor p (halfExponent p) = binary at *
  -- what holds of `a / b` holds of `x / y`, which is no greater
  have hless : 2 ^ 53 * (x * grid) + 3 * (y * binary) ≤ 2 ^ 53 * (y * binary) := by
    refine Nat.le_of_mul_le_mul_right ?_ hb
    calc (2 ^ 53 * (x * grid) + 3 * (y * binary)) * b
        = x * b * (2 ^ 53 * grid) + 3 * (y * binary) * b := by ring
      _ ≤ a * y * (2 ^ 53 * grid) + 3 * (y * binary) * b :=
        Nat.add_le_add_right (Nat.mul_le_mul_right _ hxy) _
      _ = (2 ^ 53 * (a * grid) + 3 * (b * binary)) * y := by ring
      _ ≤ 2 ^ 53 * (b * binary) * y := Nat.mul_le_mul_right _ h
      _ = 2 ^ 53 * (y * binary) * b := by ring
  have hless : (2 ^ 53 * (x * grid : Nat) + 3 * (y * binary : Nat) : ℚ) ≤
      2 ^ 53 * (y * binary : Nat) := by
    exact_mod_cast hless
  unfold slack
  linarith

theorem apart_of_staysAbove {c d : Nat} (h : StaysAbove p c d) (hd : 0 < d) (hxy : c * y ≤ x * d) :
    Apart (x * 10 ^ p : ℚ) (y * 2 ^ halfExponent p) := by
  refine apart_of_factors (.inr ?_)
  unfold StaysAbove at h
  generalize gridFactor p (halfExponent p) = grid at *
  generalize binaryFactor p (halfExponent p) = binary at *
  have hless : 2 ^ 53 * (y * binary) + 3 * (y * binary) ≤ 2 ^ 53 * (x * grid) := by
    refine Nat.le_of_mul_le_mul_right ?_ hd
    calc (2 ^ 53 * (y * binary) + 3 * (y * binary)) * d
        = (2 ^ 53 * (d * binary) + 3 * (d * binary)) * y := by ring
      _ ≤ 2 ^ 53 * (c * grid) * y := Nat.mul_le_mul_right _ h
      _ = c * y * (2 ^ 53 * grid) := by ring
      _ ≤ x * d * (2 ^ 53 * grid) := Nat.mul_le_mul_right _ hxy
      _ = 2 ^ 53 * (x * grid) * d := by ring
  have hless : (2 ^ 53 * (y * binary : Nat) + 3 * (y * binary : Nat) : ℚ) ≤
      2 ^ 53 * (x * grid : Nat) := by
    exact_mod_cast hless
  unfold slack
  linarith

theorem apart_of_encloses {n : Neighbours} (h : Encloses p n) (hy : y ≤ 2 ^ 25 + 2) :
    Apart (x * 10 ^ p : ℚ) (y * 2 ^ halfExponent p) := by
  rcases n.outside (lt_of_le_of_lt hy h.bound) with hlow | hhigh
  · exact apart_of_staysBelow h.below n.b_pos hlow
  · exact apart_of_staysAbove h.above h.pos hhigh

/-- For `p = -32` the one decimal too close to a half is `7038531e-32`. -/
theorem apart_of_exception (hy : 0 < y) (hbound : y ≤ 2 ^ 25 + 2) :
    Apart (x * 10 ^ (-32 : Int) : ℚ) (y * 2 ^ halfExponent (-32)) ∨
      x = 7038531 ∧ y = 22841339 := by
  -- its fraction has a neighbour below and another one above
  have hlow : x * 31187080 ≤ 9610261 * y ∨ 7038531 * y ≤ x * 22841339 :=
    (Neighbours.mk 9610261 31187080 7038531 22841339 (by norm_num)).outside
      (by show y < 31187080 + 22841339; omega)
  have hhigh : x * 22841339 ≤ 7038531 * y ∨ 4466801 * y ≤ x * 14495598 :=
    (Neighbours.mk 7038531 22841339 4466801 14495598 (by norm_num)).outside
      (by show y < 22841339 + 14495598; omega)
  rcases hlow with hlow | hlow
  · have hbelow : StaysBelow (-32) 9610261 31187080 := by decide +kernel
    exact .inl (apart_of_staysBelow hbelow (by norm_num) hlow)
  rcases hhigh with hhigh | hhigh
  -- between the two there is only the fraction itself, in lowest terms
  · right
    have heq := Nat.le_antisymm hhigh hlow
    have hcoprime : Nat.Coprime 22841339 7038531 := by norm_num
    obtain ⟨k, rfl⟩ := hcoprime.dvd_of_dvd_mul_left ⟨x, by rw [← heq, Nat.mul_comm]⟩
    have hk : k = 1 := by
      clear hlow hhigh heq
      omega
    rw [hk, Nat.mul_one] at heq ⊢
    exact ⟨Nat.eq_of_mul_eq_mul_right (by norm_num) heq, rfl⟩
  · have habove : StaysAbove (-32) 4466801 14495598 := by decide +kernel
    exact .inl (apart_of_staysAbove habove (by norm_num) hhigh)

/-- No `10 ^ p` in the range is just below a power of two. -/
theorem gridFactor_lt_halfExponent : ∀ k : Nat, k < 86 →
    2 ^ 26 * gridFactor ((k : Int) - 46) (halfExponent ((k : Int) - 46)) <
      (2 ^ 28 - 4) * binaryFactor ((k : Int) - 46) (halfExponent ((k : Int) - 46)) := by
  decide +kernel

variable {f : Int}

theorem le_halfExponent (hp : -46 ≤ p) (hp' : p ≤ 39)
    (hgrid : (2 : ℚ) ^ (f + 1) * (1 - 1 / 2 ^ 26) ≤ 10 ^ p) : f ≤ halfExponent p := by
  obtain ⟨k, hk⟩ := Int.eq_ofNat_of_zero_le (by omega : 0 ≤ p + 46)
  obtain rfl : p = k - 46 := by omega
  have hless := gridFactor_lt_halfExponent k (by omega)
  have hratio := gridFactor_div_binaryFactor ((k : Int) - 46) (halfExponent ((k : Int) - 46))
  have hpos : (0 : ℚ) < binaryFactor ((k : Int) - 46) (halfExponent ((k : Int) - 46)) := by
    exact_mod_cast binaryFactor_pos _ _
  have htwo := two_zpow_pos (halfExponent ((k : Int) - 46))
  -- beyond `halfExponent` a step of the grid would have to reach `2 ^ (e + 2)`, or nearly so
  by_contra hover
  have hnext : (2 : ℚ) ^ (halfExponent ((k : Int) - 46) + 2) ≤ 2 ^ (f + 1) :=
    zpow_le_zpow_right₀ one_le_two (by omega)
  rw [zpow_add₀ two_ne_zero] at hnext
  generalize halfExponent ((k : Int) - 46) = e at *
  have hless : (2 ^ 26 * gridFactor ((k : Int) - 46) e : ℚ) <
      (2 ^ 28 - 4) * binaryFactor ((k : Int) - 46) e := by
    have : (2 ^ 28 - 4 : ℚ) = ((2 ^ 28 - 4 : Nat) : ℚ) := by norm_num
    rw [this]
    exact_mod_cast hless
  have hten : (10 : ℚ) ^ ((k : Int) - 46) < 2 ^ e * (2 ^ 2 * (1 - 1 / 2 ^ 26)) := by
    rw [eq_div_iff htwo.ne'] at hratio
    rw [← hratio, mul_comm]
    refine mul_lt_mul_of_pos_left ?_ htwo
    rw [div_lt_iff₀ hpos]
    linarith
  have : (2 : ℚ) ^ e * 2 ^ (2 : Int) * (1 - 1 / 2 ^ 26) ≤ 10 ^ ((k : Int) - 46) :=
    le_trans (mul_le_mul_of_nonneg_right hnext (by norm_num)) hgrid
  have hsquare : (2 : ℚ) ^ (2 : Int) = 2 ^ 2 := by norm_num
  rw [hsquare] at this
  linarith

/-- **A decimal on a grid that is no finer than the floats** is a half `y * 2 ^ f` exactly or
`Apart` from it, but for `7038531e-32`. -/
theorem apart_of_le (hp : -46 ≤ p) (hp' : p ≤ 39) (hy : 0 < y) (hbound : y ≤ 2 ^ 25 + 2)
    (hgrid : (2 : ℚ) ^ (f + 1) * (1 - 1 / 2 ^ 26) ≤ 10 ^ p) :
    (x : ℚ) * 10 ^ p = y * 2 ^ f ∨ Apart (x * 10 ^ p : ℚ) (y * 2 ^ f) ∨
      p = -32 ∧ f = -108 ∧ x = 7038531 ∧ y = 22841339 := by
  by_cases hsmall : p.natAbs ≤ 11
  · by_cases hx : x ≤ 2 ^ 25 + 2
    · exact (apart_of_natAbs_le hsmall hbound hx).imp_right .inl
    -- more digits than halves are far above them
    · right
      left
      right
      have hxy : (y : ℚ) ≤ x := by
        exact_mod_cast (by omega : y ≤ x)
      have hslack : 1 + slack ≤ 2 * (1 - 1 / 2 ^ 26) := by
        unfold slack
        norm_num
      have htwo := two_zpow_pos f
      calc (y : ℚ) * 2 ^ f * (1 + slack) ≤ y * 2 ^ f * (2 * (1 - 1 / 2 ^ 26)) :=
            mul_le_mul_of_nonneg_left hslack (by positivity)
        _ = y * (2 ^ (f + 1) * (1 - 1 / 2 ^ 26)) := by
            rw [zpow_add_one₀ two_ne_zero]
            ring
        _ ≤ x * 10 ^ p := mul_le_mul hxy hgrid (by
            have := two_zpow_pos (f + 1)
            have : (0 : ℚ) ≤ 1 - 1 / 2 ^ 26 := by norm_num
            positivity) (by positivity)
  · right
    -- with the exponent of the halves at its greatest there is one comparison for each power of ten
    obtain ⟨j, hj⟩ := Int.eq_ofNat_of_zero_le (sub_nonneg.mpr (le_halfExponent hp hp' hgrid))
    have hscale : (2 : ℚ) ^ f * 2 ^ j = 2 ^ halfExponent p := by
      rw [← zpow_natCast, ← zpow_add₀ two_ne_zero]
      congr 1
      omega
    -- and what is apart there is apart in the units of `f`
    have hunscale : Apart ((x * 2 ^ j : Nat) * 10 ^ p : ℚ) (y * 2 ^ halfExponent p) →
        Apart (x * 10 ^ p : ℚ) (y * 2 ^ f) := by
      intro h
      have hpow : (0 : ℚ) < 2 ^ j := by positivity
      convert h.mul (inv_nonneg.mpr hpow.le) using 1
      · push_cast
        field_simp
      · rw [← hscale]
        field_simp
    by_cases hexception : p = -32
    · subst hexception
      rcases apart_of_exception (x := x * 2 ^ j) hy hbound with h | ⟨hx, hy⟩
      · exact .inl (hunscale h)
      · right
        have hhalf : halfExponent (-32) = -108 := by decide +kernel
        -- the exception is odd, so it is not scaled up from another decimal
        have hzero : j = 0 := by
          by_contra hne
          obtain ⟨i, rfl⟩ := Nat.exists_eq_succ_of_ne_zero hne
          rw [pow_succ, ← Nat.mul_assoc] at hx
          omega
        subst hzero
        exact ⟨rfl, by omega, by simpa using hx, hy⟩
    · left
      apply hunscale
      obtain ⟨k, hk⟩ := Int.eq_ofNat_of_zero_le (by omega : 0 ≤ p + 46)
      obtain rfl : p = k - 46 := by omega
      exact apart_of_encloses
        (encloses_enclosing k (by omega) (by omega) hexception) hbound

end

end TruckDepot.Decimal
