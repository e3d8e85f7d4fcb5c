import Mathlib.Data.Int.Log
import Mathlib.Data.Rat.Floor
import Mathlib.Tactic.FieldSimp
import Mathlib.Tactic.Linarith
import Mathlib.Tactic.NormNum
import Mathlib.Tactic.Positivity
import Mathlib.Tactic.Ring
import TruckDepot.Decimal.Binary

/-!
# The nearest number of a binary format

`BinaryFormat.nearest?` computes with naturals.  Here it is read over the rationals: the exponent it
takes is the one of the binade of the quotient (`Decimal.log2Ratio_eq`), the significand is the
whole number nearest to the quotient in units of that exponent (`Decimal.roundDiv_eq_of_isNearest`).
So in the 64-bit format the error is relatively no more than `2 ^ -53`, and there is none where 53
bits are enough (`Decimal.nearest?_binary64`).
-/

namespace TruckDepot.Decimal

/-! ### Powers -/

theorem two_zpow_pos (e : Int) : (0 : ℚ) < 2 ^ e :=
  zpow_pos two_pos e

theorem ten_zpow_pos (e : Int) : (0 : ℚ) < 10 ^ e :=
  zpow_pos (by norm_num) e

@[simp] theorem cast_twoTo (n : Nat) : ((twoTo n : Nat) : ℚ) = 2 ^ n := by
  have h : twoTo n = 2 ^ n := rfl
  rw [h]
  push_cast
  rfl

@[simp] theorem cast_tenTo (n : Nat) : ((tenTo n : Nat) : ℚ) = 10 ^ n := by
  have h : tenTo n = 10 ^ n := rfl
  rw [h]
  push_cast
  rfl

/-- One of the powers is `1`, and the other has the exponent `e` or `-e`. -/
theorem pow_toNat_div {b : ℚ} (hb : b ≠ 0) (e : Int) : b ^ e.toNat / b ^ (-e).toNat = b ^ e := by
  rw [← zpow_natCast, ← zpow_natCast, ← zpow_sub₀ hb]
  congr 1
  omega

namespace Scaled

/-- The magnitude `significand * 2 ^ exponent` as a rational. -/
def value (x : Scaled) : ℚ :=
  x.significand * 2 ^ x.exponent

theorem num_div_den (x : Scaled) : (x.num : ℚ) / x.den = x.value := by
  unfold num den value
  push_cast
  rw [cast_twoTo, cast_twoTo, mul_div_assoc, pow_toNat_div two_ne_zero]

end Scaled

/-! ### Whole numbers -/

/-- The whole number `m` is nearest to `v`; half a unit away it is the even one. -/
structure IsNearest (v : ℚ) (m : Nat) : Prop where
  abs_sub_le : |v - m| ≤ 1 / 2
  even : |v - m| = 1 / 2 → m % 2 = 0

theorem abs_div_sub_roundDiv_le (num : Nat) {den : Nat} (h : 0 < den) :
    |(num : ℚ) / den - roundDiv num den| ≤ 1 / 2 := by
  obtain ⟨hhigh, hlow⟩ := roundDiv_near num den h
  have hden : (0 : ℚ) < den := by exact_mod_cast h
  have hhigh : (2 * (roundDiv num den * den) : ℚ) ≤ 2 * num + den := by exact_mod_cast hhigh
  have hlow : (2 * num : ℚ) ≤ 2 * (roundDiv num den * den) + den := by exact_mod_cast hlow
  rw [abs_le, div_sub' hden.ne', le_div_iff₀ hden, div_le_iff₀ hden]
  constructor <;> linarith

/-- `roundDiv` finds the `IsNearest` whole number. -/
theorem roundDiv_eq_of_isNearest {num den m : Nat} (h : 0 < den)
    (hm : IsNearest ((num : ℚ) / den) m) : roundDiv num den = m := by
  obtain ⟨habs, heven⟩ := hm
  have hden : (0 : ℚ) < den := by exact_mod_cast h
  -- the quotient is the whole part `q` and a fraction, which `roundDiv` compares to one half
  have hsplit : (num : ℚ) / den = (num / den : Nat) + (num % den : Nat) / den := by
    have hnum : (num : ℚ) = den * (num / den : Nat) + (num % den : Nat) := by
      exact_mod_cast (Nat.div_add_mod num den).symm
    field_simp
    linarith
  rw [hsplit] at habs heven
  obtain ⟨hlow, hhigh⟩ := abs_le.mp habs
  unfold roundDiv
  generalize num / den = q at *
  have hpart : ∀ {x y : Nat}, 2 * x < y → (2 * x : ℚ) < y := fun hlt => by exact_mod_cast hlt
  split_ifs with hbelow habove
  -- below one half, `q` is the nearest
  · have hfraction : ((num % den : Nat) : ℚ) / den < 1 / 2 := by
      rw [div_lt_iff₀ hden]
      linarith [hpart hbelow]
    have h0 : (0 : ℚ) ≤ (num % den : Nat) / den := by positivity
    have h1 : (m : ℚ) < q + 1 := by linarith
    have h2 : (q : ℚ) < m + 1 := by linarith
    have h1 : m < q + 1 := by exact_mod_cast h1
    have h2 : q < m + 1 := by exact_mod_cast h2
    omega
  -- above it, `q + 1` is
  · have hfraction : 1 / 2 < ((num % den : Nat) : ℚ) / den := by
      have : (den : ℚ) < 2 * (num % den : Nat) := by exact_mod_cast habove
      rw [lt_div_iff₀ hden]
      linarith
    have hone : ((num % den : Nat) : ℚ) / den < 1 := by
      rw [div_lt_one hden]
      exact_mod_cast Nat.mod_lt num h
    have h1 : (m : ℚ) < q + 2 := by linarith
    have h2 : (q : ℚ) < m := by linarith
    have h1 : m < q + 2 := by exact_mod_cast h1
    have h2 : q < m := by exact_mod_cast h2
    omega
  -- half a unit away from both neighbours
  · have hfraction : ((num % den : Nat) : ℚ) / den = 1 / 2 := by
      have : (2 * (num % den : Nat) : ℚ) = den := by
        exact_mod_cast (by omega : 2 * (num % den) = den)
      rw [div_eq_iff hden.ne']
      linarith
    rw [hfraction] at hlow hhigh heven
    have h1 : (m : ℚ) ≤ q + 1 := by linarith
    have h2 : (q : ℚ) ≤ m := by linarith
    have h1 : m ≤ q + 1 := by exact_mod_cast h1
    have h2 : q ≤ m := by exact_mod_cast h2
    have hm2 : m % 2 = 0 := by
      apply heven
      rcases (by omega : m = q ∨ m = q + 1) with rfl | rfl
      · norm_num
      · push_cast
        rw [show (q : ℚ) + 1 / 2 - (q + 1) = -(1 / 2) by ring]
        norm_num
    omega

/-! ### Binades -/

/-- Between `2 ^ k` and `2 ^ (k + 1)`, `Int.log 2` is `k`. -/
theorem log_eq_of_bounds {v : ℚ} {k : Int} (hlow : 2 ^ k ≤ v) (hhigh : v < 2 ^ (k + 1)) :
    Int.log 2 v = k := by
  have hv : 0 < v := lt_of_lt_of_le (two_zpow_pos k) hlow
  have hle := Int.zpow_log_le_self (b := 2) (by norm_num) hv
  have hlt := Int.lt_zpow_succ_log_self (b := 2) (by norm_num) v
  push_cast at hle hlt
  have h1 := (zpow_lt_zpow_iff_right₀ (one_lt_two (α := ℚ))).mp (lt_of_le_of_lt hle hhigh)
  have h2 := (zpow_lt_zpow_iff_right₀ (one_lt_two (α := ℚ))).mp (lt_of_le_of_lt hlow hlt)
  omega

theorem zpow_log_le {v : ℚ} (hv : 0 < v) : (2 : ℚ) ^ Int.log 2 v ≤ v := by
  have h := Int.zpow_log_le_self (b := 2) (by norm_num) hv
  push_cast at h
  exact h

theorem lt_zpow_log_add_one (v : ℚ) : v < (2 : ℚ) ^ (Int.log 2 v + 1) := by
  have h := Int.lt_zpow_succ_log_self (b := 2) (by norm_num) v
  push_cast at h
  exact h

theorem log2Ratio_eq {num den : Nat} (hnum : 0 < num) (hden : 0 < den) :
    log2Ratio num den = Int.log 2 ((num : ℚ) / den) := by
  have hden' : (0 : ℚ) < den := by exact_mod_cast hden
  -- `num` and `den` are each in the binade of their number of bits
  have hbits {n : Nat} (hn : 0 < n) :
      (2 : ℚ) ^ (n.log2 : Int) ≤ n ∧ (n : ℚ) < 2 ^ ((n.log2 : Int) + 1) := by
    have hlow := Nat.log2_self_le hn.ne'
    have hhigh := Nat.lt_log2_self (n := n)
    refine ⟨by exact_mod_cast hlow, ?_⟩
    have : ((n.log2 : Int) + 1) = ((n.log2 + 1 : Nat) : Int) := by push_cast; rfl
    rw [this, zpow_natCast]
    exact_mod_cast hhigh
  obtain ⟨hnumlow, hnumhigh⟩ := hbits hnum
  obtain ⟨hdenlow, hdenhigh⟩ := hbits hden
  -- the quotient is in the binade of the difference, or in the one below
  have hlow : (2 : ℚ) ^ ((num.log2 : Int) - den.log2 - 1) ≤ num / den := by
    rw [le_div_iff₀ hden']
    calc (2 : ℚ) ^ ((num.log2 : Int) - den.log2 - 1) * den
        ≤ 2 ^ ((num.log2 : Int) - den.log2 - 1) * 2 ^ ((den.log2 : Int) + 1) :=
          mul_le_mul_of_nonneg_left hdenhigh.le (two_zpow_pos _).le
      _ = 2 ^ (num.log2 : Int) := by
        rw [← zpow_add₀ two_ne_zero]
        congr 1
        ring
      _ ≤ num := hnumlow
  have hhigh : (num : ℚ) / den < 2 ^ ((num.log2 : Int) - den.log2 + 1) := by
    rw [div_lt_iff₀ hden']
    calc (num : ℚ) < 2 ^ ((num.log2 : Int) + 1) := hnumhigh
      _ = 2 ^ ((num.log2 : Int) - den.log2 + 1) * 2 ^ (den.log2 : Int) := by
        rw [← zpow_add₀ two_ne_zero]
        congr 1
        ring
      _ ≤ 2 ^ ((num.log2 : Int) - den.log2 + 1) * den :=
          mul_le_mul_of_nonneg_left hdenlow (two_zpow_pos _).le
  unfold log2Ratio
  dsimp only
  generalize (num.log2 : Int) - den.log2 = k at hlow hhigh
  have hbelow : num * twoTo (-k).toNat < den * twoTo k.toNat ↔ (num : ℚ) / den < 2 ^ k := by
    rw [← pow_toNat_div two_ne_zero k, div_lt_div_iff₀ hden' (by positivity), ← cast_twoTo,
      ← cast_twoTo, mul_comm (twoTo k.toNat : ℚ)]
    exact_mod_cast Iff.rfl
  split_ifs with h
  · refine (log_eq_of_bounds hlow ?_).symm
    rw [sub_add_cancel]
    exact hbelow.mp h
  · exact (log_eq_of_bounds (not_lt.mp (mt hbelow.mpr h)) hhigh).symm

/-! ### The number of a format -/

namespace BinaryFormat

variable (f : BinaryFormat)

/-- The exponent of the numbers of the format around `v`: that of its binade, but not below the
least. -/
def exponentAt (v : ℚ) : Int :=
  max (Int.log 2 v - (f.precision - 1 : Int)) f.leastExponent

/-- In units of `exponentAt v`, a quotient has no more bits than a significand. -/
theorem div_zpow_exponentAt_lt (v : ℚ) : v / 2 ^ f.exponentAt v < 2 ^ f.precision := by
  rw [div_lt_iff₀ (two_zpow_pos _), ← zpow_natCast, ← zpow_add₀ two_ne_zero]
  refine lt_of_lt_of_le (lt_zpow_log_add_one v) ?_
  apply zpow_le_zpow_right₀ one_le_two
  unfold exponentAt
  omega

variable {f} {num den : Nat}

/-- `nearest?` takes the exponent `exponentAt`, rounds the quotient in its units, and gives `none`
where this reaches the top. -/
theorem nearest?_eq (hnum : 0 < num) (hden : 0 < den) :
    ∃ significand : Nat, significand ≤ 2 ^ f.precision ∧
      |(num : ℚ) / den / 2 ^ f.exponentAt (num / den) - significand| ≤ 1 / 2 ∧
      (∀ m, IsNearest ((num : ℚ) / den / 2 ^ f.exponentAt (num / den)) m → significand = m) ∧
      f.nearest? num den =
        if f.top ≤ significand.log2 + f.exponentAt (num / den) then none
        else some ⟨significand, f.exponentAt (num / den)⟩ := by
  have hexponent : max (log2Ratio num den - (f.precision - 1 : Int)) f.leastExponent =
      f.exponentAt (num / den) := by
    unfold exponentAt
    rw [log2Ratio_eq hnum hden]
  have hless := f.div_zpow_exponentAt_lt ((num : ℚ) / den)
  generalize f.exponentAt ((num : ℚ) / den) = e at *
  -- the quotient in units of `2 ^ e`, as the naturals that are divided
  have hscaled : 0 < den * twoTo e.toNat := Nat.mul_pos hden (twoTo_pos _)
  have hratio : ((num * twoTo (-e).toNat : Nat) : ℚ) / (den * twoTo e.toNat : Nat) =
      num / den / 2 ^ e := by
    rw [← pow_toNat_div two_ne_zero e]
    push_cast
    rw [cast_twoTo, cast_twoTo]
    field_simp
  have hround := abs_div_sub_roundDiv_le (num * twoTo (-e).toNat) hscaled
  rw [hratio] at hround
  refine ⟨roundDiv (num * twoTo (-e).toNat) (den * twoTo e.toNat), ?_, hround, fun m hm => ?_, ?_⟩
  · have hlow := (abs_le.mp hround).1
    generalize roundDiv (num * twoTo (-e).toNat) (den * twoTo e.toNat) = significand at *
    have hle : (significand : ℚ) < 2 ^ f.precision + 1 := by linarith
    have hle : significand < 2 ^ f.precision + 1 := by exact_mod_cast hle
    omega
  · apply roundDiv_eq_of_isNearest hscaled
    rwa [hratio]
  · unfold nearest?
    rw [if_neg hnum.ne']
    dsimp only
    rw [hexponent]

theorem log2_le_of_le {n k : Nat} (h : n ≤ 2 ^ k) : n.log2 ≤ k := by
  by_cases hzero : n = 0
  · simp [hzero]
  · have hpow : 2 ^ (k + 1) = 2 ^ k + 2 ^ k := by
      rw [pow_succ]
      omega
    have hpos := Nat.two_pow_pos k
    have := (Nat.log2_lt hzero).mpr (by omega : n < 2 ^ (k + 1))
    omega

/-- Below the last binade of a format `nearest?` gives a number. -/
theorem nearest?_eq_some (hformat : f.precision + f.leastExponent < f.top) (hnum : 0 < num)
    (hden : 0 < den) (htop : Int.log 2 ((num : ℚ) / den) + 1 < f.top) :
    ∃ significand : Nat, significand ≤ 2 ^ f.precision ∧
      f.nearest? num den = some ⟨significand, f.exponentAt (num / den)⟩ ∧
      |(num : ℚ) / den / 2 ^ f.exponentAt (num / den) - significand| ≤ 1 / 2 ∧
      ∀ m, IsNearest ((num : ℚ) / den / 2 ^ f.exponentAt (num / den)) m → significand = m := by
  obtain ⟨significand, hle, hround, hnearest, heq⟩ := nearest?_eq (f := f) hnum hden
  have hbits := log2_le_of_le hle
  refine ⟨significand, hle, ?_, hround, hnearest⟩
  rw [heq, if_neg]
  unfold exponentAt
  omega

end BinaryFormat

/-! ### The 64-bit format -/

/-- Between `2 ^ -250` and `2 ^ 250` the 64-bit format errs by `2 ^ -53` of the quotient at most,
and not at all where 53 bits are enough. -/
theorem nearest?_binary64 {num den : Nat} (hden : 0 < den)
    (hlow : (2 : ℚ) ^ (-250 : Int) ≤ num / den) (hhigh : (num : ℚ) / den < 2 ^ (250 : Int)) :
    ∃ y, binary64.nearest? num den = some y ∧
      |(num : ℚ) / den - y.value| ≤ num / den * (1 / 2 ^ 53) ∧
      ∀ (s : Nat) (t : Int), s < 2 ^ 53 → (num : ℚ) / den = s * 2 ^ t → y.value = num / den := by
  have hpos : (0 : ℚ) < num / den := lt_of_lt_of_le (two_zpow_pos _) hlow
  have hnum : 0 < num := by
    refine Nat.pos_of_ne_zero fun h => ?_
    simp [h] at hpos
  -- the exponent is that of the binade, neither subnormal nor at the top
  have hleast := (zpow_lt_zpow_iff_right₀ (one_lt_two (α := ℚ))).mp
    (lt_of_le_of_lt hlow (lt_zpow_log_add_one _))
  have hmost := (zpow_lt_zpow_iff_right₀ (one_lt_two (α := ℚ))).mp
    (lt_of_le_of_lt (zpow_log_le hpos) hhigh)
  have hexponent : binary64.exponentAt ((num : ℚ) / den) = Int.log 2 ((num : ℚ) / den) - 52 := by
    show max (Int.log 2 ((num : ℚ) / den) - ((53 : Nat) - 1 : Int)) (-1074) = _
    push_cast
    omega
  obtain ⟨significand, -, hsome, hround, hexact⟩ :=
    BinaryFormat.nearest?_eq_some (f := binary64) (by decide) hnum hden
      (by show _ < (1024 : Int); omega)
  have hbinade := zpow_log_le hpos
  rw [hexponent] at hsome hround hexact
  generalize (num : ℚ) / den = v at *
  have hunit := two_zpow_pos (Int.log 2 v - 52)
  refine ⟨_, hsome, ?_, fun s t hs hv => ?_⟩
  · -- half a unit, of which the binade has `2 ^ 52`
    show |v - significand * 2 ^ (Int.log 2 v - 52)| ≤ _
    calc |v - significand * 2 ^ (Int.log 2 v - 52)|
        = |v / 2 ^ (Int.log 2 v - 52) - significand| * 2 ^ (Int.log 2 v - 52) := by
          rw [← abs_of_pos hunit, ← abs_mul, abs_of_pos hunit, sub_mul,
            div_mul_cancel₀ _ hunit.ne']
      _ ≤ 1 / 2 * 2 ^ (Int.log 2 v - 52) := mul_le_mul_of_nonneg_right hround hunit.le
      _ = 2 ^ Int.log 2 v * (1 / 2 ^ 53) := by
          rw [zpow_sub₀ two_ne_zero]
          norm_num
          ring
      _ ≤ v * (1 / 2 ^ 53) := mul_le_mul_of_nonneg_right hbinade (by norm_num)
  -- `v` is a whole number of units, for it has no more bits than a significand
  · have hunits : Int.log 2 v - 52 ≤ t := by
      have hs : (s : ℚ) < 2 ^ (53 : Int) := by exact_mod_cast hs
      have hless : v < 2 ^ (53 + t) := by
        rw [zpow_add₀ two_ne_zero, hv]
        exact mul_lt_mul_of_pos_right hs (two_zpow_pos t)
      have := (zpow_lt_zpow_iff_right₀ (one_lt_two (α := ℚ))).mp (lt_of_le_of_lt hbinade hless)
      omega
    obtain ⟨k, hk⟩ := Int.eq_ofNat_of_zero_le (sub_nonneg.mpr hunits)
    have hwhole : v / 2 ^ (Int.log 2 v - 52) = (s * 2 ^ k : Nat) := by
      have hsplit : (2 : ℚ) ^ t = 2 ^ (k : Int) * 2 ^ (Int.log 2 v - 52) := by
        rw [← zpow_add₀ two_ne_zero]
        congr 1
        omega
      rw [div_eq_iff hunit.ne']
      push_cast
      rw [mul_assoc, ← zpow_natCast, ← hsplit]
      exact hv
    have hsignificand := hexact (s * 2 ^ k) ⟨by rw [hwhole]; simp, fun h => by
      rw [hwhole] at h
      norm_num at h⟩
    show significand * 2 ^ (Int.log 2 v - 52) = v
    rw [hsignificand, ← hwhole, div_mul_cancel₀ _ hunit.ne']

end TruckDepot.Decimal
