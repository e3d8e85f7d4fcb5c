import TruckDepot.Proofs.Decimal.Binary32
import TruckDepot.Proofs.Decimal.Halves

/-!
# The reals that read back as a float

The interval of a float reaches from half way to the float below it to half way to the one above.
In units of the distance to its lower end it has one of two shapes: the float is in the middle, or,
for a power of two, twice as far away from the upper end (`ReadingInterval.Shape`).  Every quotient
in the interval is rounded to the bits of the float (`Decimal.nearest?_of_reads`), though with a
carry where it is below a power of two.
-/

namespace TruckDepot.Decimal

namespace ReadingInterval

/-- The rational `v` reads back as the float: it is in the interval, with the ends if that is
`closed`. -/
def Reads (i : ReadingInterval) (v : ℚ) : Prop :=
  if i.closed then i.low * 2 ^ i.exponent ≤ v ∧ v ≤ i.high * 2 ^ i.exponent
  else i.low * 2 ^ i.exponent < v ∧ v < i.high * 2 ^ i.exponent

variable {i : ReadingInterval} {v : ℚ}

theorem reads_of_lt (hlow : i.low * 2 ^ i.exponent < v) (hhigh : v < i.high * 2 ^ i.exponent) :
    i.Reads v := by
  unfold Reads
  split
  · exact ⟨hlow.le, hhigh.le⟩
  · exact ⟨hlow, hhigh⟩

theorem Reads.bounds (h : i.Reads v) :
    i.low * 2 ^ i.exponent ≤ v ∧ v ≤ i.high * 2 ^ i.exponent := by
  unfold Reads at h
  split at h
  · exact h
  · exact ⟨h.1.le, h.2.le⟩

theorem Reads.closed (h : i.Reads v)
    (hend : v = i.low * 2 ^ i.exponent ∨ v = i.high * 2 ^ i.exponent) : i.closed = true := by
  unfold Reads at h
  split at h
  · assumption
  · rcases hend with rfl | rfl
    · exact absurd h.1 (lt_irrefl _)
    · exact absurd h.2 (lt_irrefl _)

theorem holds_iff {p : Int} {digits : Nat} :
    i.holds p digits = true ↔ digits ≠ 0 ∧ i.Reads (digits * 10 ^ p) := by
  unfold holds Reads
  cases i.closed with
  | true => simp [le_grid_iff, grid_le_iff]
  | false => simp [← not_le, le_grid_iff, grid_le_iff]

/-- The ends `low` and `high` of an interval and the float in it, `low + 1`, in units of `2 ^ f`,
the distance to its lower end. -/
structure Shape (i : ReadingInterval) (f : Int) (low high : Nat) : Prop where
  low_pos : 0 < low
  add_two_le : low + 2 ≤ high
  high_le : high ≤ 2 ^ 25 + 2
  least_le : -151 ≤ f
  le_most : f ≤ 103
  low_eq : (i.low : ℚ) * 2 ^ i.exponent = low * 2 ^ f
  value_eq : (i.value : ℚ) * 2 ^ i.exponent = (low + 1) * 2 ^ f
  high_eq : (i.high : ℚ) * 2 ^ i.exponent = high * 2 ^ f

theorem two_mul_zpow (e : Int) : (2 : ℚ) * 2 ^ (e - 1) = 2 ^ e := by
  rw [← zpow_one_add₀ two_ne_zero]
  congr 1
  ring

/-- The power of two `2 ^ 23 * 2 ^ e` is twice as far from its upper end as from its lower one. -/
theorem shape_of_power {e : Int} (hleast : -149 < e) (hmost : e ≤ 104) :
    (of ⟨2 ^ 23, e⟩).Shape (e - 2) (2 ^ 25 - 1) (2 ^ 25 + 2) := by
  refine ⟨by norm_num, by norm_num, le_rfl, by omega, by omega, ?_, ?_, ?_⟩
  · simp only [of, twoTo_23]
    norm_num [hleast]
  · simp only [of, twoTo_23]
    norm_num
  · simp only [of, twoTo_23]
    norm_num

/-- Every other float is in the middle of its interval. -/
theorem shape_of_not_power {m : Nat} {e : Int} (hpos : 0 < m) (hless : m < 2 ^ 24)
    (hleast : -149 ≤ e) (hmost : e ≤ 104) (hpower : ¬ (m = 2 ^ 23 ∧ -149 < e)) :
    (of ⟨m, e⟩).Shape (e - 1) (2 * m - 1) (2 * m + 1) := by
  -- the interval counts in quarters of `2 ^ e`, the shape in halves
  have hhalf := two_mul_zpow (e - 1)
  rw [show e - 1 - 1 = e - 2 by ring] at hhalf
  have hlow : ((4 * m - 2 : Nat) : ℚ) = 2 * (2 * m - 1 : Nat) := by
    rw [show 4 * m - 2 = 2 * (2 * m - 1) by omega]
    push_cast
    ring
  have hone : ((2 * m - 1 : Nat) : ℚ) + 1 = 2 * m := by
    exact_mod_cast (by omega : 2 * m - 1 + 1 = 2 * m)
  have hpower : ¬ (m = twoTo 23 ∧ -149 < e) := hpower
  refine ⟨by omega, by omega, by omega, by omega, by omega, ?_, ?_, ?_⟩
  · simp only [of]
    rw [if_neg hpower, hlow, ← hhalf]
    ring
  · simp only [of]
    rw [hone, ← hhalf]
    push_cast
    ring
  · simp only [of]
    rw [← hhalf]
    push_cast
    ring

end ReadingInterval

/-! ### Rounding back -/

open ReadingInterval

section

variable {v : ℚ} {num den : Nat}

theorem exponentAt_eq {e : Int} (hleast : -149 ≤ e) (hlow : e = -149 ∨ (2 : ℚ) ^ (e + 23) ≤ v)
    (hpos : 0 < v) (hhigh : v < 2 ^ (e + 24)) : binary32.exponentAt v = e := by
  have hle := (zpow_lt_zpow_iff_right₀ (one_lt_two (α := ℚ))).mp
    (lt_of_le_of_lt (zpow_log_le hpos) hhigh)
  unfold BinaryFormat.exponentAt
  simp only [binary32]
  push_cast
  rcases hlow with rfl | hlow
  · omega
  · have hge := (zpow_lt_zpow_iff_right₀ (one_lt_two (α := ℚ))).mp
      (lt_of_le_of_lt hlow (lt_zpow_log_add_one v))
    omega

theorem nearest?_binary32 (hnum : 0 < num) (hden : 0 < den) {m : Nat} {e : Int}
    (hexponent : binary32.exponentAt ((num : ℚ) / den) = e) (htop : (m.log2 : Int) + e < 128)
    (hm : IsNearest ((num : ℚ) / den / 2 ^ e) m) : binary32.nearest? num den = some ⟨m, e⟩ := by
  obtain ⟨significand, -, -, hexact, hnearest⟩ :=
    BinaryFormat.nearest?_eq (f := binary32) hnum hden
  rw [hexponent] at hexact hnearest
  rw [hnearest, hexact m hm, if_neg (by show ¬ (128 : Int) ≤ _; omega)]

theorem isNearest_of_bounds {m : Nat} {e : Int} (hlow : (2 * m - 1 : ℚ) * 2 ^ (e - 1) ≤ v)
    (hhigh : v ≤ (2 * m + 1 : ℚ) * 2 ^ (e - 1))
    (heven : v = (2 * m - 1 : ℚ) * 2 ^ (e - 1) ∨ v = (2 * m + 1 : ℚ) * 2 ^ (e - 1) → m % 2 = 0) :
    IsNearest (v / 2 ^ e) m := by
  have ht := two_zpow_pos (e - 1)
  rw [← two_mul_zpow e]
  obtain ⟨q, rfl⟩ : ∃ q, v = q * (2 * 2 ^ (e - 1)) :=
    ⟨v / (2 * 2 ^ (e - 1)), (div_mul_cancel₀ _ (by positivity)).symm⟩
  rw [mul_div_assoc, div_self (by positivity), mul_one]
  generalize (2 : ℚ) ^ (e - 1) = t at *
  rw [← mul_assoc] at hlow hhigh heven
  rw [mul_le_mul_iff_of_pos_right ht] at hlow hhigh
  refine ⟨abs_le.mpr ⟨by linarith, by linarith⟩, fun hhalf => heven ?_⟩
  rcases (abs_eq (by norm_num)).mp hhalf with habove | hbelow
  · right
    rw [show q * 2 = 2 * m + 1 by linarith]
  · left
    rw [show q * 2 = 2 * m - 1 by linarith]

theorem num_pos_of_div_pos (h : 0 < (num : ℚ) / den) : 0 < num := by
  refine Nat.pos_of_ne_zero fun hzero => ?_
  rw [hzero, Nat.cast_zero, zero_div] at h
  exact absurd h (lt_irrefl _)

/-- A power of two in units of half a last place, `2 ^ (e - 1)`. -/
theorem two_zpow_add_eq_half (e k : Int) : (2 : ℚ) ^ (e + k) = 2 ^ (k + 1) * 2 ^ (e - 1) := by
  rw [← zpow_add₀ two_ne_zero]
  congr 1
  ring

/-- What reads back as the power of two `2 ^ 23 * 2 ^ e` may be in the binade below it, where its
significand is carried over to `2 ^ 24`. -/
theorem nearest?_of_reads_power {e : Int} (hleast : -149 < e) (hmost : e ≤ 104) (hden : 0 < den)
    (h : (ReadingInterval.of ⟨2 ^ 23, e⟩).Reads ((num : ℚ) / den)) :
    binary32.nearest? num den = some ⟨2 ^ 24, e - 1⟩ ∨
      binary32.nearest? num den = some ⟨2 ^ 23, e⟩ := by
  have hshape := shape_of_power hleast hmost
  obtain ⟨hlow, hhigh⟩ := h.bounds
  rw [hshape.low_eq] at hlow
  rw [hshape.high_eq] at hhigh
  have hhalf := two_mul_zpow (e - 1)
  have hs := two_zpow_pos (e - 1 - 1)
  -- the ends in halves of `2 ^ (e - 1)`, the last place of the binade below
  rw [show e - 2 = e - 1 - 1 by ring] at hlow hhigh
  norm_num at hlow hhigh
  generalize hv : (num : ℚ) / den = v at *
  have hvpos : 0 < v := lt_of_lt_of_le (by positivity) hlow
  have hnum : 0 < num := num_pos_of_div_pos (hv ▸ hvpos)
  rcases lt_or_ge v (2 ^ (e + 23)) with hbelow | habove
  -- below the power of two: the last place is `2 ^ (e - 1)`
  · left
    rw [two_zpow_add_eq_half] at hbelow
    norm_num at hbelow
    apply nearest?_binary32 hnum hden
    -- the exponent, from both bounds of the binade
    · rw [hv]
      refine exponentAt_eq (by omega) (.inr ?_) hvpos ?_
      · rw [show e - 1 + 23 = e + 22 by ring, two_zpow_add_eq_half]
        norm_num
        linarith
      · rw [show e - 1 + 24 = e + 23 by ring, two_zpow_add_eq_half]
        norm_num
        linarith
    -- the top of the format is not reached
    · rw [Nat.log2_two_pow]
      push_cast
      omega
    -- `v` is no more than half a last place below `2 ^ 24`, which is even
    · rw [hv]
      apply isNearest_of_bounds
      · norm_num
        linarith
      · norm_num
        linarith
      · intro
        norm_num
  -- from the power of two on: the last place is `2 ^ e`
  · right
    apply nearest?_binary32 hnum hden
    · rw [hv]
      refine exponentAt_eq hleast.le (.inr habove) hvpos ?_
      rw [two_zpow_add_eq_half]
      norm_num
      linarith
    · rw [Nat.log2_two_pow]
      push_cast
      omega
    -- `v` is between the power and half a last place above it, which is even
    · rw [two_zpow_add_eq_half] at habove
      norm_num at habove
      rw [hv]
      apply isNearest_of_bounds
      · norm_num
        linarith
      · norm_num
        linarith
      · intro
        norm_num

theorem nearest?_of_reads_not_power {m : Nat} {e : Int} (hpos : 0 < m) (hless : m < 2 ^ 24)
    (hleast : -149 ≤ e) (hmost : e ≤ 104) (hfull : -149 < e → 2 ^ 23 < m) (hden : 0 < den)
    (h : (ReadingInterval.of ⟨m, e⟩).Reads ((num : ℚ) / den)) :
    binary32.nearest? num den = some ⟨m, e⟩ := by
  have hshape := shape_of_not_power hpos hless hleast hmost (by omega)
  have hlog : m.log2 < 24 := (Nat.log2_lt hpos.ne').mpr hless
  have ht := two_zpow_pos (e - 1)
  have hone : (1 : ℚ) ≤ m := by exact_mod_cast hpos
  -- the ends are half a last place, `2 ^ (e - 1)`, away from `m`
  have hm : ((2 * m - 1 : Nat) : ℚ) = 2 * m - 1 := by
    rw [eq_sub_iff_add_eq]
    exact_mod_cast (by omega : 2 * m - 1 + 1 = 2 * m)
  obtain ⟨hlow, hhigh⟩ := h.bounds
  have hclosed := h.closed
  rw [hshape.low_eq, hm] at hlow hclosed
  rw [hshape.high_eq] at hhigh hclosed
  push_cast at hhigh hclosed
  generalize hv : (num : ℚ) / den = v at *
  have hvpos : 0 < v := lt_of_lt_of_le (mul_pos (by linarith) ht) hlow
  apply nearest?_binary32 (num_pos_of_div_pos (hv ▸ hvpos)) hden
  -- `v` stays in the binade of the float, for `m` is not at either end of it
  · rw [hv]
    refine exponentAt_eq hleast ?_ hvpos ?_
    · by_cases he : e = -149
      · exact .inl he
      · have hfull : (2 ^ 23 + 1 : ℚ) ≤ m := by exact_mod_cast hfull (by omega)
        right
        rw [two_zpow_add_eq_half]
        refine le_trans (mul_le_mul_of_nonneg_right ?_ ht.le) hlow
        norm_num
        linarith
    · have hless : (m : ℚ) + 1 ≤ 2 ^ 24 := by exact_mod_cast hless
      rw [two_zpow_add_eq_half]
      refine lt_of_le_of_lt hhigh (mul_lt_mul_of_pos_right ?_ ht)
      norm_num
      linarith
  · omega
  · rw [hv]
    -- at an end of the interval `m` is even
    refine isNearest_of_bounds hlow hhigh fun hend => ?_
    have := hclosed hend
    simpa [ReadingInterval.of] using this

/-- What `Reads` back as `x` is rounded to `x.bits`. -/
theorem nearest?_of_reads {x : Scaled} (hx : IsBinary32 x) (hpos : 0 < x.significand)
    (hden : 0 < den) (h : (ReadingInterval.of x).Reads ((num : ℚ) / den)) :
    ∃ y, binary32.nearest? num den = some y ∧ y.bits = x.bits := by
  obtain ⟨hless, hleast, hmost, hfull⟩ := hx
  obtain ⟨m, e⟩ := x
  dsimp only at hless hleast hmost hfull hpos
  by_cases hpower : m = 2 ^ 23 ∧ -149 < e
  · obtain ⟨rfl, he⟩ := hpower
    rcases nearest?_of_reads_power he hmost hden h with hcarry | hsame
    · refine ⟨_, hcarry, ?_⟩
      simp only [Scaled.bits, twoTo_23]
      omega
    · exact ⟨_, hsame, rfl⟩
  · exact ⟨_, nearest?_of_reads_not_power hpos hless hleast hmost (by omega) hden h, rfl⟩

end

end TruckDepot.Decimal
