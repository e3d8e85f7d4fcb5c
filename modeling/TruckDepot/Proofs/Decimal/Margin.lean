import TruckDepot.Proofs.Decimal.Interval
import TruckDepot.Proofs.Decimal.Shortest

/-!
# The shortest decimal keeps away from the ends

The shortest decimal of a float is in its interval.  On a grid that is finer than the floats it is
the multiple next to the float, and keeps a margin from the ends (`ReadingInterval.Shape.margin`);
on every other grid it is away from them as decimals are away from halves, if it is not one of them.
So what is as close to it as a reading by way of 64 bits is in the interval
(`reads_of_near_shortest`).
-/

namespace TruckDepot.Decimal

namespace ReadingInterval

variable {i : ReadingInterval} {f p : Int} {low high : Nat} {found : DecimalDigits}

/-! ### One grid -/

/-- The multiple of `10 ^ p` at or below the float. -/
def below (i : ReadingInterval) (p : Int) : Nat :=
  i.value * binaryFactor p i.exponent / gridFactor p i.exponent

theorem below_le (i : ReadingInterval) (p : Int) :
    (i.below p : ℚ) * 10 ^ p ≤ i.value * 2 ^ i.exponent :=
  grid_le_iff.mp (Nat.div_mul_le_self _ _)

theorem lt_below_add_one (i : ReadingInterval) (p : Int) :
    (i.value : ℚ) * 2 ^ i.exponent < (i.below p + 1) * 10 ^ p := by
  have h : ¬ (i.below p + 1) * gridFactor p i.exponent ≤ i.value * binaryFactor p i.exponent := by
    rw [← Nat.le_div_iff_mul_le (gridFactor_pos p _)]
    exact Nat.not_succ_le_self _
  rw [grid_le_iff, not_le] at h
  exact_mod_cast h

/-- What `onGrid?` finds reads back.  It is within half a step of the float, or the only one of the
multiples `below` and `below + 1` that does. -/
theorem onGrid?_spec (h : i.onGrid? p = some found) : found.power = p ∧
    i.holds p found.digits = true ∧
    (|(found.digits : ℚ) * 10 ^ p - i.value * 2 ^ i.exponent| ≤ 10 ^ p / 2 ∨
      (found.digits = i.below p ∧ i.holds p (i.below p + 1) = false) ∨
      (found.digits = i.below p + 1 ∧ i.holds p (i.below p) = false)) := by
  unfold onGrid? at h
  obtain ⟨digits, hdigits, rfl⟩ := Option.map_eq_some_iff.mp h
  refine ⟨rfl, ?_⟩
  dsimp only at hdigits ⊢
  split at hdigits
  -- both multiples read back, and the nearer one is found
  · rename_i hbelow habove
    obtain rfl := Option.some.inj hdigits
    refine ⟨?_, .inl ?_⟩
    · rcases roundDiv_eq_or (i.value * binaryFactor p i.exponent) (gridFactor p i.exponent) with
        hround | hround
      · rwa [hround]
      · rwa [hround]
    · have hgrid := gridFactor_pos p i.exponent
      have hround := abs_div_sub_roundDiv_le (i.value * binaryFactor p i.exponent) hgrid
      have hten := ten_zpow_pos p
      -- the float, in steps of the grid, is the quotient that is rounded
      have hvalue : (i.value : ℚ) * 2 ^ i.exponent =
          (i.value * binaryFactor p i.exponent : Nat) / (gridFactor p i.exponent : Nat) *
            10 ^ p := by
        have hpos : (0 : ℚ) < gridFactor p i.exponent := by exact_mod_cast hgrid
        have hpos' : (0 : ℚ) < binaryFactor p i.exponent := by
          exact_mod_cast binaryFactor_pos p i.exponent
        rw [ten_zpow_eq_gridFactor p i.exponent]
        push_cast
        field_simp
      rw [hvalue, ← sub_mul, abs_mul, abs_of_pos hten, abs_sub_comm]
      calc _ ≤ 1 / 2 * (10 : ℚ) ^ p := mul_le_mul_of_nonneg_right hround hten.le
        _ = 10 ^ p / 2 := by ring
  · rename_i hbelow habove
    obtain rfl := Option.some.inj hdigits
    exact ⟨hbelow, .inr (.inl ⟨rfl, habove⟩)⟩
  · rename_i hbelow habove
    obtain rfl := Option.some.inj hdigits
    exact ⟨habove, .inr (.inr ⟨rfl, hbelow⟩)⟩
  · cases hdigits

namespace Shape

variable (hshape : i.Shape f low high)

include hshape

theorem reads_of_lt {v : ℚ} (hlow : low * 2 ^ f < v) (hhigh : v < high * 2 ^ f) : i.Reads v :=
  ReadingInterval.reads_of_lt (by rwa [hshape.low_eq]) (by rwa [hshape.high_eq])

/-- A grid with steps below `2 ^ f`, the distance to the lower end, has a multiple that reads
back. -/
theorem onGrid?_ne_none (hfine : (10 : ℚ) ^ p < 2 ^ f) : i.onGrid? p ≠ none := by
  have hlt := i.lt_below_add_one p
  have hle := i.below_le p
  have htwo := two_zpow_pos f
  have hhigh : (low : ℚ) + 2 ≤ high := by exact_mod_cast hshape.add_two_le
  -- the multiple above the float is less than a step away from it
  have habove : i.holds p (i.below p + 1) = true := by
    rw [holds_iff]
    refine ⟨Nat.succ_ne_zero _, hshape.reads_of_lt ?_ ?_⟩
    · rw [hshape.value_eq] at hlt
      push_cast
      linarith
    · rw [hshape.value_eq] at hle
      push_cast
      have := mul_le_mul_of_nonneg_right hhigh htwo.le
      linarith
  unfold below at habove
  unfold onGrid?
  dsimp only
  rw [habove]
  cases i.holds p (i.value * binaryFactor p i.exponent / gridFactor p i.exponent) with
  | true => exact Option.some_ne_none _
  | false => exact Option.some_ne_none _

/-- On a fine grid what is found keeps a margin of `2 ^ f / 2 ^ 26` from both ends. -/
theorem margin (hfound : i.onGrid? p = some found)
    (hfine : (10 : ℚ) ^ p < 2 ^ (f + 1) * (1 - 1 / 2 ^ 26)) :
    low * 2 ^ f + 2 ^ f / 2 ^ 26 ≤ (found.digits : ℚ) * 10 ^ p ∧
      (found.digits : ℚ) * 10 ^ p + 2 ^ f / 2 ^ 26 ≤ high * 2 ^ f := by
  obtain ⟨-, hholds, hnear⟩ := onGrid?_spec hfound
  have hlt := i.lt_below_add_one p
  have hle := i.below_le p
  have htwo := two_zpow_pos f
  have hhigh : ((low : ℚ) + 2) * 2 ^ f ≤ high * 2 ^ f :=
    mul_le_mul_of_nonneg_right (by exact_mod_cast hshape.add_two_le) htwo.le
  rw [hshape.value_eq] at hlt hle hnear
  rw [zpow_add_one₀ two_ne_zero] at hfine
  -- a multiple beside the float that does not read back is beyond the end
  have hbeyond {n : Nat} (hn : n ≠ 0) (hfails : i.holds p n = false) :
      (n : ℚ) * 10 ^ p ≤ low * 2 ^ f ∨ high * 2 ^ f ≤ (n : ℚ) * 10 ^ p := by
    by_contra hinside
    rw [not_or, not_le, not_le] at hinside
    rw [holds_iff.mpr ⟨hn, hshape.reads_of_lt hinside.1 hinside.2⟩] at hfails
    cases hfails
  rcases hnear with hnear | ⟨hdigits, hfails⟩ | ⟨hdigits, hfails⟩
  -- the nearer multiple, then the only one, below the float and above it
  · rw [abs_le] at hnear
    constructor <;> linarith
  · rw [hdigits]
    rcases hbeyond (Nat.succ_ne_zero _) hfails with hlow | habove
    · push_cast at hlow
      linarith
    · push_cast at habove
      constructor <;> linarith
  · rw [hdigits]
    push_cast
    -- the float is at two units or more, farther from zero than a step
    have hzero : i.below p ≠ 0 := by
      intro hzero
      rw [hzero] at hlt
      have : (1 : ℚ) ≤ low := by exact_mod_cast hshape.low_pos
      have := mul_le_mul_of_nonneg_right this htwo.le
      push_cast at hlt
      linarith
    rcases hbeyond hzero hfails with hlow | habove
    · constructor <;> linarith
    · linarith

end Shape

/-! ### The first grid -/

/-- `coarsest` finds the first grid with a multiple that reads back: if the last one has one, it is
the first grid or the one before it has none. -/
theorem coarsest_spec (tries : Nat) (power : Int) (htries : 0 < tries)
    (hlast : i.onGrid? (power - tries + 1) ≠ none) :
    ∃ q, i.onGrid? q = some (i.coarsest tries power) ∧ power - tries < q ∧ q ≤ power ∧
      (q = power ∨ i.onGrid? (q + 1) = none) := by
  induction tries generalizing power with
  | zero => omega
  | succ tries ih =>
    unfold coarsest
    cases hgrid : i.onGrid? power with
    | some found => exact ⟨power, hgrid, by omega, le_rfl, .inl rfl⟩
    | none =>
      have hmore : 0 < tries := by
        refine Nat.pos_of_ne_zero fun hzero => hlast ?_
        rw [hzero, ← hgrid]
        congr 1
        omega
      rw [show power - ((tries + 1 : Nat) : Int) + 1 = power - 1 - tries + 1 by omega] at hlast
      obtain ⟨q, hq, hgreater, hle, hnext⟩ := ih (power - 1) hmore hlast
      refine ⟨q, hq, by omega, by omega, .inr ?_⟩
      rcases hnext with rfl | hnext
      · rwa [sub_add_cancel]
      · exact hnext

end ReadingInterval

open ReadingInterval

/-- The value of a decimal, `digits * 10 ^ power`. -/
def DecimalDigits.value (d : DecimalDigits) : ℚ :=
  d.digits * 10 ^ d.power

theorem exists_shape {x : Scaled} (hx : IsBinary32 x) (hpos : 0 < x.significand) :
    ∃ f low high, (ReadingInterval.of x).Shape f low high ∧
      (f = -108 → high = 22841339 → x = ⟨11420669, -107⟩) := by
  obtain ⟨hless, hleast, hmost, -⟩ := hx
  obtain ⟨m, e⟩ := x
  dsimp only at hless hleast hmost hpos
  by_cases hpower : m = 2 ^ 23 ∧ -149 < e
  · obtain ⟨rfl, he⟩ := hpower
    refine ⟨_, _, _, shape_of_power he hmost, fun _ hhigh => ?_⟩
    norm_num at hhigh
  · refine ⟨_, _, _, shape_of_not_power hpos hless hleast hmost hpower, fun hf hhigh => ?_⟩
    obtain rfl : e = -107 := by omega
    congr 1
    omega

/-- `shortest x` is found on a grid, reads back, and has no more than nine digits. -/
theorem shortest_spec {x : Scaled} {f : Int} {low high : Nat}
    (hshape : (ReadingInterval.of x).Shape f low high) :
    (ReadingInterval.of x).onGrid? (shortest x).power = some (shortest x) ∧
      -46 ≤ (shortest x).power ∧ (shortest x).power ≤ 39 ∧ (shortest x).digits ≠ 0 ∧
      (ReadingInterval.of x).Reads (shortest x).value ∧ (shortest x).digits < 2 ^ 29 := by
  have hlast : (10 : ℚ) ^ (-46 : Int) < 2 ^ f := by
    refine lt_of_lt_of_le ?_ (zpow_le_zpow_right₀ one_le_two hshape.least_le)
    norm_num
  obtain ⟨q, hfound, hgreater, hle, hnext⟩ :=
    coarsest_spec 86 39 (by norm_num) (hshape.onGrid?_ne_none hlast)
  change (ReadingInterval.of x).onGrid? q = some (shortest x) at hfound
  obtain ⟨hpower, hholds, -⟩ := onGrid?_spec hfound
  rw [← hpower] at hfound hgreater hle hnext hholds
  obtain ⟨hne, hreads⟩ := holds_iff.mp hholds
  refine ⟨hfound, by omega, hle, hne, hreads, ?_⟩
  -- the next grid is too coarse for the interval
  have hten := ten_zpow_pos (shortest x).power
  have hcoarse : (2 : ℚ) ^ f ≤ 10 * 10 ^ (shortest x).power := by
    rcases hnext with hfirst | hnext
    · rw [hfirst]
      refine le_trans (zpow_le_zpow_right₀ one_le_two hshape.le_most) ?_
      norm_num
    · have := mt hshape.onGrid?_ne_none (not_not.mpr hnext)
      rw [not_lt, zpow_add_one₀ (by norm_num)] at this
      linarith
  -- the decimal is no greater than the upper end, which is `high` such steps at most
  have htop := hreads.bounds.2
  rw [hshape.high_eq] at htop
  have hhigh : (high : ℚ) ≤ 2 ^ 25 + 2 := by exact_mod_cast hshape.high_le
  have hdigits : ((shortest x).digits : ℚ) * 10 ^ (shortest x).power ≤
      (2 ^ 25 + 2) * 10 * 10 ^ (shortest x).power := by
    calc _ ≤ (high : ℚ) * 2 ^ f := htop
      _ ≤ (2 ^ 25 + 2) * (10 * 10 ^ (shortest x).power) :=
        mul_le_mul hhigh hcoarse (two_zpow_pos f).le (by norm_num)
      _ = _ := by ring
  have hdigits := le_of_mul_le_mul_right hdigits hten
  have hless : ((shortest x).digits : ℚ) < 2 ^ 29 := lt_of_le_of_lt hdigits (by norm_num)
  exact_mod_cast hless

/-- What a reading by way of 64 bits may be off by, relative to what is read: below `slack`. -/
def tolerance : ℚ :=
  5 / 2 ^ 54

section

variable {x : Scaled} {f : Int} {low high : Nat} {v : ℚ}

/-- On a fine grid the `margin` is larger than the `tolerance`. -/
theorem reads_of_fine (hshape : (ReadingInterval.of x).Shape f low high)
    (hfine : (10 : ℚ) ^ (shortest x).power < 2 ^ (f + 1) * (1 - 1 / 2 ^ 26))
    (hv : |v - (shortest x).value| ≤ (shortest x).value * tolerance) :
    (ReadingInterval.of x).Reads v := by
  obtain ⟨hfound, -, -, -, hreads, -⟩ := shortest_spec hshape
  obtain ⟨hlow, hhigh⟩ := hshape.margin hfound hfine
  change _ ≤ (shortest x).value at hlow
  change (shortest x).value + _ ≤ _ at hhigh
  obtain ⟨hbelow, habove⟩ := abs_le.mp hv
  have herror : (shortest x).value * tolerance < 2 ^ f / 2 ^ 26 := by
    have htwo := two_zpow_pos f
    have htop : (high : ℚ) ≤ 2 ^ 25 + 2 := by exact_mod_cast hshape.high_le
    have hvalue := hreads.bounds.2
    rw [hshape.high_eq] at hvalue
    have hvalue := hvalue.trans (mul_le_mul_of_nonneg_right htop htwo.le)
    change (shortest x).value ≤ _ at hvalue
    unfold tolerance
    linarith
  apply hshape.reads_of_lt
  · linarith
  · linarith

/-- On a coarse grid the ends are `Apart` from the decimal, unless one of them is the decimal
itself. -/
theorem reads_of_coarse (hshape : (ReadingInterval.of x).Shape f low high)
    (hcoarse : (2 : ℚ) ^ (f + 1) * (1 - 1 / 2 ^ 26) ≤ 10 ^ (shortest x).power)
    (hv : |v - (shortest x).value| ≤ (shortest x).value * tolerance) :
    (ReadingInterval.of x).Reads v ∨
      (∃ n : Nat, n ≤ 2 ^ 25 + 2 ∧ (shortest x).value = n * 2 ^ f) ∨
      f = -108 ∧ high = 22841339 ∧ shortest x = ⟨7038531, -32⟩ := by
  obtain ⟨-, hleast, hmost, -, hreads, -⟩ := shortest_spec hshape
  obtain ⟨hlow, hhigh⟩ := hreads.bounds
  rw [hshape.low_eq] at hlow
  rw [hshape.high_eq] at hhigh
  have htwo := two_zpow_pos f
  have hlowpos := hshape.low_pos
  have hless := hshape.add_two_le
  have htop := hshape.high_le
  have hbottom : (0 : ℚ) < low * 2 ^ f := by
    have : (0 : ℚ) < low := by exact_mod_cast hlowpos
    positivity
  -- both ends are halves, and the decimal is on them or apart from them
  have hhalf {n : Nat} (hn : 0 < n) (hle : n ≤ 2 ^ 25 + 2) :=
    apart_of_le (x := (shortest x).digits) hleast hmost hn hle hcoarse
  rcases hhalf hlowpos (by omega) with hend | hlowapart | ⟨hpower, rfl, hdigits, rfl⟩
  · exact .inr (.inl ⟨low, by omega, hend⟩)
  · rcases hhalf (by omega : 0 < high) htop with hend | hhighapart | ⟨hpower, hf, hdigits, hhigh⟩
    · exact .inr (.inl ⟨high, htop, hend⟩)
    · left
      obtain ⟨hbelow, habove⟩ := abs_le.mp hv
      change Apart (shortest x).value _ at hlowapart hhighapart
      change _ ≤ (shortest x).value at hlow
      change (shortest x).value ≤ _ at hhigh
      generalize (shortest x).value = y at *
      unfold Apart slack at hlowapart hhighapart
      unfold tolerance at hbelow habove
      apply hshape.reads_of_lt
      · rcases hlowapart with hapart | hapart
        · linarith
        · linarith
      · rcases hhighapart with hapart | hapart
        · linarith
        · linarith
    · exact .inr (.inr ⟨hf, hhigh, by rw [← hpower, ← hdigits]⟩)
  -- that decimal is below the half, so it is not of the float above it
  · change _ ≤ ((shortest x).digits : ℚ) * 10 ^ (shortest x).power at hlow
    rw [hpower, hdigits] at hlow
    norm_num at hlow

end

/-- **What is within `tolerance` of `shortest x` reads back as `x`**, unless `shortest x` is half
way between two floats; one float is left out. -/
theorem reads_of_near_shortest {x : Scaled} (hx : IsBinary32 x) (hpos : 0 < x.significand) {v : ℚ}
    (hv : |v - (shortest x).value| ≤ (shortest x).value * tolerance) :
    (ReadingInterval.of x).Reads v ∨
      (∃ (n : Nat) (f : Int), n ≤ 2 ^ 25 + 2 ∧ (shortest x).value = n * 2 ^ f) ∨
      x = ⟨11420669, -107⟩ ∧ shortest x = ⟨7038531, -32⟩ := by
  obtain ⟨f, low, high, hshape, hexception⟩ := exists_shape hx hpos
  rcases lt_or_ge ((10 : ℚ) ^ (shortest x).power) (2 ^ (f + 1) * (1 - 1 / 2 ^ 26)) with
    hfine | hcoarse
  · exact .inl (reads_of_fine hshape hfine hv)
  · rcases reads_of_coarse hshape hcoarse hv with hreads | ⟨n, hn⟩ | ⟨hf, hhigh, hshortest⟩
    · exact .inl hreads
    · exact .inr (.inl ⟨n, f, hn⟩)
    · exact .inr (.inr ⟨hexception hf hhigh, hshortest⟩)

end TruckDepot.Decimal
