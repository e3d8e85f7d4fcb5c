import TruckDepot.Proofs.Decimal.Margin

/-!
# Reading a decimal by way of 64 bits

A numeral whose digits fit 53 bits is read exactly but for two roundings: of the power of ten and of
the product or quotient with it.  So it comes out within `tolerance` of its value
(`Numeral.scaled?_near`), and as its value where the power of ten is small and 53 bits are enough
for the result.
-/

namespace TruckDepot.Decimal

/-- The value of a numeral without its sign, `significant * 10 ^ power`. -/
def Numeral.value (n : Numeral) : ℚ :=
  n.significant * 10 ^ n.power

/-! ### Leading digits -/

namespace Numeral

theorem le_foldl (digits : List Nat) (word : Nat) :
    word ≤ digits.foldl (fun n d => 10 * n + d) word := by
  induction digits generalizing word with
  | nil => exact le_rfl
  | cons d digits ih =>
    refine le_trans ?_ (ih (10 * word + d))
    omega

/-- Digits that together fit `largestWord` are all taken. -/
theorem foldl_addWhole (digits : List Nat) (word : Nat) (shift : Int)
    (h : digits.foldl (fun n d => 10 * n + d) word ≤ largestWord) :
    digits.foldl Leading.addWhole ⟨word, shift, false⟩ =
      ⟨digits.foldl (fun n d => 10 * n + d) word, shift, false⟩ := by
  induction digits generalizing word with
  | nil => rfl
  | cons d digits ih =>
    have hfits := (le_foldl digits (10 * word + d)).trans h
    have hstep : Leading.addWhole ⟨word, shift, false⟩ d = ⟨10 * word + d, shift, false⟩ := by
      unfold Leading.addWhole
      simp only [Bool.false_or]
      rw [Nat.mul_comm word 10, decide_eq_false (Nat.not_lt.mpr hfits)]
      rfl
    rw [List.foldl_cons, hstep]
    exact ih _ h

theorem foldl_addFraction (digits : List Nat) (word : Nat) (shift : Int)
    (h : digits.foldl (fun n d => 10 * n + d) word ≤ largestWord) :
    digits.foldl Leading.addFraction ⟨word, shift, false⟩ =
      ⟨digits.foldl (fun n d => 10 * n + d) word, shift - digits.length, false⟩ := by
  induction digits generalizing word shift with
  | nil => simp
  | cons d digits ih =>
    have hfits := (le_foldl digits (10 * word + d)).trans h
    have hstep : Leading.addFraction ⟨word, shift, false⟩ d =
        ⟨10 * word + d, shift - 1, false⟩ := by
      unfold Leading.addFraction
      simp only [Bool.false_or]
      rw [Nat.mul_comm word 10, decide_eq_false (Nat.not_lt.mpr hfits)]
      rfl
    rw [List.foldl_cons, hstep, ih _ _ h, List.foldl_cons, List.length_cons]
    congr 1
    push_cast
    ring

theorem leading_eq {n : Numeral} (h : n.significant ≤ largestWord) :
    n.leading = ⟨n.significant, -(n.fraction.getD []).length, false⟩ := by
  have hsplit : n.significant = (n.fraction.getD []).foldl (fun n d => 10 * n + d)
      (n.whole.foldl (fun n d => 10 * n + d) 0) := by
    unfold significant digitsValue
    rw [List.foldl_append]
  rw [hsplit] at h ⊢
  unfold leading
  rw [foldl_addWhole _ _ _ ((le_foldl _ _).trans h)]
  dsimp only
  rw [foldl_addFraction _ _ _ h, zero_sub]

end Numeral

/-! ### Scaling -/

namespace Numeral

/-- Relative errors `r` and `s` of two steps come to `r + s * (1 + r)`. -/
theorem abs_sub_le_of_relative {a b c r s : ℚ} (hfirst : |a - b| ≤ a * r)
    (hsecond : |b - c| ≤ b * s) (hs : 0 ≤ s) : |a - c| ≤ a * (r + s * (1 + r)) := by
  have hb : b ≤ a * (1 + r) := by
    have := (abs_le.mp hfirst).1
    linarith
  calc |a - c| ≤ |a - b| + |b - c| := abs_sub_le a b c
    _ ≤ a * r + b * s := add_le_add hfirst hsecond
    _ ≤ a * r + a * (1 + r) * s := add_le_add_right (mul_le_mul_of_nonneg_right hb hs) _
    _ = a * (r + s * (1 + r)) := by ring

/-- A 64-bit number `t` in the place of the power of ten `ten`, relatively `2 ^ -53` away at
most. -/
structure NearPower (t : Scaled) (ten : ℚ) : Prop where
  one_le : 1 ≤ ten
  le_most : ten ≤ 10 ^ 46
  near : |ten - t.value| ≤ ten * (1 / 2 ^ 53)

theorem powerOfTen_near {n : Nat} (hn : n ≤ 46) :
    ∃ t, powerOfTen n = some t ∧ NearPower t (10 ^ n) ∧ (n ≤ 22 → t.value = 10 ^ n) := by
  have hcast : ((tenTo n : Nat) : ℚ) / ((1 : Nat) : ℚ) = 10 ^ n := by
    rw [cast_tenTo, Nat.cast_one, div_one]
  have hone : (1 : ℚ) ≤ 10 ^ n := one_le_pow₀ (by norm_num)
  have hmost : (10 : ℚ) ^ n ≤ 10 ^ 46 := pow_le_pow_right₀ (by norm_num) hn
  have hlow : (2 : ℚ) ^ (-250 : Int) ≤ ((tenTo n : Nat) : ℚ) / ((1 : Nat) : ℚ) := by
    rw [hcast]
    exact le_trans (zpow_le_one_of_nonpos₀ one_le_two (by norm_num)) hone
  have hhigh : ((tenTo n : Nat) : ℚ) / ((1 : Nat) : ℚ) < 2 ^ (250 : Int) := by
    rw [hcast]
    refine lt_of_le_of_lt hmost ?_
    norm_num
  obtain ⟨t, ht, hnear, hexact⟩ := nearest?_binary64 Nat.one_pos hlow hhigh
  rw [hcast] at hnear hexact
  refine ⟨t, ht, ⟨hone, hmost, hnear⟩, fun hsmall => hexact (5 ^ n) n ?_ ?_⟩
  -- `10 ^ n` is `5 ^ n` in units of `2 ^ n`, and `5 ^ 22` has 53 bits at most
  · exact lt_of_le_of_lt (Nat.pow_le_pow_right (by norm_num) hsmall) (by norm_num)
  · push_cast
    rw [zpow_natCast, ← mul_pow]
    norm_num

section

variable {x y : Scaled}

theorem product_near (hlow : (2 : ℚ) ^ (-250 : Int) ≤ x.value * y.value)
    (hhigh : x.value * y.value < 2 ^ (250 : Int)) :
    ∃ z, product x y = some z ∧
      |x.value * y.value - z.value| ≤ x.value * y.value * (1 / 2 ^ 53) ∧
      ∀ (s : Nat) (f : Int), s < 2 ^ 53 → x.value * y.value = s * 2 ^ f →
        z.value = x.value * y.value := by
  have hratio : ((x.num * y.num : Nat) : ℚ) / (x.den * y.den : Nat) = x.value * y.value := by
    rw [← x.num_div_den, ← y.num_div_den]
    push_cast
    rw [div_mul_div_comm]
  rw [← hratio] at hlow hhigh ⊢
  exact nearest?_binary64 (Nat.mul_pos x.den_pos y.den_pos) hlow hhigh

theorem quotient_near (hy : 0 < y.num) (hlow : (2 : ℚ) ^ (-250 : Int) ≤ x.value / y.value)
    (hhigh : x.value / y.value < 2 ^ (250 : Int)) :
    ∃ z, quotient x y = some z ∧
      |x.value / y.value - z.value| ≤ x.value / y.value * (1 / 2 ^ 53) ∧
      ∀ (s : Nat) (f : Int), s < 2 ^ 53 → x.value / y.value = s * 2 ^ f →
        z.value = x.value / y.value := by
  have hratio : ((x.num * y.den : Nat) : ℚ) / (x.den * y.num : Nat) = x.value / y.value := by
    rw [← x.num_div_den, ← y.num_div_den]
    push_cast
    rw [div_div_div_eq]
  rw [← hratio] at hlow hhigh ⊢
  exact nearest?_binary64 (Nat.mul_pos x.den_pos hy) hlow hhigh

end

theorem nearest?_word {w : Nat} (hpos : 0 < w) (hw : w < 2 ^ 53) :
    ∃ word, binary64.nearest? w 1 = some word ∧ word.value = w := by
  have hwpos : (1 : ℚ) ≤ w := by exact_mod_cast hpos
  have hwless : (w : ℚ) < 2 ^ 53 := by exact_mod_cast hw
  have hcast : (w : ℚ) / ((1 : Nat) : ℚ) = w := by rw [Nat.cast_one, div_one]
  have hlow : (2 : ℚ) ^ (-250 : Int) ≤ w / ((1 : Nat) : ℚ) := by
    rw [hcast]
    exact le_trans (zpow_le_one_of_nonpos₀ one_le_two (by norm_num)) hwpos
  have hhigh : (w : ℚ) / ((1 : Nat) : ℚ) < 2 ^ (250 : Int) := by
    rw [hcast]
    refine lt_trans hwless ?_
    norm_num
  obtain ⟨word, hword, -, hexact⟩ := nearest?_binary64 Nat.one_pos hlow hhigh
  refine ⟨word, hword, ?_⟩
  rw [hexact w 0 hw (by simp), hcast]

section

variable {word t : Scaled} {w : Nat} {ten : ℚ}

theorem NearPower.bounds (h : NearPower t ten) : 1 / 2 ≤ t.value ∧ t.value < 2 ^ 160 := by
  obtain ⟨hone, hmost, hnear⟩ := h
  obtain ⟨hlow, hhigh⟩ := abs_le.mp hnear
  constructor
  · linarith
  · have : (10 : ℚ) ^ 46 * 2 < 2 ^ 160 := by norm_num
    linarith

variable (ht : NearPower t ten) (hvalue : word.value = w) (hpos : 0 < w) (hw : w < 2 ^ 53)

include ht hvalue hpos hw

/-- `product` of a word of 53 bits and a power of ten is within `tolerance`. -/
theorem product_power_near :
    ∃ z, product word t = some z ∧ |z.value - w * ten| ≤ w * ten * tolerance ∧
      (t.value = ten → ∀ (s : Nat) (f : Int), s < 2 ^ 53 → (w : ℚ) * ten = s * 2 ^ f →
        z.value = w * ten) := by
  obtain ⟨htpos, htless⟩ := ht.bounds
  obtain ⟨hone, -, hnear⟩ := ht
  have hwpos : (1 : ℚ) ≤ w := by exact_mod_cast hpos
  have hwless : (w : ℚ) < 2 ^ 53 := by exact_mod_cast hw
  -- the product is in the middle of the 64-bit range
  have hlow : (2 : ℚ) ^ (-250 : Int) ≤ word.value * t.value := by
    rw [hvalue]
    refine le_trans ?_ (mul_le_mul hwpos htpos (by norm_num) (by linarith))
    norm_num
  have hhigh : word.value * t.value < 2 ^ (250 : Int) := by
    rw [hvalue]
    refine lt_trans (mul_lt_mul'' hwless htless (by linarith) (by linarith)) ?_
    norm_num
  obtain ⟨z, hz, hround, hexact⟩ := product_near hlow hhigh
  rw [hvalue] at hround hexact
  refine ⟨z, hz, ?_, fun hten s f hs heq => ?_⟩
  -- the error of the power, then that of the product
  · have hfirst : |w * ten - w * t.value| ≤ w * ten * (1 / 2 ^ 53) := by
      rw [← mul_sub, abs_mul, abs_of_pos (by linarith), mul_assoc]
      exact mul_le_mul_of_nonneg_left hnear (by linarith)
    rw [abs_sub_comm]
    refine (abs_sub_le_of_relative hfirst hround (by norm_num)).trans ?_
    refine mul_le_mul_of_nonneg_left ?_ (mul_nonneg (by linarith) (by linarith))
    unfold tolerance
    norm_num
  · rw [hexact s f hs (by rw [hten, heq]), hten]

/-- `quotient` by a power of ten is within `tolerance` as well. -/
theorem quotient_power_near :
    ∃ z, quotient word t = some z ∧ |z.value - w / ten| ≤ w / ten * tolerance ∧
      (t.value = ten → ∀ (s : Nat) (f : Int), s < 2 ^ 53 → (w : ℚ) / ten = s * 2 ^ f →
        z.value = w / ten) := by
  obtain ⟨htlow, htless⟩ := ht.bounds
  obtain ⟨hone, -, hnear⟩ := ht
  have hwpos : (1 : ℚ) ≤ w := by exact_mod_cast hpos
  have hwless : (w : ℚ) < 2 ^ 53 := by exact_mod_cast hw
  have htpos : 0 < t.value := by linarith
  have hlow : (2 : ℚ) ^ (-250 : Int) ≤ word.value / t.value := by
    rw [hvalue, le_div_iff₀ htpos]
    refine le_trans (mul_le_mul_of_nonneg_left htless.le (two_zpow_pos _).le) (le_trans ?_ hwpos)
    norm_num
  have hhigh : word.value / t.value < 2 ^ (250 : Int) := by
    rw [hvalue, div_lt_iff₀ htpos]
    refine lt_of_lt_of_le (hwless.trans_le ?_)
      (mul_le_mul_of_nonneg_left htlow (two_zpow_pos _).le)
    norm_num
  have htnum : 0 < t.num := by
    refine Nat.pos_of_ne_zero fun hzero => ?_
    rw [← t.num_div_den, hzero] at htpos
    simp at htpos
  obtain ⟨z, hz, hround, hexact⟩ := quotient_near htnum hlow hhigh
  rw [hvalue] at hround hexact
  refine ⟨z, hz, ?_, fun hten s f hs heq => ?_⟩
  -- dividing by what is a little off is as far off, and a little more
  · have hratio : |1 - ten / t.value| ≤ 1 / 2 ^ 53 * (1 + 2 / 2 ^ 53) := by
      obtain ⟨hbelow, habove⟩ := abs_le.mp hnear
      rw [abs_le]
      constructor
      · rw [neg_le_sub_iff_le_add, div_le_iff₀ htpos]
        norm_num at hbelow ⊢
        linarith
      · rw [sub_le_comm, le_div_iff₀ htpos]
        norm_num at habove ⊢
        linarith
    have hquotient : (0 : ℚ) ≤ w / ten := div_nonneg (by linarith) (by linarith)
    have hfirst : |w / ten - w / t.value| ≤ w / ten * (1 / 2 ^ 53 * (1 + 2 / 2 ^ 53)) := by
      have hsplit : (w : ℚ) / t.value = w / ten * (ten / t.value) := by
        rw [div_mul_div_cancel₀ (by linarith)]
      rw [hsplit, ← mul_one_sub, abs_mul, abs_of_nonneg hquotient]
      exact mul_le_mul_of_nonneg_left hratio hquotient
    rw [abs_sub_comm]
    refine (abs_sub_le_of_relative hfirst hround (by norm_num)).trans ?_
    refine mul_le_mul_of_nonneg_left ?_ hquotient
    unfold tolerance
    norm_num
  · rw [hexact s f hs (by rw [hten, heq]), hten]

end

/-- `scale` of a word of 53 bits is within `tolerance`, and exact if the power is small and 53 bits
are enough. -/
theorem scale_near {word : Scaled} {w : Nat} (hvalue : word.value = w) (hpos : 0 < w)
    (hw : w < 2 ^ 53) {q : Int} (hq : q.natAbs ≤ 46) :
    ∃ y, scale word q = some y ∧ |y.value - w * 10 ^ q| ≤ w * 10 ^ q * tolerance ∧
      (q.natAbs ≤ 22 → ∀ (s : Nat) (f : Int), s < 2 ^ 53 → (w : ℚ) * 10 ^ q = s * 2 ^ f →
        y.value = w * 10 ^ q) := by
  have hne : word.significand ≠ 0 := by
    intro hzero
    unfold Scaled.value at hvalue
    rw [hzero, Nat.cast_zero, zero_mul] at hvalue
    exact hpos.ne (by exact_mod_cast hvalue)
  obtain ⟨t, ht, hnear, hsmall⟩ := powerOfTen_near hq
  unfold scale
  rw [if_neg hne, if_neg (by omega)]
  -- multiplied by the power of ten for a whole `q`, divided by it for a negative one
  rcases le_or_gt 0 q with hsign | hsign
  · have hpow : (10 : ℚ) ^ q = 10 ^ q.natAbs := by
      rw [← zpow_natCast]
      congr 1
      omega
    obtain ⟨z, hz, herror, hexact⟩ := product_power_near hnear hvalue hpos hw
    rw [if_pos hsign, show q.toNat = q.natAbs by omega, ht, hpow]
    exact ⟨z, hz, herror, fun hle => hexact (hsmall hle)⟩
  · have hpow : (10 : ℚ) ^ q = (10 ^ q.natAbs)⁻¹ := by
      rw [← zpow_natCast, ← zpow_neg]
      congr 1
      omega
    obtain ⟨z, hz, herror, hexact⟩ := quotient_power_near hnear hvalue hpos hw
    rw [if_neg (by omega), if_pos (by omega), show (-q).toNat = q.natAbs by omega, ht, hpow,
      ← div_eq_mul_inv]
    exact ⟨z, hz, herror, fun hle => hexact (hsmall hle)⟩

/-- A numeral of 53 bits of digits is scaled as one word. -/
theorem scaled?_eq {n : Numeral} (h : n.significant < 2 ^ 53) : n.scaled? =
    ((binary64.nearest? n.significant 1).bind fun word => scale word n.power).map
      (Binary.finite n.negative) := by
  have hword : 2 ^ 53 ≤ largestWord := by decide
  unfold scaled?
  rw [leading_eq (by omega)]
  dsimp only
  rw [show -((n.fraction.getD []).length : Int) + n.exponent.getD 0 = n.power by
    unfold power
    ring]
  cases binary64.nearest? n.significant 1 with
  | none => rfl
  | some word =>
    cases hscale : scale word n.power with
    | none => simp [hscale]
    | some y => simp [hscale]

/-- `scaled?` reads a numeral of 53 bits within `tolerance`, and exactly if its power of ten is
small and 53 bits are enough for it. -/
theorem scaled?_near {n : Numeral} (hpos : 0 < n.significant) (hless : n.significant < 2 ^ 53)
    (hpower : n.power.natAbs ≤ 46) :
    ∃ y, n.scaled? = some (.finite n.negative y) ∧ |y.value - n.value| ≤ n.value * tolerance ∧
      (n.power.natAbs ≤ 22 → ∀ (s : Nat) (f : Int), s < 2 ^ 53 → n.value = s * 2 ^ f →
        y.value = n.value) := by
  obtain ⟨word, hword, hvalue⟩ := nearest?_word hpos hless
  obtain ⟨y, hscale, hnear, hexact⟩ := scale_near hvalue hpos hless hpower
  refine ⟨y, ?_, hnear, hexact⟩
  rw [scaled?_eq hless, hword, Option.bind_some, hscale]
  rfl

end Numeral

end TruckDepot.Decimal
