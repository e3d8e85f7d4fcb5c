import TruckDepot.Proofs.Decimal.Reading

/-!
# A float is read back from its text

The shortest decimal of a finite float, set by a layout that writes out no more than fourteen digits
before the point, is read by way of 64 bits as the float itself
(`Decimal.DecimalLayout.toFloat32?_text?`).  What the reading comes to is so close to the decimal
that it is in the interval of the float (`Decimal.reads_of_near_shortest`).  A decimal that is half
way between two floats is an exception, but has so small a power of ten that it is read exactly
(`Decimal.natAbs_power_le`); the last one is a single float, which is looked at by itself.
-/

namespace TruckDepot.Decimal

open ReadingInterval

/-- A decimal of few digits that is a number `n * 2 ^ f` of few bits has a power of ten from `-12`
to `12`. -/
theorem natAbs_power_le {p f : Int} {digits n : Nat} (hdigits : digits ≠ 0)
    (hless : digits < 2 ^ 29) (hn : n ≤ 2 ^ 25 + 2) (h : (digits : ℚ) * 10 ^ p = n * 2 ^ f) :
    p.natAbs ≤ 12 := by
  -- as an equation of whole numbers, with each power on the side where it is one
  have hwhole : digits * 5 ^ p.toNat * 2 ^ (p - f).toNat =
      n * 5 ^ (-p).toNat * 2 ^ (-(p - f)).toNat := by
    have hsplit := pow_toNat_div (b := 2) two_ne_zero (p - f)
    rw [zpow_sub₀ two_ne_zero, div_eq_div_iff (by positivity) (by positivity)] at hsplit
    have hfive : (0 : ℚ) < (5 ^ (-p).toNat : Nat) := by positivity
    have hf := two_zpow_pos f
    rw [ten_zpow_eq, div_mul_eq_mul_div, mul_div_assoc', div_eq_iff hfive.ne'] at h
    have hrat : (digits : ℚ) * (5 ^ p.toNat : Nat) * 2 ^ (p - f).toNat * 2 ^ f =
        n * (5 ^ (-p).toNat : Nat) * 2 ^ (-(p - f)).toNat * 2 ^ f := by
      linear_combination (digits : ℚ) * (5 ^ p.toNat : Nat) * hsplit + 2 ^ (-(p - f)).toNat * h
    exact_mod_cast mul_right_cancel₀ hf.ne' hrat
  have hodd (k l : Nat) : Nat.Coprime (5 ^ k) (2 ^ l) := Nat.Coprime.pow _ _ (by decide)
  -- the power of five divides the whole number on the other side
  rcases le_total 0 p with hp | hp
  · have hn0 : n ≠ 0 := by
      rintro rfl
      have := ten_zpow_pos p
      simp [hdigits] at h
      linarith
    have hdvd : 5 ^ p.toNat ∣ n := by
      rw [show (-p).toNat = 0 by omega, pow_zero, mul_one] at hwhole
      exact (hodd _ _).dvd_of_dvd_mul_right ⟨digits * 2 ^ (p - f).toNat, by rw [← hwhole]; ring⟩
    have hle := Nat.le_of_dvd (Nat.pos_of_ne_zero hn0) hdvd
    have := (Nat.pow_lt_pow_iff_right (a := 5) (by decide)).mp
      (lt_of_le_of_lt (hle.trans hn) (by norm_num : 2 ^ 25 + 2 < 5 ^ 13))
    omega
  · have hdvd : 5 ^ (-p).toNat ∣ digits := by
      rw [show p.toNat = 0 by omega, pow_zero, mul_one] at hwhole
      exact (hodd _ _).dvd_of_dvd_mul_right ⟨n * 2 ^ (-(p - f)).toNat, by rw [hwhole]; ring⟩
    have hle := Nat.le_of_dvd (Nat.pos_of_ne_zero hdigits) hdvd
    have := (Nat.pow_lt_pow_iff_right (a := 5) (by decide)).mp
      (lt_of_le_of_lt hle (hless.trans (by norm_num : 2 ^ 29 < 5 ^ 13)))
    omega

/-! ### The shortest decimal as a numeral -/

variable {x : Scaled}

/-- A numeral of the same value as `d`, with 53 bits of digits at most, and with other digits than
`d` only where its power of ten is `-1`. -/
structure StandsFor (n : Numeral) (d : DecimalDigits) : Prop where
  value_eq : n.value = d.value
  significant_lt : n.significant < 2 ^ 53
  power_eq : n.power = d.power ∧ n.significant = d.digits ∨ n.power = -1

/-- Scaled to 64 bits and rounded to 32, a numeral of `shortest x` comes out as `x.bits`. -/
theorem StandsFor.scaled? {n : Numeral} (h : StandsFor n (shortest x)) (hx : IsBinary32 x)
    (hpos : 0 < x.significand) :
    ∃ y z, n.scaled? = some (.finite n.negative y) ∧ binary32.nearest? y.num y.den = some z ∧
      z.bits = x.bits := by
  obtain ⟨hvalue, hless, hpower⟩ := h
  obtain ⟨f, low, high, hshape, -⟩ := exists_shape hx hpos
  obtain ⟨-, hleast, hmost, hne, hreads, hdigits⟩ := shortest_spec hshape
  have hsignificant : 0 < n.significant := by
    refine Nat.pos_of_ne_zero fun hzero => ?_
    have hten := ten_zpow_pos (shortest x).power
    unfold Numeral.value DecimalDigits.value at hvalue
    simp [hzero, hne, hten.ne'] at hvalue
  obtain ⟨y, hy, hnear, hexact⟩ := Numeral.scaled?_near hsignificant hless (by omega)
  rw [hvalue] at hnear hexact
  have hround (hread : (ReadingInterval.of x).Reads y.value) :
      ∃ z, binary32.nearest? y.num y.den = some z ∧ z.bits = x.bits :=
    nearest?_of_reads hx hpos y.den_pos (by rwa [y.num_div_den])
  rcases reads_of_near_shortest hx hpos hnear with hread | ⟨s, e, hs, heq⟩ | ⟨hx, hshortest⟩
  -- in the interval it is rounded back to the float
  · obtain ⟨z, hz⟩ := hround hread
    exact ⟨y, z, hy, hz⟩
  -- half way between two floats it is read exactly, and exactly it reads back
  · have hsmall := natAbs_power_le hne hdigits hs heq
    have hvalue := hexact (by omega) s e (by omega) heq
    obtain ⟨z, hz⟩ := hround (by rwa [hvalue])
    exact ⟨y, z, hy, hz⟩
  -- the one float that is left out
  · subst hx
    rw [hshortest] at hpower hvalue
    obtain ⟨hp, hd⟩ : n.power = -32 ∧ n.significant = 7038531 := by
      rcases hpower with hpower | hpower
      · exact hpower
      -- with another power of ten the digits would not be a whole number
      · unfold Numeral.value DecimalDigits.value at hvalue
        rw [hpower, zpow_neg_one] at hvalue
        have : (1 : ℚ) ≤ n.significant := by exact_mod_cast hsignificant
        norm_num at hvalue
        linarith
    have hscaled := Numeral.scaled?_eq hless
    have hlast : ((binary64.nearest? 7038531 1).bind (Numeral.scale · (-32))).bind
        (fun y => binary32.nearest? y.num y.den) = some ⟨11420669, -107⟩ := by
      decide +kernel
    rw [hy, hp, hd] at hscaled
    obtain ⟨z, hz, hlast⟩ := Option.bind_eq_some_iff.mp hlast
    rw [hz] at hscaled
    obtain rfl := (Binary.finite.inj (Option.some.inj hscaled)).2
    exact ⟨y, _, hy, hlast, rfl⟩

theorem DecimalLayout.exists_standsFor_set (layout : DecimalLayout)
    (hlayout : layout.greatestPlain ≤ 13) {d : DecimalDigits} (hd : d.digits < 2 ^ 53) :
    ∃ n, Numeral.ofChars? (layout.set d) = some n ∧ n.negative = false ∧ n.isInteger = false ∧
      StandsFor n d := by
  rcases layout.readsAs_set d with ⟨n, hn, hsign, hinteger, hdigits, hpower⟩ |
    ⟨zeros, hzeros, hless, n, hn, hsign, hinteger, hdigits, hpower⟩
  · refine ⟨n, hn, hsign, hinteger, ?_, by rwa [hdigits], .inl ⟨hpower, hdigits⟩⟩
    unfold Numeral.value DecimalDigits.value
    rw [hdigits, hpower]
  · refine ⟨n, hn, hsign, hinteger, ?_, ?_, .inr hpower⟩
    · unfold Numeral.value DecimalDigits.value
      rw [hdigits, hpower, Nat.cast_mul, cast_tenTo, mul_assoc, ← zpow_natCast,
        ← zpow_add₀ (by norm_num), hzeros, add_neg_cancel_right]
    · have hten : tenTo (layout.greatestPlain + 2).toNat ≤ tenTo 15 :=
        Nat.pow_le_pow_right (by decide) (by omega)
      rw [hdigits]
      exact (hless.trans_le hten).trans (by decide)

/-! ### Floats -/

/-- The digits of a magnitude are read as the float of that magnitude, with either sign. -/
theorem DecimalLayout.toFloat32?_digits (layout : DecimalLayout)
    (hlayout : layout.greatestPlain ≤ 13) (hx : IsBinary32 x) :
    ∃ n, Numeral.ofChars?
        (if x.significand = 0 then ['0', '.', '0'] else layout.set (shortest x)) = some n ∧
      n.negative = false ∧ ∀ negative,
        ({ n with negative := negative } : Numeral).toFloat32? =
          some (Binary.packFloat32 negative x.bits) := by
  by_cases hzero : x.significand = 0
  · have hexponent : x.exponent = -149 := by
      have hleast := hx.leastExponent_le
      have hfull := hx.full
      omega
    have hbits : x.bits = 0 := by
      unfold Scaled.bits
      rw [hexponent, hzero]
      rfl
    rw [if_pos hzero, hbits]
    refine ⟨⟨false, [0], some [0], none⟩, rfl, rfl, fun negative => ?_⟩
    cases negative with
    | true => decide +kernel
    | false => decide +kernel
  -- every other magnitude as its shortest decimal, never spelled as an integer
  · have hpos := Nat.pos_of_ne_zero hzero
    obtain ⟨f, low, high, hshape, -⟩ := exists_shape hx hpos
    obtain ⟨-, -, -, -, -, hdigits⟩ := shortest_spec hshape
    obtain ⟨n, hn, hsign, hinteger, hstands⟩ :=
      layout.exists_standsFor_set hlayout (hdigits.trans (by norm_num))
    rw [if_neg hzero]
    refine ⟨n, hn, hsign, fun negative => ?_⟩
    have hstands : StandsFor { n with negative := negative } (shortest x) :=
      ⟨hstands.value_eq, hstands.significant_lt, hstands.power_eq⟩
    obtain ⟨y, z, hy, hz, hbits⟩ := hstands.scaled? hx hpos
    unfold Numeral.toFloat32?
    have hinteger : ({ n with negative := negative } : Numeral).isInteger = false := hinteger
    simp only [hinteger, Bool.false_and, Bool.false_eq_true, if_false]
    rw [hy, Option.map_some, Binary.toFloat32_finite, hz]
    dsimp only
    rw [hbits]

/-- **The text of a finite float is read as the float**: `toFloat32?` undoes `layout.text?`. -/
theorem DecimalLayout.toFloat32?_text? (layout : DecimalLayout)
    (hlayout : layout.greatestPlain ≤ 13) {x : Float32} {negative : Bool} {magnitude : Scaled}
    (hx : Binary.ofFloat32 x = .finite negative magnitude) :
    ∃ text n, layout.text? x = some text ∧ Numeral.ofChars? text = some n ∧
      n.toFloat32? = some x := by
  obtain ⟨n, hn, hsign, hread⟩ :=
    layout.toFloat32?_digits hlayout (Binary.isBinary32_of_ofFloat32 hx)
  have hread := hread negative
  rw [Binary.packFloat32_bits hx] at hread
  -- the digits begin with a digit, so a sign may stand in front
  have hbegins : BeginsPlain (if magnitude.significand = 0 then ['0', '.', '0']
      else layout.set (shortest magnitude)) := by
    split_ifs with hzero
    · exact ⟨'0', _, rfl, rfl, fun _ => rfl⟩
    · exact layout.beginsPlain_set (digits_shortest_ne_zero hzero (leastExponent_le hx))
  unfold text?
  rw [hx]
  dsimp only
  generalize (if magnitude.significand = 0 then ['0', '.', '0']
    else layout.set (shortest magnitude)) = digits at *
  refine ⟨_, { n with negative := negative }, rfl, ?_, hread⟩
  cases negative with
  | true =>
    obtain ⟨c, rest, rfl, hc, -⟩ := hbegins
    exact (ofChars?_minus hc rest).trans (by rw [hn]; rfl)
  | false =>
    have hsame : { n with negative := false } = n := by rw [← hsign]
    rw [hsame]
    exact hn

end TruckDepot.Decimal
