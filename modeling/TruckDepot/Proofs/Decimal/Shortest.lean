import Mathlib.Tactic.Ring
import TruckDepot.Decimal.Shortest
import TruckDepot.Proofs.Decimal.Numeral

/-!
# The text of a float is a numeral

The shortest digits of a positive float are not zero (`Decimal.digits_shortest_ne_zero`): a multiple
that reads back as the float is none of zero, and where none is found the last grid is so fine that
it has a multiple below every float.  Whatever the layout, the text of a finite float is therefore a
numeral that begins with a digit, after its sign, and with a zero only where no other digit follows
(`Decimal.DecimalLayout.plainNumeral_text?`).
-/

namespace TruckDepot.Decimal

/-! ### Digits are not zero -/

theorem roundDiv_eq_or (num den : Nat) :
    roundDiv num den = num / den ∨ roundDiv num den = num / den + 1 := by
  unfold roundDiv
  split_ifs
  · exact Or.inl rfl
  · exact Or.inr rfl
  · rcases Nat.mod_two_eq_zero_or_one (num / den) with heven | hodd
    · rw [heven]
      exact Or.inl rfl
    · rw [hodd]
      exact Or.inr rfl

namespace ReadingInterval

variable {i : ReadingInterval} {power : Int}

theorem ne_zero_of_holds {digits : Nat} (h : i.holds power digits = true) : digits ≠ 0 := by
  unfold holds at h
  exact bne_iff_ne.mp (Bool.and_eq_true_iff.mp h).1

/-- The digits that `onGrid?` finds are not zero. -/
theorem digits_onGrid?_ne_zero {found : DecimalDigits} (h : i.onGrid? power = some found) :
    found.digits ≠ 0 := by
  unfold onGrid? at h
  obtain ⟨digits, hdigits, rfl⟩ := Option.map_eq_some_iff.mp h
  show digits ≠ 0
  split at hdigits
  · rename_i hbelow _
    obtain rfl := Option.some.inj hdigits
    -- of both multiples the nearer is taken: the one below, which is none of zero, or the next one
    have hne := ne_zero_of_holds hbelow
    rcases roundDiv_eq_or (i.value * binaryFactor power i.exponent) (gridFactor power i.exponent)
      with hround | hround
    · rwa [hround]
    · rw [hround]
      exact Nat.succ_ne_zero _
  · rename_i hbelow _
    obtain rfl := Option.some.inj hdigits
    exact ne_zero_of_holds hbelow
  · obtain rfl := Option.some.inj hdigits
    exact Nat.succ_ne_zero _
  · cases hdigits

/-- The digits that `coarsest` finds are not zero if the last grid has a multiple below the
float. -/
theorem digits_coarsest_ne_zero (tries : Nat)
    (hlast : gridFactor (power - tries) i.exponent ≤
      i.value * binaryFactor (power - tries) i.exponent) :
    (i.coarsest tries power).digits ≠ 0 := by
  induction tries generalizing power with
  | zero =>
    -- no more grids: the multiple below the float on this one
    rw [show power - ((0 : Nat) : Int) = power by omega] at hlast
    have hpos : 0 < gridFactor power i.exponent :=
      Nat.mul_pos (tenTo_pos _) (twoTo_pos _)
    exact (Nat.div_pos hlast hpos).ne'
  | succ tries ih =>
    unfold coarsest
    split
    · rename_i found hfound
      exact digits_onGrid?_ne_zero hfound
    · have hpower : power - 1 - (tries : Int) = power - (tries + 1 : Nat) := by
        omega
      apply ih
      rwa [hpower]

end ReadingInterval

/-- The digits of `shortest x` are not zero: multiples of `10 ^ -47` lie closer together than any
floats. -/
theorem digits_shortest_ne_zero {x : Scaled} (hx : x.significand ≠ 0) (hleast : -149 ≤ x.exponent) :
    (shortest x).digits ≠ 0 := by
  apply ReadingInterval.digits_coarsest_ne_zero
  -- the last grid is 86 below the first, `10 ^ 39`
  show tenTo 0 * twoTo (-(x.exponent - 2)).toNat ≤
    4 * x.significand * (tenTo 47 * twoTo (x.exponent - 2).toNat)
  have hfine : twoTo (-(x.exponent - 2)).toNat ≤ twoTo 151 :=
    Nat.pow_le_pow_right (by decide) (by omega)
  have hpos : 1 ≤ x.significand * twoTo (x.exponent - 2).toNat :=
    Nat.mul_pos (Nat.pos_of_ne_zero hx) (twoTo_pos _)
  calc tenTo 0 * twoTo (-(x.exponent - 2)).toNat = twoTo (-(x.exponent - 2)).toNat := Nat.one_mul _
    _ ≤ twoTo 151 := hfine
    _ ≤ 4 * tenTo 47 := by decide
    _ ≤ 4 * tenTo 47 * (x.significand * twoTo (x.exponent - 2).toNat) :=
      Nat.le_mul_of_pos_right _ hpos
    _ = 4 * x.significand * (tenTo 47 * twoTo (x.exponent - 2).toNat) := by ring

/-- The exponent of a finite float is at least `-149`. -/
theorem leastExponent_le {x : Float32} {negative : Bool} {magnitude : Scaled}
    (h : Binary.ofFloat32 x = .finite negative magnitude) : -149 ≤ magnitude.exponent := by
  unfold Binary.ofFloat32 at h
  dsimp only at h
  split_ifs at h with hspecial hinfinite hsmall
  · obtain ⟨-, rfl⟩ := Binary.finite.inj h
    exact le_rfl
  · obtain ⟨-, rfl⟩ := Binary.finite.inj h
    show -149 ≤ ((x.toBits.toNat / twoTo 23 % twoTo 8 : Nat) : Int) - 150
    omega

/-! ### Setting the digits -/

/-- In every layout, digits that are not zero are set to begin with a digit other than `0`, or with
`0.`. -/
theorem DecimalLayout.beginsPlain_set (layout : DecimalLayout) {x : DecimalDigits}
    (hx : x.digits ≠ 0) : BeginsPlain (layout.set x) := by
  obtain ⟨c, rest, hdigits, hdigit, hc⟩ := toDigits_of_ne_zero hx
  unfold set
  dsimp only
  rw [hdigits]
  split
  · split_ifs
    · exact ⟨c, _, rfl, hdigit, fun h => absurd h hc⟩
    · exact ⟨c, _, rfl, hdigit, fun h => absurd h hc⟩
    · exact ⟨'0', _, rfl, rfl, fun _ => rfl⟩
  · exact ⟨c, _, rfl, hdigit, fun h => absurd h hc⟩

theorem lt_tenTo_length (n : Nat) : n < tenTo (Nat.toDigits 10 n).length :=
  (Nat.length_toDigits_le_iff (by decide) Nat.length_toDigits_pos).mp le_rfl

/-- The text `s` is a numeral without a sign, no integer, with the value
`significant * 10 ^ power`. -/
def ReadsAs (s : List Char) (significant : Nat) (power : Int) : Prop :=
  ∃ n, Numeral.ofChars? s = some n ∧ n.negative = false ∧ n.isInteger = false ∧
    n.significant = significant ∧ n.power = power

section

variable {run : List Char} (h : Digits run)

include h

/-- A whole number followed by zeros, one of them behind the point. -/
theorem readsAs_whole (zeros : Nat) : ReadsAs (run ++ List.replicate zeros '0' ++ ['.', '0'])
    (digitsValue (run.map digitValue) * tenTo (zeros + 1)) (-1) := by
  refine ⟨_, ofChars?_point (h.append_zeros zeros) digits_zero, rfl, rfl, ?_, rfl⟩
  simp only [Numeral.significant, Option.getD_some]
  rw [List.map_append, List.map_replicate, List.append_assoc, ← digitsValue_append_zeros,
    List.replicate_succ']
  rfl

/-- The digits with a point after the first `count + 1` of them. -/
theorem readsAs_point (count : Nat) (hcount : count + 1 < run.length) :
    ReadsAs (run.take (count + 1) ++ '.' :: run.drop (count + 1))
      (digitsValue (run.map digitValue)) (count + 1 - run.length) := by
  refine ⟨_, ofChars?_point (h.take count) (h.drop hcount), rfl, rfl, ?_, ?_⟩
  · simp only [Numeral.significant, Option.getD_some]
    rw [← List.map_append, List.take_append_drop]
  · simp only [Numeral.power, Option.getD_some, Option.getD_none]
    rw [List.length_map, List.length_drop]
    omega

/-- `0.` and zeros before the digits. -/
theorem readsAs_fraction (zeros : Nat) : ReadsAs ('0' :: '.' :: List.replicate zeros '0' ++ run)
    (digitsValue (run.map digitValue)) (-(zeros + run.length : Nat)) := by
  have hread := ofChars?_point digits_zero (h.zeros_append zeros)
  refine ⟨_, hread, rfl, rfl, ?_, ?_⟩
  · simp only [Numeral.significant, Option.getD_some]
    rw [List.map_append, List.map_replicate, ← List.append_assoc]
    exact digitsValue_zeros_append (zeros + 1) _
  · simp only [Numeral.power, Option.getD_some, Option.getD_none]
    rw [List.length_map, List.length_append, List.length_replicate, zero_sub]

/-- One digit, a point and the other digits if there are any, and a signed power of ten. -/
theorem readsAs_scientific (first : Int) :
    ReadsAs (run.take 1 ++ (if run.length = 1 then [] else '.' :: run.drop 1) ++
      'e' :: (if first < 0 then '-' else '+') :: Nat.toDigits 10 first.natAbs)
      (digitsValue (run.map digitValue)) (first + 1 - run.length) := by
  have hlength := List.length_pos_iff.mpr h.ne_nil
  have hpower := digits_toDigits first.natAbs
  obtain ⟨sign, hsigned, hsign, hexponent⟩ : ∃ sign : Char,
      (if first < 0 then '-' else '+') = sign ∧ (sign = '-' ∨ sign = '+') ∧
        (if sign = '-' then -(first.natAbs : Int) else first.natAbs) = first := by
    by_cases hnegative : first < 0
    · refine ⟨'-', if_pos hnegative, .inl rfl, ?_⟩
      rw [if_pos rfl]
      omega
    · refine ⟨'+', if_neg hnegative, .inr rfl, ?_⟩
      rw [if_neg (by decide)]
      omega
  rw [hsigned, List.append_assoc]
  by_cases hone : run.length = 1
  -- a single digit stands without a point
  · rw [if_pos hone, List.nil_append, List.take_of_length_le hone.le]
    refine ⟨_, ofChars?_scientific h hsign hpower, rfl, rfl, ?_, ?_⟩
    · simp only [Numeral.significant, Option.getD_none]
      rw [List.append_nil]
    · simp only [Numeral.power, Option.getD_some, Option.getD_none]
      rw [digitsValue_toDigits, hexponent, List.length_nil]
      omega
  · rw [if_neg hone, List.cons_append]
    refine ⟨_, ofChars?_point_scientific (h.take 0) (h.drop (by omega)) hsign hpower, rfl, rfl,
      ?_, ?_⟩
    · simp only [Numeral.significant, Option.getD_some]
      rw [← List.map_append, List.take_append_drop]
    · simp only [Numeral.power, Option.getD_some]
      rw [digitsValue_toDigits, hexponent, List.length_map, List.length_drop]
      omega

end

/-- `layout.set x` reads as `x.digits` and `x.power`; a whole number that is written out in place is
followed by zeros. -/
theorem DecimalLayout.readsAs_set (layout : DecimalLayout) (x : DecimalDigits) :
    ReadsAs (layout.set x) x.digits x.power ∨ ∃ zeros : Nat, (zeros : Int) = x.power + 1 ∧
      x.digits * tenTo zeros < tenTo (layout.greatestPlain + 2).toNat ∧
      ReadsAs (layout.set x) (x.digits * tenTo zeros) (-1) := by
  have hdigits := digits_toDigits x.digits
  have hvalue := digitsValue_toDigits x.digits
  have hlength := List.length_pos_iff.mpr hdigits.ne_nil
  have hless := lt_tenTo_length x.digits
  unfold set
  dsimp only
  generalize Nat.toDigits 10 x.digits = digits at *
  split
  · rename_i hplain
    split_ifs with hwhole hpoint
    -- a whole number, digits around the point, digits behind it
    · right
      refine ⟨x.power.toNat + 1, by omega, ?_, ?_⟩
      · calc x.digits * tenTo (x.power.toNat + 1)
            < tenTo digits.length * tenTo (x.power.toNat + 1) :=
              Nat.mul_lt_mul_of_pos_right hless (tenTo_pos _)
          _ = tenTo (digits.length + (x.power.toNat + 1)) := (Nat.pow_add 10 _ _).symm
          _ ≤ tenTo (layout.greatestPlain + 2).toNat :=
              Nat.pow_le_pow_right (by decide) (by omega)
      · have hread := readsAs_whole hdigits x.power.toNat
        rwa [hvalue] at hread
    · left
      have hread := readsAs_point hdigits (x.power + digits.length - 1).toNat (by omega)
      rw [hvalue] at hread
      convert hread using 1
      omega
    · left
      have hread := readsAs_fraction hdigits (-(x.power + digits.length - 1) - 1).toNat
      rw [hvalue] at hread
      convert hread using 1
      omega
  · left
    have hread := readsAs_scientific hdigits (x.power + digits.length - 1)
    rw [hvalue] at hread
    convert hread using 1
    omega

/-- `layout.text?` is a `PlainNumeral`, with or without a minus sign in front. -/
theorem DecimalLayout.plainNumeral_text? (layout : DecimalLayout) {x : Float32} {text : List Char}
    (h : layout.text? x = some text) :
    ∃ digits, PlainNumeral digits ∧ (text = digits ∨ text = '-' :: digits) := by
  unfold text? at h
  split at h
  · rename_i negative magnitude hx
    dsimp only at h
    obtain rfl := Option.some.inj h
    refine ⟨if magnitude.significand = 0 then ['0', '.', '0'] else layout.set (shortest magnitude),
      ?_, ?_⟩
    · split_ifs with hzero
      · exact ⟨⟨'0', _, rfl, rfl, fun _ => rfl⟩, _, rfl⟩
      · refine ⟨layout.beginsPlain_set (digits_shortest_ne_zero hzero (leastExponent_le hx)), ?_⟩
        rcases layout.readsAs_set (shortest magnitude) with ⟨n, hn, -⟩ | ⟨_, -, -, n, hn, -⟩
        · exact ⟨n, hn⟩
        · exact ⟨n, hn⟩
    · cases negative with
      | true => exact Or.inr rfl
      | false => exact Or.inl rfl
  · cases h

end TruckDepot.Decimal
