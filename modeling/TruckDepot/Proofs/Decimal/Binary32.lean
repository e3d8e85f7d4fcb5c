import Mathlib
import TruckDepot.Proofs.Decimal.Nearest

/-!
# 32-bit floats and their magnitudes

A finite 32-bit float is a sign and a magnitude of the 32-bit format (`Decimal.IsBinary32`), and is
packed again from these (`Binary.packFloat32_bits`).  Packing a value gives the float of its nearest
magnitude, or an infinity if the value reaches the middle between the largest magnitude and
`2 ^ 128` (`Binary.ofFloat32_toFloat32_of_lt`, `_of_le`); it never gives what is not a number.
-/

namespace TruckDepot.Decimal

/-- A magnitude as the finite 32-bit floats have it: `significand < 2 ^ 24`, and at least `2 ^ 23`
but at the least exponent. -/
structure IsBinary32 (x : Scaled) : Prop where
  significand_lt : x.significand < 2 ^ 24
  leastExponent_le : -149 ≤ x.exponent
  exponent_le : x.exponent ≤ 104
  full : -149 < x.exponent → 2 ^ 23 ≤ x.significand

/-- The bits of `x` behind the sign: the biased exponent above the fraction. -/
def Scaled.bits (x : Scaled) : Nat :=
  (x.exponent + 149).toNat * twoTo 23 + x.significand

/-- The middle between the largest magnitude and `2 ^ 128`. -/
def binary32Limit : ℚ :=
  (2 ^ 25 - 1) * 2 ^ 103

theorem twoTo_8 : twoTo 8 = 256 := rfl

theorem twoTo_23 : twoTo 23 = 8388608 := rfl

theorem twoTo_31 : twoTo 31 = 2147483648 := rfl

namespace Binary

variable {x : Float32} {negative : Bool} {magnitude : Scaled}

/-! ### Taking floats apart -/

theorem isBinary32_of_ofFloat32 (h : ofFloat32 x = .finite negative magnitude) :
    IsBinary32 magnitude := by
  unfold ofFloat32 at h
  dsimp only at h
  split_ifs at h with hspecial hinfinite hsmall
  · obtain ⟨-, rfl⟩ := Binary.finite.inj h
    simp only [twoTo_8, twoTo_23] at hspecial hsmall ⊢
    constructor <;> dsimp only <;> omega
  · obtain ⟨-, rfl⟩ := Binary.finite.inj h
    simp only [twoTo_8, twoTo_23] at hspecial hsmall ⊢
    constructor <;> dsimp only <;> omega

/-- `packFloat32` packs a finite float from its sign and its magnitude. -/
theorem packFloat32_bits (h : ofFloat32 x = .finite negative magnitude) :
    packFloat32 negative magnitude.bits = x := by
  have hword : x.toBits.toNat < 4294967296 := x.toBits.toNat_lt
  -- the word is a sign bit and, behind it, the bits of the magnitude
  have hrest : magnitude.bits = x.toBits.toNat % 2147483648 ∧
      negative = decide (2147483648 ≤ x.toBits.toNat) := by
    unfold ofFloat32 at h
    dsimp only at h
    split_ifs at h with hspecial hinfinite hsmall
    · obtain ⟨rfl, rfl⟩ := Binary.finite.inj h
      simp only [Scaled.bits, twoTo_8, twoTo_23, twoTo_31] at hspecial hsmall ⊢
      exact ⟨by omega, rfl⟩
    · obtain ⟨rfl, rfl⟩ := Binary.finite.inj h
      simp only [Scaled.bits, twoTo_8, twoTo_23, twoTo_31] at hspecial hsmall ⊢
      exact ⟨by omega, rfl⟩
  obtain ⟨hrest, rfl⟩ := hrest
  have hbits : (if decide (2147483648 ≤ x.toBits.toNat) = true then 2147483648 else 0) +
      magnitude.bits = x.toBits.toNat := by
    split_ifs with hsign
    · rw [decide_eq_true_eq] at hsign
      omega
    · rw [decide_eq_true_eq] at hsign
      omega
  unfold packFloat32
  rw [twoTo_31, hbits, UInt32.ofNat_toNat, Float32.ofBits_toBits]

/-! ### Putting floats together -/

open Float.Model in
theorem toBits_ofBits {u : UInt32} (h : u.toNat % 2147483648 ≤ 255 * 8388608) :
    (Float32.ofBits u).toBits = u := by
  have hexponent : (@UnpackedFloat.unpackExponent Format.binary32 u.toBitVec).toNat =
      u.toNat / 8388608 % 256 := by
    rw [UnpackedFloat.unpackExponent_def, BitVec.extractLsb'_toNat, Nat.shiftRight_eq_div_pow]
    rfl
  have hmantissa : (@UnpackedFloat.unpackMantissa Format.binary32 u.toBitVec).toNat =
      u.toNat % 8388608 := by
    rw [UnpackedFloat.unpackMantissa_def, BitVec.extractLsb'_toNat]
    rfl
  -- a full exponent has fraction zero here: an infinity, and no NaN
  have hnumber : @UnpackedFloat.isNaNBits Format.binary32 u.toBitVec = false := by
    refine decide_eq_false fun hnan => ?_
    have hall : u.toNat / 8388608 % 256 = 255 := by
      rw [← hexponent, hnan.1]
      rfl
    refine hnan.2 (BitVec.eq_of_toNat_eq ?_)
    rw [hmantissa]
    show u.toNat % 8388608 = 0
    omega
  -- only a NaN changes when it is unpacked and packed
  apply UInt32.toBitVec_inj.mp
  show UnpackedFloat.pack Format.binary32 (UnpackedFloat.unpack Format.binary32 u.toBitVec) = _
  rw [UnpackedFloat.pack_unpack, hnumber]
  rfl

theorem toBits_packFloat32 (negative : Bool) {rest : Nat} (h : rest ≤ 255 * 8388608) :
    (packFloat32 negative rest).toBits.toNat = (if negative then 2147483648 else 0) + rest := by
  have hword : (UInt32.ofNat ((if negative then twoTo 31 else 0) + rest)).toNat =
      (if negative then 2147483648 else 0) + rest := by
    rw [UInt32.toNat_ofNat', twoTo_31]
    apply Nat.mod_eq_of_lt
    split_ifs <;> omega
  unfold packFloat32
  rw [toBits_ofBits, hword]
  rw [hword]
  split_ifs <;> omega

/-- `ofFloat32` gives back the sign and the magnitude that `packFloat32` was given. -/
theorem ofFloat32_packFloat32 (negative : Bool) (h : IsBinary32 magnitude) :
    ofFloat32 (packFloat32 negative magnitude.bits) = .finite negative magnitude := by
  obtain ⟨hless, hleast, hmost, hfull⟩ := h
  obtain ⟨significand, exponent⟩ := magnitude
  dsimp only at hless hleast hmost hfull
  have hbits : (⟨significand, exponent⟩ : Scaled).bits =
      (exponent + 149).toNat * 8388608 + significand := rfl
  -- the bits stay below those of an infinity, so the sign is apart from them
  have hrest : (⟨significand, exponent⟩ : Scaled).bits < 255 * 8388608 := by omega
  have hword := toBits_packFloat32 negative hrest.le
  generalize (⟨significand, exponent⟩ : Scaled).bits = rest at *
  have hsign : decide (twoTo 31 ≤ (packFloat32 negative rest).toBits.toNat) = negative := by
    rw [hword, twoTo_31]
    cases negative with
    | true => simp
    | false =>
      rw [decide_eq_false_iff_not]
      simp
      omega
  have hexponent : (packFloat32 negative rest).toBits.toNat / twoTo 23 % twoTo 8 =
      rest / 8388608 := by
    rw [hword, twoTo_23, twoTo_8]
    split_ifs <;> omega
  have hfraction : (packFloat32 negative rest).toBits.toNat % twoTo 23 = rest % 8388608 := by
    rw [hword, twoTo_23]
    split_ifs <;> omega
  unfold ofFloat32
  dsimp only
  rw [hsign, hexponent, hfraction, twoTo_23, if_neg (by omega)]
  by_cases hsmall : significand < 8388608
  · -- a subnormal: the biased exponent is zero
    have hexponent : exponent = -149 := by
      by_contra hne
      have := hfull (by omega)
      omega
    subst hexponent
    rw [if_pos (by omega)]
    congr 2
    omega
  · -- a normal number: the hidden bit adds one to the biased exponent
    rw [if_neg (by omega)]
    congr 2
    · omega
    · omega

theorem ofFloat32_packFloat32_infinite (negative : Bool) :
    ofFloat32 (packFloat32 negative (255 * twoTo 23)) = .infinite negative := by
  cases negative <;> decide +kernel

/-! ### Rounding into a float -/

theorem full_of_abs_sub_le {v : ℚ} (hv : 0 < v) {significand : Nat}
    (hround : |v / 2 ^ binary32.exponentAt v - significand| ≤ 1 / 2)
    (hexponent : -149 < binary32.exponentAt v) :
    binary32.exponentAt v = Int.log 2 v - 23 ∧ 2 ^ 23 ≤ significand := by
  have hbinade : binary32.exponentAt v = Int.log 2 v - 23 := by
    unfold BinaryFormat.exponentAt at hexponent ⊢
    simp only [binary32] at hexponent ⊢
    push_cast at hexponent ⊢
    omega
  refine ⟨hbinade, ?_⟩
  have hleast : (2 : ℚ) ^ (23 : Int) ≤ v / 2 ^ binary32.exponentAt v := by
    rw [le_div_iff₀ (two_zpow_pos _), ← zpow_add₀ two_ne_zero, hbinade, add_sub_cancel]
    exact zpow_log_le hv
  have hlow := (abs_le.mp hround).2
  norm_num at hleast
  have hsignificand : (2 ^ 23 : ℚ) < significand + 1 := by linarith
  have hsignificand : 2 ^ 23 < significand + 1 := by exact_mod_cast hsignificand
  omega

theorem toFloat32_finite (negative : Bool) (magnitude : Scaled) :
    toFloat32 (.finite negative magnitude) =
      match binary32.nearest? magnitude.num magnitude.den with
      | none => packFloat32 negative (255 * twoTo 23)
      | some x => packFloat32 negative x.bits := by
  unfold toFloat32
  dsimp only
  cases binary32.nearest? magnitude.num magnitude.den <;> rfl

theorem exponentAt_le_of_lt {v : ℚ} (hv : 0 < v) (h : v < binary32Limit) :
    binary32.exponentAt v ≤ 104 := by
  have hlimit : binary32Limit < 2 ^ (128 : Int) := by
    unfold binary32Limit
    norm_num
  have := (zpow_lt_zpow_iff_right₀ (one_lt_two (α := ℚ))).mp
    (lt_of_le_of_lt (zpow_log_le hv) (h.trans hlimit))
  unfold BinaryFormat.exponentAt
  simp only [binary32]
  push_cast
  omega

/-- Below `binary32Limit` the significand carries to `2 ^ 24` only below the greatest exponent. -/
theorem exponentAt_lt_of_carry {v : ℚ} (hv : 0 < v) (h : v < binary32Limit)
    (hround : |v / 2 ^ binary32.exponentAt v - (2 ^ 24 : Nat)| ≤ 1 / 2) :
    binary32.exponentAt v < 104 := by
  refine lt_of_le_of_ne (exponentAt_le_of_lt hv h) fun hexponent => ?_
  rw [hexponent] at hround
  have hlow := (abs_le.mp hround).1
  have hscaled : v / 2 ^ (104 : Int) < 2 ^ 24 - 1 / 2 := by
    rw [div_lt_iff₀ (two_zpow_pos _)]
    refine lt_of_lt_of_eq h ?_
    unfold binary32Limit
    norm_num
  push_cast at hlow
  linarith

/-- Below `binary32Limit` a magnitude becomes a finite float of its sign. -/
theorem ofFloat32_toFloat32_of_lt (negative : Bool) (h : magnitude.value < binary32Limit) :
    ∃ x, ofFloat32 (toFloat32 (.finite negative magnitude)) = .finite negative x := by
  rw [toFloat32_finite]
  rcases Nat.eq_zero_or_pos magnitude.num with hzero | hnum
  · rw [hzero]
    have hsubnormal : IsBinary32 ⟨0, -149⟩ := ⟨by decide, by decide, by decide, by decide⟩
    exact ⟨_, ofFloat32_packFloat32 negative hsubnormal⟩
  obtain ⟨significand, hle, hround, -, hnearest⟩ :=
    BinaryFormat.nearest?_eq (f := binary32) hnum magnitude.den_pos
  have hpos : 0 < magnitude.value := by
    rw [← magnitude.num_div_den]
    have := magnitude.den_pos
    positivity
  rw [magnitude.num_div_den] at hround hnearest
  have hfull := full_of_abs_sub_le hpos hround
  have hleast : -149 ≤ binary32.exponentAt magnitude.value := le_max_right _ _
  have hmost := exponentAt_le_of_lt hpos h
  by_cases hs : significand = 2 ^ 24
  · subst hs
    have hless := exponentAt_lt_of_carry hpos h hround
    have htop : ¬ binary32.top ≤
        ((2 ^ 24 : Nat).log2 : Int) + binary32.exponentAt magnitude.value := by
      show ¬ (128 : Int) ≤ _
      rw [Nat.log2_two_pow]
      push_cast
      omega
    -- carried over, it is the least significand of the next exponent
    have hbits : (⟨2 ^ 24, binary32.exponentAt magnitude.value⟩ : Scaled).bits =
        (⟨2 ^ 23, binary32.exponentAt magnitude.value + 1⟩ : Scaled).bits := by
      simp only [Scaled.bits, twoTo_23]
      omega
    rw [hnearest, if_neg htop]
    refine ⟨⟨2 ^ 23, binary32.exponentAt magnitude.value + 1⟩, ?_⟩
    dsimp only
    rw [hbits]
    refine ofFloat32_packFloat32 negative ⟨by norm_num, ?_, ?_, fun _ => le_rfl⟩
    · dsimp only
      omega
    · dsimp only
      omega
  · -- without a carry the rounded magnitude is one of the format
    have hless : significand < 2 ^ 24 := lt_of_le_of_ne hle hs
    have hlog : significand.log2 ≤ 23 := by
      by_cases hzero : significand = 0
      · rw [hzero]
        decide
      · have := (Nat.log2_lt hzero).mpr hless
        omega
    have htop :
        ¬ binary32.top ≤ (significand.log2 : Int) + binary32.exponentAt magnitude.value := by
      show ¬ (128 : Int) ≤ _
      omega
    rw [hnearest, if_neg htop]
    exact ⟨_, ofFloat32_packFloat32 negative ⟨hless, hleast, hmost, fun h => (hfull h).2⟩⟩

/-- From `binary32Limit` on a magnitude becomes an infinity of its sign. -/
theorem ofFloat32_toFloat32_of_le (negative : Bool) (h : binary32Limit ≤ magnitude.value) :
    ofFloat32 (toFloat32 (.finite negative magnitude)) = .infinite negative := by
  have hlimit : (2 : ℚ) ^ (127 : Int) < binary32Limit := by
    unfold binary32Limit
    norm_num
  have hpos : 0 < magnitude.value := lt_of_lt_of_le ((two_zpow_pos 127).trans hlimit) h
  have hnum : 0 < magnitude.num := by
    refine Nat.pos_of_ne_zero fun hzero => ?_
    rw [← magnitude.num_div_den, hzero] at hpos
    simp at hpos
  -- the magnitude is in the last binade or above it
  have hlog : 127 ≤ Int.log 2 magnitude.value := by
    have := (zpow_lt_zpow_iff_right₀ (one_lt_two (α := ℚ))).mp
      ((hlimit.trans_le h).trans (lt_zpow_log_add_one _))
    omega
  obtain ⟨significand, hle, hround, hexact, hnearest⟩ :=
    BinaryFormat.nearest?_eq (f := binary32) hnum magnitude.den_pos
  have hless := binary32.div_zpow_exponentAt_lt magnitude.value
  rw [magnitude.num_div_den] at hround hexact hnearest
  have hexponent : binary32.exponentAt magnitude.value = Int.log 2 magnitude.value - 23 := by
    unfold BinaryFormat.exponentAt
    simp only [binary32]
    push_cast
    omega
  obtain ⟨-, hfull⟩ := full_of_abs_sub_le hpos hround (by omega)
  -- rounding reaches the top: by a carry in the last binade, anyway above it
  have htop : binary32.top ≤ significand.log2 + binary32.exponentAt magnitude.value := by
    show (128 : Int) ≤ _
    have hbits : 23 ≤ significand.log2 := (Nat.le_log2 (by omega)).mpr hfull
    rcases (by omega : Int.log 2 magnitude.value = 127 ∨ 128 ≤ Int.log 2 magnitude.value) with
      hlast | hover
    · rw [hlast] at hexponent
      rw [hexponent] at hround hexact hless ⊢
      -- within half a unit of `2 ^ 24`, which is even
      have hscaled : 2 ^ 24 - 1 / 2 ≤ magnitude.value / 2 ^ (127 - 23 : Int) := by
        rw [le_div_iff₀ (two_zpow_pos _)]
        refine le_of_eq_of_le ?_ h
        unfold binary32Limit
        norm_num
      have hsignificand := hexact (2 ^ 24) ⟨?_, fun _ => by norm_num⟩
      · rw [hsignificand, Nat.log2_two_pow]
        norm_num
      · change magnitude.value / 2 ^ (127 - 23 : Int) < 2 ^ 24 at hless
        push_cast
        rw [abs_le]
        constructor <;> linarith
    · omega
  rw [toFloat32_finite, hnearest, if_pos htop]
  exact ofFloat32_packFloat32_infinite negative

end Binary

end TruckDepot.Decimal
