import TruckDepot.Decimal.Rounding
import TruckDepot.Power

/-!
# Numbers of a binary format

A finite number of a binary floating-point format is a sign and a magnitude `s * 2 ^ e`, with the
significand `s` and the exponent `e` bounded by the format. This module reads a 32-bit float as
such a number, finds the number of a format nearest to a quotient of naturals, and writes it back
into 32 bits. Everything is exact arithmetic on naturals, so that a statement about a printed or a
read number can speak of its value.

* `BinaryFormat.nearest?` is the one place where a magnitude is rounded into a format.
* `Binary.ofFloat32` and `Binary.toFloat32` move between bits and values.
-/

namespace TruckDepot.Decimal

/-- The magnitude `significand * 2 ^ exponent`. -/
structure Scaled where
  /-- The whole number that is scaled. -/
  significand : Nat
  /-- The power of two it is scaled by. -/
  exponent : Int
  deriving DecidableEq, Repr

namespace Scaled

/-- Numerator of the magnitude as a quotient of naturals. -/
def num (x : Scaled) : Nat :=
  x.significand * twoTo x.exponent.toNat

/-- Denominator of the magnitude as a quotient of naturals. -/
def den (x : Scaled) : Nat :=
  twoTo (-x.exponent).toNat

theorem den_pos (x : Scaled) : 0 < x.den :=
  twoTo_pos _

end Scaled

/-! ### Formats -/

/-- A binary floating-point format: significands have at most `precision` bits, exponents are no
less than `leastExponent`, and every magnitude is below `2 ^ top`. -/
structure BinaryFormat where
  /-- Bits of a significand. -/
  precision : Nat
  /-- Exponent of the smallest numbers. -/
  leastExponent : Int
  /-- Magnitudes stay below this power of two. -/
  top : Int
  deriving DecidableEq, Repr

/-- The 32-bit format. -/
def binary32 : BinaryFormat := ⟨24, -149, 128⟩

/-- The 64-bit format. -/
def binary64 : BinaryFormat := ⟨53, -1074, 1024⟩

/-- The greatest `k` with `2 ^ k ≤ num / den`, for positive `num` and `den`. -/
def log2Ratio (num den : Nat) : Int :=
  let k : Int := (num.log2 : Int) - (den.log2 : Int)
  if num * twoTo (-k).toNat < den * twoTo k.toNat then k - 1 else k

/-- The number of the format nearest to `num / den`, a half going to the even significand; nothing
when that number would reach `2 ^ top`. -/
def BinaryFormat.nearest? (f : BinaryFormat) (num den : Nat) : Option Scaled :=
  if num = 0 then
    some ⟨0, f.leastExponent⟩
  else
    let exponent := max (log2Ratio num den - (f.precision - 1 : Int)) f.leastExponent
    let significand := roundDiv (num * twoTo (-exponent).toNat) (den * twoTo exponent.toNat)
    if f.top ≤ (significand.log2 : Int) + exponent then none
    else some ⟨significand, exponent⟩

/-! ### Signed numbers and what stands beside them -/

/-- A number of a binary format, or one of the values that stand beside the numbers. -/
inductive Binary where
  /-- Not a number. -/
  | notANumber
  /-- An infinity. -/
  | infinite (negative : Bool)
  /-- A signed magnitude; zero has both signs. -/
  | finite (negative : Bool) (magnitude : Scaled)
  deriving DecidableEq, Repr

namespace Binary

/-- The value that the bits of a 32-bit float stand for: a sign bit, eight bits of exponent and
twenty-three bits of fraction. -/
def ofFloat32 (x : Float32) : Binary :=
  let bits := x.toBits.toNat
  let negative := decide (twoTo 31 ≤ bits)
  let exponent : Nat := bits / twoTo 23 % twoTo 8
  let fraction : Nat := bits % twoTo 23
  if exponent = 255 then
    if fraction = 0 then .infinite negative else .notANumber
  else if exponent = 0 then .finite negative ⟨fraction, -149⟩
  else .finite negative ⟨twoTo 23 + fraction, (exponent : Int) - 150⟩

/-- A 32-bit float from its sign and the remaining bits. -/
def packFloat32 (negative : Bool) (rest : Nat) : Float32 :=
  Float32.ofBits (UInt32.ofNat ((if negative then twoTo 31 else 0) + rest))

/-- The 32-bit float nearest to a value. A magnitude that is too large becomes an infinity.

A significand with its leading bit set carries that bit into the exponent, which is why the same sum
serves the numbers below the least full significand and a significand rounded up to `2 ^ 24`. -/
def toFloat32 : Binary → Float32
  | .notANumber => packFloat32 false (255 * twoTo 23 + twoTo 22)
  | .infinite negative => packFloat32 negative (255 * twoTo 23)
  | .finite negative magnitude =>
    match binary32.nearest? magnitude.num magnitude.den with
    | none => packFloat32 negative (255 * twoTo 23)
    | some ⟨significand, exponent⟩ =>
      packFloat32 negative ((exponent + 149).toNat * twoTo 23 + significand)

/-- A whole number with a sign. -/
def ofNat (negative : Bool) (n : Nat) : Binary :=
  .finite negative ⟨n, 0⟩

end Binary

end TruckDepot.Decimal
