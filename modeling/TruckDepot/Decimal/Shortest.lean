import TruckDepot.Decimal.Binary
import TruckDepot.Power

/-!
# Shortest digits

Among the decimals that a 32-bit float is the nearest one to, the shortest is a multiple of the
largest power of ten. `shortest` tries the powers of ten from above: on each grid only the two
multiples that enclose the float can be nearest to it, so the first grid on which one of the two
reads back as the float gives the fewest digits, and the nearer of the two is taken.

`DecimalLayout` says how the digits are set: which powers of ten are written out in place.
-/

namespace TruckDepot.Decimal

/-- The decimal `digits * 10 ^ power`. -/
structure DecimalDigits where
  /-- The digits as one number. -/
  digits : Nat
  /-- The power of ten that the last digit counts. -/
  power : Int
  deriving DecidableEq, Repr

/-! ### The reals that read back as a float -/

/-- The reals nearest to one 32-bit float, in quarters of its last place: the float itself, the
lower end and the upper end, each to be multiplied by `2 ^ exponent`. -/
structure ReadingInterval where
  /-- The float. -/
  value : Nat
  /-- Where the float below takes over. -/
  low : Nat
  /-- Where the float above takes over. -/
  high : Nat
  /-- The ends belong to the interval. -/
  closed : Bool
  /-- The common power of two. -/
  exponent : Int

/-- The interval of a magnitude of the 32-bit format. The float below a power of two is half as far
away as the float above it, unless both are spaced by the least exponent. -/
def ReadingInterval.of (x : Scaled) : ReadingInterval :=
  let m := x.significand
  { value := 4 * m
    low := 4 * m - if m = twoTo 23 ∧ -149 < x.exponent then 1 else 2
    high := 4 * m + 2
    closed := m % 2 == 0
    exponent := x.exponent - 2 }

/-- The multiples `d * 10 ^ power` and `v * 2 ^ exponent` compare as the naturals
`d * gridFactor power exponent` and `v * binaryFactor power exponent`. -/
def gridFactor (power exponent : Int) : Nat :=
  tenTo power.toNat * twoTo (-exponent).toNat

/-- The other factor of that comparison. -/
def binaryFactor (power exponent : Int) : Nat :=
  tenTo (-power).toNat * twoTo exponent.toNat

/-- The interval holds the positive multiple `digits` of a power of ten. -/
def ReadingInterval.holds (i : ReadingInterval) (power : Int) (digits : Nat) : Bool :=
  let point := digits * gridFactor power i.exponent
  let low := i.low * binaryFactor power i.exponent
  let high := i.high * binaryFactor power i.exponent
  digits != 0 && if i.closed then low ≤ point && point ≤ high else low < point && point < high

/-- Of the two multiples of a power of ten around the float, the one that reads back as the float;
of two such the nearer, and at equal distance the even one. -/
def ReadingInterval.onGrid? (i : ReadingInterval) (power : Int) : Option DecimalDigits :=
  let step := gridFactor power i.exponent
  let value := i.value * binaryFactor power i.exponent
  let below := value / step
  let chosen :=
    match i.holds power below, i.holds power (below + 1) with
    | true, true => some (roundDiv value step)
    | true, false => some below
    | false, true => some (below + 1)
    | false, false => none
  chosen.map fun digits => ⟨digits, power⟩

/-- The first grid with a multiple in the interval, trying a number of powers from `power`
downwards; after the last one, the multiple below the float. -/
def ReadingInterval.coarsest (i : ReadingInterval) : Nat → Int → DecimalDigits
  | 0, power =>
    ⟨i.value * binaryFactor power i.exponent / gridFactor power i.exponent, power⟩
  | tries + 1, power =>
    match i.onGrid? power with
    | some found => found
    | none => i.coarsest tries (power - 1)

/-- The shortest decimal of a positive magnitude of the 32-bit format. No 32-bit float reaches
`10 ^ 39`, and the multiples of `10 ^ -46` lie closer together than any two floats. -/
def shortest (x : Scaled) : DecimalDigits :=
  (ReadingInterval.of x).coarsest 86 39

/-! ### Setting the digits -/

/-- Which decimals are written out in place: those whose first digit counts a power of ten between
`leastPlain` and `greatestPlain`. -/
structure DecimalLayout where
  /-- The least such power. -/
  leastPlain : Int
  /-- The greatest such power. -/
  greatestPlain : Int

/-- A decimal set by a layout: written out in place with at least one digit after the point, or with
one digit before the point and a signed power of ten. -/
def DecimalLayout.set (layout : DecimalLayout) (x : DecimalDigits) : List Char :=
  let digits := Nat.toDigits 10 x.digits
  let first := x.power + digits.length - 1
  if layout.leastPlain ≤ first ∧ first ≤ layout.greatestPlain then
    if 0 ≤ x.power then digits ++ List.replicate x.power.toNat '0' ++ ['.', '0']
    else if 0 ≤ first then
      digits.take (first.toNat + 1) ++ '.' :: digits.drop (first.toNat + 1)
    else '0' :: '.' :: List.replicate (-first - 1).toNat '0' ++ digits
  else
    let fraction := if digits.length = 1 then [] else '.' :: digits.drop 1
    let sign := if first < 0 then '-' else '+'
    digits.take 1 ++ fraction ++ 'e' :: sign :: Nat.toDigits 10 first.natAbs

/-- The shortest text of a 32-bit float, for a finite one. -/
def DecimalLayout.text? (layout : DecimalLayout) (x : Float32) : Option (List Char) :=
  match Binary.ofFloat32 x with
  | .finite negative magnitude =>
    let digits :=
      if magnitude.significand = 0 then ['0', '.', '0'] else layout.set (shortest magnitude)
    some ((if negative then ['-'] else []) ++ digits)
  | _ => none

end TruckDepot.Decimal
