import TruckDepot.Decimal.Binary
import TruckDepot.Power

/-!
# Decimal numerals

A numeral is what is written: a sign, digits before and after the point, and a power of ten. Two
ways of reading one as a 64-bit number are in use, and they differ in the last place.

* `Numeral.nearest` is the nearest 64-bit number.
* `Numeral.scaled?` reads as many leading digits as fit an unsigned 64-bit word, and multiplies or
  divides that word by a power of ten, each step rounded to 64 bits. It refuses a magnitude beyond
  the 64-bit range.
-/

namespace TruckDepot.Decimal

/-- A decimal numeral as it is written. Digits are `0` to `9`, the first one first. -/
structure Numeral where
  /-- A minus sign stands in front. -/
  negative : Bool
  /-- Digits before the point. -/
  whole : List Nat
  /-- Digits after the point, where there is one. -/
  fraction : Option (List Nat)
  /-- The power of ten, where one is written. -/
  exponent : Option Int
  deriving DecidableEq, Repr

/-- The number that a list of digits stands for. -/
def digitsValue (digits : List Nat) : Nat :=
  digits.foldl (fun n d => 10 * n + d) 0

namespace Numeral

/-! ### Reading the text -/

/-- The leading digits of a text and what follows them. -/
def takeDigits (s : List Char) : List Nat × List Char :=
  ((s.takeWhile Char.isDigit).map fun c => c.toNat - '0'.toNat, s.dropWhile Char.isDigit)

/-- At least one leading digit and what follows the digits. -/
def takeDigits? (s : List Char) : Option (List Nat × List Char) :=
  match takeDigits s with
  | ([], _) => none
  | found => some found

/-- A sign in front of a text: whether it is a minus sign, and what follows. -/
def takeSign : List Char → Bool × List Char
  | '-' :: s => (true, s)
  | '+' :: s => (false, s)
  | s => (false, s)

/-- The part of a numeral that begins with a point. -/
def takeFraction? : List Char → Option (Option (List Nat) × List Char)
  | '.' :: s => (takeDigits? s).map fun (digits, rest) => (some digits, rest)
  | s => some (none, s)

/-- The part of a numeral that begins with the letter `e`, up to its end. -/
def takeExponent? : List Char → Option (Option Int)
  | [] => some none
  | c :: s =>
    if c = 'e' ∨ c = 'E' then
      let (negative, s) := takeSign s
      match takeDigits? s with
      | some (digits, []) =>
        let size : Int := digitsValue digits
        some (some (if negative then -size else size))
      | _ => none
    else none

/-- Reads a sign, digits, a point with digits and an exponent, of which all but the first digits may
be missing. The whole text has to be used up. -/
def ofChars? (s : List Char) : Option Numeral := do
  let (negative, s) := takeSign s
  let (whole, s) ← takeDigits? s
  let (fraction, s) ← takeFraction? s
  let exponent ← takeExponent? s
  return ⟨negative, whole, fraction, exponent⟩

/-- Neither a point nor an exponent is written. -/
def isInteger (n : Numeral) : Bool :=
  n.fraction.isNone && n.exponent.isNone

/-! ### The nearest number -/

/-- The digits of the numeral without its point. -/
def significant (n : Numeral) : Nat :=
  digitsValue (n.whole ++ n.fraction.getD [])

/-- The power of ten that the digits without the point are scaled by. -/
def power (n : Numeral) : Int :=
  n.exponent.getD 0 - (n.fraction.getD []).length

/-- The 64-bit number nearest to the numeral; an infinity when the magnitude is too large.

A power of ten that puts the numeral far outside the range on either side is settled first, so
that no power is computed that the range does not need. -/
def nearest (n : Numeral) : Binary :=
  let significant := n.significant
  let power := n.power
  if significant = 0 ∨ power < -(400 + (significant.log2 : Int)) then .ofNat n.negative 0
  else if 400 < power then .infinite n.negative
  else
    match binary64.nearest? (significant * tenTo power.toNat) (tenTo (-power).toNat) with
    | some magnitude => .finite n.negative magnitude
    | none => .infinite n.negative

/-! ### Scaling the leading digits -/

/-- The largest unsigned 64-bit word. -/
def largestWord : Nat := twoTo 64 - 1

/-- Leading digits collected into a word, and the power of ten the word is short of. -/
structure Leading where
  /-- The digits taken so far. -/
  word : Nat
  /-- The power of ten that the word has to be scaled by. -/
  shift : Int
  /-- A digit did not fit, and the rest of the run is not taken. -/
  full : Bool

namespace Leading

/-- One more digit before the point: taken if it fits, else counted. -/
def addWhole (l : Leading) (digit : Nat) : Leading :=
  if l.full || largestWord < l.word * 10 + digit then { l with shift := l.shift + 1, full := true }
  else { l with word := l.word * 10 + digit }

/-- One more digit after the point: taken if it fits, else dropped. -/
def addFraction (l : Leading) (digit : Nat) : Leading :=
  if l.full || largestWord < l.word * 10 + digit then { l with full := true }
  else { l with word := l.word * 10 + digit, shift := l.shift - 1 }

end Leading

/-- The leading digits of a numeral. Each of its two runs of digits is taken as far as it fits. -/
def leading (n : Numeral) : Leading :=
  let whole := n.whole.foldl Leading.addWhole ⟨0, 0, false⟩
  (n.fraction.getD []).foldl Leading.addFraction { whole with full := false }

/-- The 64-bit number nearest to a product. -/
def product (x y : Scaled) : Option Scaled :=
  binary64.nearest? (x.num * y.num) (x.den * y.den)

/-- The 64-bit number nearest to a quotient. -/
def quotient (x y : Scaled) : Option Scaled :=
  binary64.nearest? (x.num * y.den) (x.den * y.num)

/-- The 64-bit number nearest to a power of ten, of which `10 ^ 308` is the largest. -/
def powerOfTen (n : Nat) : Option Scaled :=
  binary64.nearest? (tenTo n) 1

/-- A 64-bit number divided by the largest power of ten. -/
def stepDown (x : Scaled) : Option Scaled :=
  (powerOfTen 308).bind (quotient x)

/-- Scales a 64-bit number by a power of ten: up in one step, down in steps of at most `10 ^ 308`.
-/
def scale (x : Scaled) (shift : Int) : Option Scaled :=
  if x.significand = 0 then some x
  else if 308 < shift then none
  else if 0 ≤ shift then (powerOfTen shift.toNat).bind (product x)
  else if -308 ≤ shift then (powerOfTen (-shift).toNat).bind (quotient x)
  else (stepDown x).bind fun y => scale y (shift + 308)
termination_by (-shift).toNat
decreasing_by omega

/-- The leading digits of the numeral scaled by their power of ten; nothing when that leaves the
64-bit range. -/
def scaled? (n : Numeral) : Option Binary := do
  let leading := n.leading
  let word ← binary64.nearest? leading.word 1
  let magnitude ← scale word (leading.shift + n.exponent.getD 0)
  return .finite n.negative magnitude

/-- The 32-bit float of a numeral. An integer that fits a 64-bit word, signed if a minus sign
stands in front, is rounded once; every other numeral passes through `scaled?`. The integer `-0`
keeps its sign. -/
def toFloat32? (n : Numeral) : Option Float32 :=
  let size := digitsValue n.whole
  if n.isInteger && decide (size ≤ if n.negative then twoTo 63 else largestWord) then
    some (Binary.ofNat n.negative size).toFloat32
  else n.scaled?.map Binary.toFloat32

end Numeral

end TruckDepot.Decimal
