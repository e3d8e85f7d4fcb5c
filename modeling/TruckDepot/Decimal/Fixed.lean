import TruckDepot.Decimal.Binary
import TruckDepot.Power

/-!
# Fixed decimal places

A number is written with a fixed number of places by rounding its exact value to that many places,
a half going to the even neighbour. There is no exponent, however large the number is. A negative
number that rounds to zero keeps its sign. -/

namespace TruckDepot.Decimal

/-- Decimal digits with zeros in front up to a least number of digits. -/
def paddedDigits (width n : Nat) : List Char :=
  let digits := Nat.toDigits 10 n
  List.replicate (width - digits.length) '0' ++ digits

/-- The magnitude `num / den` with `places` decimal places. -/
def fixedMagnitude (places num den : Nat) : List Char :=
  let units := roundDiv (num * tenTo places) den
  let whole := Nat.toDigits 10 (units / tenTo places)
  if places = 0 then whole else whole ++ '.' :: paddedDigits places (units % tenTo places)

/-- A number with `places` decimal places. -/
def Binary.fixed (places : Nat) : Binary → List Char
  | .notANumber => "NaN".toList
  | .infinite negative => (if negative then ['-'] else []) ++ "inf".toList
  | .finite negative magnitude =>
    (if negative then ['-'] else []) ++ fixedMagnitude places magnitude.num magnitude.den

/-- A 32-bit float with `places` decimal places. -/
def fixed (places : Nat) (x : Float32) : String :=
  String.ofList ((Binary.ofFloat32 x).fixed places)

end TruckDepot.Decimal
