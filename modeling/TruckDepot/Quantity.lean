/-!
# Quantities

Energies, powers and prices are measured in numbers of one type. The rules of the depot only add,
subtract, multiply, divide and compare them, so they are written once over `Quantity` and read
twice: over 32-bit floats, which is what the program runs on, and over the rationals, where a
statement about energy can be proved without rounding.

No law is asked of a `Quantity`. Floats satisfy none of the ring laws, and a comparison with a float
that is not a number is false both ways; `larger` and `smaller` pass over such a value.
-/

namespace TruckDepot

/-- A type of numbers that energies, powers and prices are measured in. -/
class Quantity (α : Type) extends Zero α, Add α, Sub α, Mul α, Div α, Neg α, LT α, LE α where
  /-- Order can be decided. -/
  decLt : DecidableLT α
  /-- Weak order can be decided. -/
  decLe : DecidableLE α
  /-- A count as a quantity, rounded where the type is not exact. -/
  ofNat : Nat → α
  /-- The least natural number that is no less than the quantity, brought into the range from `0` to
  the bound. What is not a number counts as `0`. -/
  ceilUpTo : Nat → α → Nat
  /-- The quantity above every other one, where the type has one. -/
  top? : Option α

namespace Quantity

variable {α : Type} [Quantity α]

instance : DecidableLT α := decLt
instance : DecidableLE α := decLe

/-- The larger of two quantities. The first wins a tie, and what is not a number never wins. -/
def larger (x y : α) : α :=
  if x < y then y else if x ≤ x then x else y

/-- The smaller of two quantities. The first wins a tie, and what is not a number never wins. -/
def smaller (x y : α) : α :=
  if y < x then y else if x ≤ x then x else y

/-- Both signs of zero, and nothing else. -/
def isZero (x : α) : Bool :=
  x ≤ 0 && 0 ≤ x

end Quantity

end TruckDepot
