import TruckDepot.Quantity
import TruckDepot.Decimal.Binary

/-!
# 32-bit floats as quantities

The program measures in 32-bit floats. Sums, differences, products and quotients are each rounded
to the nearest float; a count becomes the nearest float; the least natural above a float is found
on its exact value. -/

namespace TruckDepot

open Decimal

/-- The least natural number that is no less than a value, brought into the range from `0` to a
bound. -/
def Decimal.Binary.ceilUpTo (bound : Nat) : Binary → Nat
  | .notANumber => 0
  | .infinite negative => if negative then 0 else bound
  | .finite negative magnitude =>
    if negative then 0
    else min bound ((magnitude.num + magnitude.den - 1) / magnitude.den)

instance : Quantity Float32 where
  zero := Float32.ofNat 0
  decLt := Float32.decLt
  decLe := Float32.decLe
  ofNat := Float32.ofNat
  ceilUpTo bound x := (Binary.ofFloat32 x).ceilUpTo bound
  top? := some (Binary.toFloat32 (.infinite false))

end TruckDepot
