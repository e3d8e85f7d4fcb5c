import TruckDepot.Quantity

/-!
# Rationals as quantities

Read over the rationals, the rules of the depot lose nothing to rounding. There is no largest
rational and every rational is a number. -/

namespace TruckDepot

instance : Quantity Rat where
  zero := 0
  decLt := inferInstance
  decLe := inferInstance
  ofNat n := n
  ceilUpTo bound x := min bound x.ceil.toNat
  top? := none

end TruckDepot
