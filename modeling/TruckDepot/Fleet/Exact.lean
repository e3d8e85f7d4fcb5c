import TruckDepot.Fleet.Equipment
import TruckDepot.Quantity.Rational
import TruckDepot.Random.Normal

/-!
# A depot in exact numbers

The equipment of the small depot in exact numbers, and recorded deviates as a source of noise: each
is drawn once, in order, and zero is drawn when none is left. -/

namespace TruckDepot

/-- The equipment of the small depot, in exact numbers. -/
def Equipment.exact : Equipment Rat :=
  { truckKw := 4, truckStd := 4 / 5, batteryCapacity := 50, batteries := 15, chargers := 8,
    maxChargeKw := 6, chargeEfficiency := 9 / 10, planningHorizon := 60 }

namespace Random

instance : NormalSource (List Rat) Rat where
  draw deviates := (deviates.headD 0, deviates.tail)

end Random

end TruckDepot
