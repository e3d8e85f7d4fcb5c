import TruckDepot.Quantity

/-!
# Equipment

What a fleet is equipped with: how much energy its trucks use, its battery packs and its chargers,
and how far ahead it plans. -/

namespace TruckDepot

/-- Equipment of a fleet. -/
structure Equipment (α : Type) where
  /-- Mean energy that one working truck uses in an hour, in kWh. -/
  truckKw : α
  /-- Standard deviation of the fleet's use in an hour, in kWh. -/
  truckStd : α
  /-- Capacity of one battery pack, in kWh. -/
  batteryCapacity : α
  /-- Battery packs. -/
  batteries : Nat
  /-- Chargers. -/
  chargers : Nat
  /-- Most power that one charger delivers, in kW. -/
  maxChargeKw : α
  /-- Energy stored per energy drawn from the grid. -/
  chargeEfficiency : α
  /-- Hours looked ahead past the current shift. -/
  planningHorizon : Nat
  deriving DecidableEq, Repr

namespace Equipment

/-- The equipment of a small depot: fifteen packs of 50 kWh and eight chargers of 6 kW. -/
def default : Equipment Float32 :=
  { truckKw := 4, truckStd := 0.8, batteryCapacity := 50, batteries := 15, chargers := 8,
    maxChargeKw := 6, chargeEfficiency := 0.9, planningHorizon := 60 }

variable {α : Type} [Quantity α]

/-- Nameplate capacity of all packs together, in kWh. -/
def totalCapacity (e : Equipment α) : α :=
  Quantity.ofNat e.batteries * e.batteryCapacity

/-- Energy that all chargers can store in an hour, in kWh. -/
def chargerCapacity (e : Equipment α) : α :=
  Quantity.ofNat e.chargers * e.maxChargeKw

/-- Chargers that have a battery to charge while some trucks are out with one pack each. -/
def usableChargers (e : Equipment α) (trucks : Nat) : Nat :=
  min e.chargers (e.batteries - trucks)

end Equipment

end TruckDepot
