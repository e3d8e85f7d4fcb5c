import TruckDepot.Tariff
import TruckDepot.Week

/-!
# Hourly records

What happened in one hour of a fleet's work.
-/

namespace TruckDepot

/-- The record of one hour. Energies are in kWh. -/
structure HourRecord (α : Type) where
  /-- Number of the step, from `0`. -/
  step : Nat
  /-- The hour. -/
  slot : Slot
  /-- Trucks working. -/
  trucks : Nat
  /-- Batteries were swapped at the start of the hour. -/
  shiftChanged : Bool
  /-- Energy that the trucks used. -/
  usage : α
  /-- Energy that the trucks borrowed from the other packs. -/
  borrowed : α
  /-- Nameplate capacity in the trucks after the hour. -/
  capacityInUse : α
  /-- Energy in the trucks after the hour. -/
  energyInUse : α
  /-- Energy in all other packs after the hour. -/
  energyCharging : α
  /-- Energy put into the batteries. -/
  stored : α
  /-- Energy drawn from the grid for it. -/
  drawn : α
  /-- Price per kWh. -/
  price : α
  /-- Price of the energy drawn. -/
  cost : α
  /-- Rate structure of the tariff. -/
  rateStructure : RateStructure
  deriving DecidableEq, Repr

end TruckDepot
