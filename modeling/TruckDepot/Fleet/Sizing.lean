import TruckDepot.Power
import TruckDepot.Quantity
import TruckDepot.Schedule.Grid

/-!
# Sizing

Before a fleet starts work, its counts of batteries and of chargers are checked against the schedule
and raised where they fall short.

* Batteries: whenever one shift takes over from another, every truck of both needs a pack, and the
  packs have to hold the energy of both shifts.
* Chargers: a day of charging at full power has to supply the busiest day of work.

The busiest day is looked for among the windows of 24 hours that start in the first six days of the
week and do not run past its end.
-/

namespace TruckDepot.Grid

variable {α : Type} [Quantity α]

/-! ### Batteries -/

/-- The shifts that take over from one another in the course of the week, as pairs of ids. Idle
hours are passed over. -/
def handovers (g : Grid) : List (ShiftId × ShiftId) :=
  let ids := (List.range weekHours).filterMap g.shiftIdAt
  (ids.zip ids.tail).filter fun (earlier, later) => earlier != later

/-- Truck-hours in one occurrence of the shift of an id. -/
def truckHoursOf (g : Grid) (id : ShiftId) : Nat :=
  ((g.shift? id).map Shift.truckHours).getD 0

/-- The packs that a handover needs: one for every truck of both shifts, and enough to hold the
energy of both. -/
def handoverBatteries (g : Grid) (truckKw batteryCapacity : α) (pair : ShiftId × ShiftId) : Nat :=
  let energy := Quantity.ofNat (g.truckHoursOf pair.1 + g.truckHoursOf pair.2) * truckKw
  let byEnergy := Quantity.ceilUpTo (twoTo 64 - 1) (energy / batteryCapacity)
  max (g.trucksOf (some pair.1) + g.trucksOf (some pair.2)) byEnergy

/-- The least count of packs that the schedule can run on. -/
def minBatteries (g : Grid) (truckKw batteryCapacity : α) : Nat :=
  let needs := g.handovers.map (g.handoverBatteries truckKw batteryCapacity)
  min (needs.foldl max 0) largestCount

/-- A count of packs, raised to the least count where it falls short. -/
def sizedBatteries (g : Grid) (truckKw batteryCapacity : α) (batteries : Nat) : Nat :=
  max batteries (g.minBatteries truckKw batteryCapacity)

/-! ### Chargers -/

/-- The trucks working in every hour of the week. -/
def hourlyTrucks (g : Grid) : Vector Nat weekHours :=
  Vector.ofFn fun i => g.trucksAt i

/-- A window of 24 hours moved on by one hour, in the search for the largest sum of trucks. -/
structure Window where
  /-- Sum of the trucks in the window. -/
  sum : Nat
  /-- Largest sum seen so far. -/
  largest : Nat

/-- Moves the window so that it starts at hour `start`: the hour before it leaves, and the last
hour of the new window comes in. -/
def Window.moveTo (hourly : Vector Nat weekHours) (w : Window) (start : Nat) : Window :=
  let sum := w.sum - hourly[start - 1]?.getD 0 + hourly[start + hoursPerDay - 1]?.getD 0
  ⟨sum, max w.largest sum⟩

/-- The most truck-hours in a window of 24 hours. -/
def busiestDay (g : Grid) : Nat :=
  let hourly := g.hourlyTrucks
  let first := (List.range hoursPerDay).foldl (fun sum i => sum + hourly[i]?.getD 0) 0
  let starts := List.range' 1 (weekHours - hoursPerDay - 1)
  (starts.foldl (Window.moveTo hourly) ⟨first, first⟩).largest

/-- The most energy that the trucks use in a window of 24 hours. -/
def maxDailyEnergy (g : Grid) (truckKw : α) : α :=
  Quantity.ofNat g.busiestDay * truckKw

/-- Energy that one charger supplies in a day. -/
def dailySupply (maxChargeKw : α) : α :=
  maxChargeKw * Quantity.ofNat hoursPerDay

/-- Energy that a count of chargers supplies in a day. -/
def supply (maxChargeKw : α) (chargers : Nat) : α :=
  Quantity.ofNat chargers * dailySupply maxChargeKw

/-- The chargers that have to be added to a count that falls short. -/
def missingChargers (g : Grid) (truckKw maxChargeKw : α) (chargers : Nat) : Nat :=
  Quantity.ceilUpTo largestCount
    ((g.maxDailyEnergy truckKw - supply maxChargeKw chargers) / dailySupply maxChargeKw)

/-- A count of chargers, raised where a day of charging falls short of the busiest day. -/
def sizedChargers (g : Grid) (truckKw maxChargeKw : α) (chargers : Nat) : Nat :=
  if supply maxChargeKw chargers < g.maxDailyEnergy truckKw then
    min (chargers + g.missingChargers truckKw maxChargeKw chargers) largestCount
  else chargers

end TruckDepot.Grid
