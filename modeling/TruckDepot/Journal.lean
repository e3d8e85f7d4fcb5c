import TruckDepot.Fleet.Sizing
import TruckDepot.Schedule.Declaration
import TruckDepot.Week

/-!
# The journal

What a depot notes down while it works. An operation does not write: it has a list of events, in
order, and whoever calls it decides what becomes of them. `Journal.Text` gives the wording. -/

namespace TruckDepot

/-- Something worth noting down. -/
inductive Event (α : Type) where
  /-- A shift declaration, or a token of one, was passed over. -/
  | declarationRejected (rejection : Rejection)
  /-- The default schedule stands in for one that schedules nothing. -/
  | defaultSchedule
  /-- There are fewer batteries than the schedule requires. -/
  | notEnoughBatteries (batteries required : Nat)
  /-- Batteries are added. -/
  | addingBatteries (count : Nat)
  /-- A day of charging supplies less than the busiest day takes. -/
  | insufficientCharging (supply needed : α)
  /-- Chargers are added. -/
  | addingChargers (count : Nat)
  /-- A fleet is ready to work. -/
  | fleetInitialized (fleet : String) (batteries chargers : Nat) (stored : α)
  /-- A fleet is put back where it was saved. -/
  | fleetRestored (fleet : String) (resumeAt : Slot)
  /-- Regulation is asked for. -/
  | regulationRequested (fleet : String) (kwh : α)
  /-- The shift changed and batteries were swapped. -/
  | shiftChanged (fleet : String) (slot : Slot) (shift : Option Shift) (inUse : α)
  /-- Trucks borrowed energy. -/
  | ranShort (fleet : String) (slot : Slot) (borrowed charging : α)
  /-- A request for regulation was left alone. -/
  | regulationNotActedOn (fleet : String) (kwh credit : α)
  deriving DecidableEq, Repr

namespace Grid

/-- What is noted down when a schedule is made ready. -/
def Configured.events {α : Type} (c : Configured) : List (Event α) :=
  c.rejections.map .declarationRejected ++ if c.isDefault then [.defaultSchedule] else []

variable {α : Type} [Quantity α]

/-- What is noted down when a count of batteries is checked. -/
def batteryEvents (g : Grid) (truckKw batteryCapacity : α) (batteries : Nat) : List (Event α) :=
  let required := g.minBatteries truckKw batteryCapacity
  if batteries < required then
    [.notEnoughBatteries batteries required, .addingBatteries (required - batteries)]
  else []

/-- What is noted down when a count of chargers is checked. -/
def chargerEvents (g : Grid) (truckKw maxChargeKw : α) (chargers : Nat) : List (Event α) :=
  let supply := supply maxChargeKw chargers
  let needed := g.maxDailyEnergy truckKw
  if supply < needed then
    [.insufficientCharging supply needed,
      .addingChargers (g.missingChargers truckKw maxChargeKw chargers)]
  else []

end Grid

end TruckDepot
