import TruckDepot.Fleet.Plan
import TruckDepot.Fleet.Pools
import TruckDepot.Tariff

/-!
# Charging policies

A policy decides how much energy goes into the batteries in an hour, from the batteries, the energy
plan and the tariff. Early charging takes all it can. Deadline charging aims at having the energy of
the plan's first segment, and a reserve, on hand when that segment ends; it spreads what is missing
evenly over the hours left, and takes all it can when the plan cannot be met, when the trucks are
borrowing, or when no later hour of the segment is cheaper than this one.
-/

namespace TruckDepot

open Quantity

/-- What a policy may look at. -/
structure ChargeContext (α : Type) where
  /-- The hour. -/
  slot : Slot
  /-- Equipment of the fleet. -/
  equipment : Equipment α
  /-- Its batteries. -/
  pools : Pools α
  /-- Its energy plan, first segment first; empty if none was made. -/
  plan : List (PlannedSegment α)
  /-- The tariff it is billed under. -/
  tariff : Tariff α

/-- A charging policy. -/
inductive ChargingPolicy where
  /-- All that can be stored, at any price. -/
  | early
  /-- Enough for the next shift when it begins. -/
  | deadline
  deriving DecidableEq, Repr

/-- The name of a policy. -/
def ChargingPolicy.name : ChargingPolicy → String
  | .early => "early"
  | .deadline => "deadline"

namespace ChargeContext

variable {α : Type} [Quantity α]

/-- The most energy that can be stored in the hour: all chargers at full power, as far as the
batteries off the trucks have room. -/
def maxStore (c : ChargeContext α) : α :=
  smaller c.equipment.chargerCapacity (c.pools.room c.equipment.totalCapacity)

/-- The working trucks have nothing left of their own. -/
def trucksBorrowing (c : ChargeContext α) : Bool :=
  0 < c.pools.capacityInUse && c.pools.energyInUse ≤ 0

/-- A price is no higher than the price of each of some hours that follow a slot. -/
def noneCheaper (usagePrice : Slot → α) (now : α) : Nat → Slot → Bool
  | 0, _ => true
  | hours + 1, slot =>
    now ≤ usagePrice slot.next && noneCheaper usagePrice now hours slot.next

/-- No later hour of a stretch that begins with this hour is cheaper than this hour. -/
def cheapestHour (c : ChargeContext α) (hours : Nat) : Bool :=
  noneCheaper c.tariff.usagePrice (c.tariff.usagePrice c.slot) (hours - 1) c.slot

end ChargeContext

/-- Energy kept on hand beyond what the plan requires: an hour of charging at full power. -/
def Equipment.reserve {α : Type} [Quantity α] (e : Equipment α) : α :=
  e.chargerCapacity

namespace ChargingPolicy

variable {α : Type} [Quantity α]

/-- What is missing for the end of a segment, spread over its hours. -/
def evenShare (c : ChargeContext α) (front : PlannedSegment α) : α :=
  let target := front.required + c.equipment.reserve
  let missing := larger (target - c.pools.energyCharging) 0
  smaller (missing / Quantity.ofNat (max front.duration 1)) c.maxStore

/-- Energy to store in the hour, in kWh. -/
def energyToStore (policy : ChargingPolicy) (c : ChargeContext α) : α :=
  match policy, c.plan with
  | .early, _ => c.maxStore
  | .deadline, [] => c.maxStore
  | .deadline, front :: _ =>
    if front.maxSurplus < 0 || c.trucksBorrowing then c.maxStore
    else if c.tariff.isTimeOfUse && c.cheapestHour front.duration then c.maxStore
    else evenShare c front

end ChargingPolicy

end TruckDepot
