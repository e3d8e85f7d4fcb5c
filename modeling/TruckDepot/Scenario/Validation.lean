import TruckDepot.Scenario

/-!
# Validation

A scenario has to keep some limits before it is run. `Scenario.violations` lists the limits that
it does not keep, in a fixed order. Shift declarations are not among them: bad ones are passed
over when the schedule is made ready. -/

namespace TruckDepot

open Quantity

/-- A limit that a scenario does not keep. -/
inductive Violation where
  /-- There is no day to work. -/
  | days
  /-- The first day is no day of the week. -/
  | startDay
  /-- The first hour is no hour of the day. -/
  | startHour
  /-- Trucks use no energy. -/
  | truckKw
  /-- The deviation of the energy use is negative. -/
  | truckStd
  /-- A battery holds nothing. -/
  | batteryCapacity
  /-- A charger delivers nothing. -/
  | maxChargeKw
  /-- The efficiency of charging is no positive part of one. -/
  | chargeEfficiency
  /-- The fleet does not look ahead. -/
  | planningHorizon
  /-- The initial charge is no part of the capacity. -/
  | initialSoc
  /-- The price is negative. -/
  | price
  /-- Prices by the hour do not cover the day. -/
  | priceCount (found : Nat)
  /-- A price of an hour is negative. -/
  | hourlyPrices
  /-- The payment for regulation is negative. -/
  | regulationRate
  deriving DecidableEq, Repr

namespace Violation

/-- The setting that is out of its limit. -/
def field : Violation → String
  | .days => "simulation.days"
  | .startDay => "simulation.start_day"
  | .startHour => "simulation.start_hour"
  | .truckKw => "fleet.truck_kw"
  | .truckStd => "fleet.truck_std"
  | .batteryCapacity => "fleet.battery_capacity"
  | .maxChargeKw => "fleet.max_charge_kw"
  | .chargeEfficiency => "fleet.charge_efficiency"
  | .planningHorizon => "fleet.planning_horizon"
  | .initialSoc => "fleet.initial_soc"
  | .price => "tariff.price"
  | .priceCount _ => "tariff.hourly_prices"
  | .hourlyPrices => "tariff.hourly_prices"
  | .regulationRate => "tariff.regulation_rate"

/-- The limit. -/
def message : Violation → String
  | .days => "must be > 0"
  | .startDay => "must be in [1, 7]"
  | .startHour => "must be in [0, 23]"
  | .truckKw => "must be > 0"
  | .truckStd => "must be >= 0"
  | .batteryCapacity => "must be > 0"
  | .maxChargeKw => "must be > 0"
  | .chargeEfficiency => "must be in (0.0, 1.0]"
  | .planningHorizon => "must be > 0"
  | .initialSoc => "must be in [0.0, 1.0]"
  | .price => "must be >= 0"
  | .priceCount found => "must have 24 entries, got " ++ toString found
  | .hourlyPrices => "must all be >= 0"
  | .regulationRate => "must be >= 0"

end Violation

namespace Scenario

variable {α : Type} [Quantity α]

/-- Every limit, in order, and whether the scenario is known to be outside of it. -/
def checks (s : Scenario α) : List (Bool × Violation) :=
  let e := s.equipment
  let l := s.priceList
  [(s.days = 0, .days),
    (s.startDay < 1 || 7 < s.startDay, .startDay),
    (23 < s.startHour, .startHour),
    (e.truckKw ≤ 0, .truckKw),
    (e.truckStd < 0, .truckStd),
    (e.batteryCapacity ≤ 0, .batteryCapacity),
    (e.maxChargeKw ≤ 0, .maxChargeKw),
    (!(0 < e.chargeEfficiency && e.chargeEfficiency ≤ ofNat 1), .chargeEfficiency),
    (e.planningHorizon = 0, .planningHorizon),
    (!(0 ≤ s.initialSoc && s.initialSoc ≤ ofNat 1), .initialSoc),
    (l.price < 0, .price),
    (l.kind = .timeOfUse && l.hourlyPrices.length != hoursPerDay,
      .priceCount l.hourlyPrices.length),
    (l.hourlyPrices.any (· < 0), .hourlyPrices),
    (l.paidRegulation < 0, .regulationRate)]

/-- The limits that the scenario does not keep. -/
def violations (s : Scenario α) : List Violation :=
  s.checks.filterMap fun (violated, violation) => if violated then some violation else none

end Scenario

end TruckDepot
