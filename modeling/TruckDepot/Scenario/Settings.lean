import TruckDepot.Power
import TruckDepot.Scenario.Error
import TruckDepot.Toml.Reader

/-!
# Scenario files

A scenario file is a TOML document with the tables `simulation`, `fleet`, `schedule` and `tariff`.
A setting that is left out is that of the baseline; a setting that is not known is refused, and so
is a value of another type or out of the range of its type. A table may also be given as an array
of its settings in order, of which the last ones may be left out; items beyond the last setting
are ignored. -/

namespace TruckDepot

namespace Toml

/-! ### Values -/

/-- A string. -/
def text? : Toml → Option String
  | .text value => some value
  | _ => none

/-- An integer from `0` up to a bound, without the bound. -/
def natBelow? (bound : Nat) : Toml → Option Nat
  | .integer value => if 0 ≤ value ∧ value < bound then some value.toNat else none
  | _ => none

/-- A byte. -/
def byte? (v : Toml) : Option UInt8 :=
  (v.natBelow? (twoTo 8)).map UInt8.ofNat

/-- A word of 64 bits. -/
def word? (v : Toml) : Option UInt64 :=
  (v.natBelow? (twoTo 64)).map UInt64.ofNat

/-- A number as a 32-bit float: an integer is rounded once, a float a second time. -/
def quantity? : Toml → Option Float32
  | .integer value => some (Decimal.Binary.ofNat (decide (value < 0)) value.natAbs).toFloat32
  | .float value => some value.toFloat32
  | _ => none

/-- An array of numbers. -/
def quantities? : Toml → Option (List Float32)
  | .array items => items.mapM quantity?
  | _ => none

/-- A rate structure by its name. In place of the name there may be a table that has it as its only
key, with nothing in it. -/
def rateStructure? : Toml → Option RateStructure
  | .text name => ofName? name
  | .table [(name, .table [])] => ofName? name
  | .table [(name, .array [])] => ofName? name
  | _ => none
where
  /-- The rate structure with a name. -/
  ofName? (name : String) : Option RateStructure :=
    [RateStructure.flat, .timeOfUse, .regulation].find? (·.name = name)

/-! ### Tables -/

/-- The settings of a table or of an array, by their names. -/
def settings? (names : List String) : Toml → Option (List (String × Toml))
  | .array items => some (names.zip items)
  | .table entries => if entries.all fun e => names.contains e.1 then some entries else none
  | _ => none

/-- A setting, or what stands in for it. -/
def setting? {β : Type} (settings : List (String × Toml)) (name : String) (read : Toml → Option β)
    (absent : β) : Option β :=
  match settings.lookup name with
  | none => some absent
  | some value => read value

end Toml

namespace Scenario

open Toml

/-- A scenario with the settings of the table `simulation`. -/
def withSimulation? (s : Scenario Float32) (v : Toml) : Option (Scenario Float32) := do
  let given ← v.settings? ["name", "days", "seed", "start_day", "start_hour"]
  let name ← setting? given "name" text? s.name
  let days ← setting? given "days" (natBelow? (twoTo 64)) s.days
  let seed ← setting? given "seed" word? s.seed
  let startDay ← setting? given "start_day" byte? s.startDay
  let startHour ← setting? given "start_hour" byte? s.startHour
  return { s with name, days, seed, startDay, startHour }

/-- A scenario with the settings of the table `fleet`. -/
def withFleet? (s : Scenario Float32) (v : Toml) : Option (Scenario Float32) := do
  let e := s.equipment
  let given ← v.settings?
    ["truck_kw", "truck_std", "battery_capacity", "n_batteries", "n_chargers", "max_charge_kw",
      "charge_efficiency", "planning_horizon", "initial_soc"]
  let truckKw ← setting? given "truck_kw" quantity? e.truckKw
  let truckStd ← setting? given "truck_std" quantity? e.truckStd
  let batteryCapacity ← setting? given "battery_capacity" quantity? e.batteryCapacity
  let batteries ← setting? given "n_batteries" (natBelow? (twoTo 32)) e.batteries
  let chargers ← setting? given "n_chargers" (natBelow? (twoTo 32)) e.chargers
  let maxChargeKw ← setting? given "max_charge_kw" quantity? e.maxChargeKw
  let chargeEfficiency ← setting? given "charge_efficiency" quantity? e.chargeEfficiency
  let planningHorizon ← setting? given "planning_horizon" (natBelow? (twoTo 32)) e.planningHorizon
  let initialSoc ← setting? given "initial_soc" quantity? s.initialSoc
  return { s with
    equipment :=
      { truckKw, truckStd, batteryCapacity, batteries, chargers, maxChargeKw, chargeEfficiency,
        planningHorizon }
    initialSoc }

/-- A scenario with the settings of the table `schedule`. -/
def withSchedule? (s : Scenario Float32) (v : Toml) : Option (Scenario Float32) := do
  let given ← v.settings? ["shifts"]
  let shifts ← setting? given "shifts" text? s.shifts
  return { s with shifts }

/-- A scenario with the settings of the table `tariff`. -/
def withTariff? (s : Scenario Float32) (v : Toml) : Option (Scenario Float32) := do
  let l := s.priceList
  let given ← v.settings? ["kind", "price", "hourly_prices", "regulation_rate"]
  let kind ← setting? given "kind" rateStructure? l.kind
  let price ← setting? given "price" quantity? l.price
  let hourlyPrices ← setting? given "hourly_prices" quantities? l.hourlyPrices
  let regulationRate ← setting? given "regulation_rate" quantity? l.regulationRate
  return { s with priceList := ⟨kind, price, hourlyPrices, regulationRate⟩ }

/-- A scenario from a TOML document. -/
def ofToml? (v : Toml) : Option (Scenario Float32) := do
  let given ← v.settings? ["simulation", "fleet", "schedule", "tariff"]
  let s ← setting? given "simulation" baseline.withSimulation? baseline
  let s ← setting? given "fleet" s.withFleet? s
  let s ← setting? given "schedule" s.withSchedule? s
  setting? given "tariff" s.withTariff? s

/-- Reads the text of a scenario file. -/
def ofText (text : String) : Except Scenario.Error (Scenario Float32) :=
  match (Toml.parse text.toList).bind ofToml? with
  | some scenario => .ok scenario
  | none => .error .malformed

end Scenario

end TruckDepot
