import TruckDepot.Scenario

/-!
# Presets

Scenarios that are known by name. The baseline is also where every setting that a scenario file
leaves out comes from. -/

namespace TruckDepot

namespace Scenario

/-- A week of the default fleet on the default schedule, under one price. -/
def baseline : Scenario Float32 :=
  { name := "fleet"
    days := 7
    seed := 42
    startDay := 1
    startHour := 0
    equipment := .default
    initialSoc := 0.7
    shifts := ""
    priceList := .default }

/-- The baseline with low prices at night and high prices in the afternoon. -/
def dayNight : Scenario Float32 :=
  { baseline with priceList := .timeOfUse PriceList.dayNightPrices }

/-- The baseline with its batteries offered as regulation capacity. -/
def regulated : Scenario Float32 :=
  { baseline with priceList := .regulation 0.12 0.04 }

/-- The default schedule with a shift on Saturdays, from a Friday noon over a weekend. -/
def weekendCrew : Scenario Float32 :=
  { baseline with
    name := "weekend"
    days := 4
    startDay := 6
    startHour := 12
    shifts := "block 1 2 3 4 5 shift 8 8 8 shift 16 8 6 shift 0 8 3 block 7 shift 8 10 2" }

/-- All presets by their names. -/
def presets : List (String × Scenario Float32) :=
  [("baseline", baseline), ("time_of_use", dayNight), ("regulation", regulated),
    ("weekend_crew", weekendCrew)]

/-- The names of the presets, as a list in a text. -/
def presetNames : String :=
  String.intercalate ", " (presets.map (·.1))

/-- The preset with a name. -/
def preset? (name : String) : Option (Scenario Float32) :=
  presets.lookup name

end Scenario

end TruckDepot
