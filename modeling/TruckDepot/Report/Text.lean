import TruckDepot.Decimal.Fixed
import TruckDepot.Report.Summary
import TruckDepot.Week.Text

/-!
# Reports as text

The record of an hour is one line in columns, and the summary of a run is a short block of lines.
-/

namespace TruckDepot

open Decimal Text

/-- A quantity with some decimal places, filled up to a width. -/
def quantityColumn (width places : Nat) (x : Float32) : String :=
  alignRight width (fixed places x)

/-- The line of an hour. -/
def HourRecord.line (r : HourRecord Float32) : String :=
  "t=" ++ alignRight 3 (toString r.step) ++ " (" ++ r.slot.text ++ ") " ++
    (if r.shiftChanged then "*" else " ") ++
    " trucks=" ++ alignRight 2 (toString r.trucks) ++
    " | used=" ++ quantityColumn 6 2 r.usage ++
    " kWh  borrowed=" ++ quantityColumn 5 2 r.borrowed ++
    " | in trucks=" ++ quantityColumn 6 1 r.energyInUse ++
    "/" ++ quantityColumn 6 1 r.capacityInUse ++
    "  charging=" ++ quantityColumn 7 1 r.energyCharging ++
    " | stored=" ++ quantityColumn 5 2 r.stored ++
    "  drawn=" ++ quantityColumn 5 2 r.drawn ++
    " kWh @ " ++ fixed 3 r.price ++ " [" ++ r.rateStructure.name ++ "]"

/-- The lines of a summary. -/
def Summary.lines (s : Summary Float32) : List String :=
  ["--- KPI Report ---",
    "Truck usage:           " ++ fixed 2 s.usage ++ " kWh",
    "Grid draw:             " ++ fixed 2 s.drawn ++ " kWh (" ++ fixed 2 s.stored ++ " stored, " ++
      fixed 1 (s.efficiency * 100) ++ "% efficient)",
    "Peak hourly draw:      " ++ fixed 2 s.peakDraw ++ " kWh",
    "Charging cost:         $" ++ fixed 2 s.cost,
    "Shift changes:         " ++ toString s.shiftChanges,
    "Shortfalls:            " ++ toString s.shortfalls ++ " (" ++ fixed 2 s.borrowed ++
      " kWh borrowed)",
    "Lowest charging pool:  " ++ fixed 2 s.lowestCharging ++ " kWh"]

/-- A summary as one text. -/
def Summary.text (s : Summary Float32) : String :=
  String.intercalate "\n" s.lines

end TruckDepot
