import TruckDepot.Decimal.Fixed
import TruckDepot.Fleet.Record

/-!
# Records as comma-separated values

A table of hourly records has a header line and one line for every record; each line ends with a
line feed. Quantities have four decimal places. A field is put in quotes where it could not be told
from its surroundings without them. -/

namespace TruckDepot.Csv

open Decimal

/-- The names of the columns. -/
def header : List String :=
  ["step", "day_of_week", "hour", "trucks", "shift_changed", "usage_kwh", "borrowed_kwh",
    "capacity_in_use_kwh", "energy_in_use_kwh", "energy_charging_kwh", "stored_kwh", "drawn_kwh",
    "price", "cost", "rate_structure"]

/-- A truth value as a field. -/
def truth (b : Bool) : String :=
  if b then "true" else "false"

/-- The fields of a record, in the order of the header. -/
def fields (r : HourRecord Float32) : List String :=
  [toString r.step, toString r.slot.day.toNat, toString r.slot.hour.toNat, toString r.trucks,
    truth r.shiftChanged, fixed 4 r.usage, fixed 4 r.borrowed, fixed 4 r.capacityInUse,
    fixed 4 r.energyInUse, fixed 4 r.energyCharging, fixed 4 r.stored, fixed 4 r.drawn,
    fixed 4 r.price, fixed 4 r.cost, r.rateStructure.name]

/-- The field could not be told from its surroundings: it is empty, or it holds a comma, a quote or
the end of a line. -/
def needsQuotes (field : String) : Bool :=
  field.toList.isEmpty || field.toList.any fun c => c = ',' || c = '"' || c = '\n' || c = '\r'

/-- The field in quotes, with the quotes in it doubled. -/
def quoted (field : String) : String :=
  let doubled := field.toList.flatMap fun c => if c = '"' then ['"', '"'] else [c]
  String.ofList ('"' :: doubled ++ ['"'])

/-- The field as it is written. -/
def written (field : String) : String :=
  if needsQuotes field then quoted field else field

/-- One line of the table. -/
def line (fields : List String) : String :=
  String.intercalate "," (fields.map written) ++ "\n"

/-- The table of some records. -/
def table (records : List (HourRecord Float32)) : String :=
  String.join (line header :: records.map fun r => line (fields r))

end TruckDepot.Csv
