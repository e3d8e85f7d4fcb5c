import TruckDepot.Week
import TruckDepot.Text.Column

/-!
# Slots as text

A slot is written as a short day name and an hour, `Mon 08:00`. A day beyond Saturday has no name.
-/

namespace TruckDepot.Slot

/-- Short day names, Sunday first. -/
def dayNames : List String :=
  ["Sun", "Mon", "Tue", "Wed", "Thu", "Fri", "Sat"]

/-- The slot as text, without wrapping its day or its hour. -/
def text (s : Slot) : String :=
  let day := dayNames[s.day.toNat - 1]?.getD "???"
  day ++ " " ++ Text.twoDigits s.hour.toNat ++ ":00"

end TruckDepot.Slot
