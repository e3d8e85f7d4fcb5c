import TruckDepot.Journal
import TruckDepot.Decimal.Fixed
import TruckDepot.Week.Text

/-!
# The wording of the journal

An event is shown as a level, a message and named fields.
-/

namespace TruckDepot

/-- How urgent an event is. -/
inductive Level where
  /-- Something is wrong. -/
  | error
  /-- Something needs attention. -/
  | warn
  /-- Something happened. -/
  | info
  /-- Something happened that matters in detail only. -/
  | debug
  deriving DecidableEq, Repr

/-- The name of a level. -/
def Level.name : Level → String
  | .error => "ERROR"
  | .warn => "WARN"
  | .info => "INFO"
  | .debug => "DEBUG"

/-- The value of a field. -/
inductive Field where
  /-- A quantity. -/
  | quantity (value : Float32)
  /-- A count. -/
  | count (value : Nat)
  /-- A text. -/
  | text (value : String)

namespace Event

/-- The level of an event. -/
def level {α : Type} : Event α → Level
  | .declarationRejected _ => .error
  | .defaultSchedule => .info
  | .notEnoughBatteries _ _ => .error
  | .addingBatteries _ => .warn
  | .insufficientCharging _ _ => .error
  | .addingChargers _ => .warn
  | .fleetInitialized _ _ _ _ => .info
  | .fleetRestored _ _ => .info
  | .regulationRequested _ _ => .debug
  | .shiftChanged _ _ _ _ => .debug
  | .ranShort _ _ _ _ => .warn
  | .regulationNotActedOn _ _ _ => .debug

/-- The message of an event. -/
def message : Event Float32 → String
  | .declarationRejected rejection => "shift schedule config error: " ++ rejection.message
  | .defaultSchedule => "no shifts scheduled, using the default schedule"
  | .notEnoughBatteries batteries required =>
    "not enough batteries (" ++ toString batteries ++ ") for the shift schedule, need " ++
      toString required
  | .addingBatteries count => "adding " ++ toString count ++ " batteries"
  | .insufficientCharging supply needed =>
    "insufficient charging capacity: have " ++ Decimal.fixed 1 supply ++ " kWh/day, need " ++
      Decimal.fixed 1 needed ++ " kWh/day"
  | .addingChargers count => "adding " ++ toString count ++ " chargers"
  | .fleetInitialized _ _ _ _ => "fleet initialized"
  | .fleetRestored _ _ => "fleet state restored"
  | .regulationRequested _ _ => "regulation request"
  | .shiftChanged _ _ _ _ => "shift change"
  | .ranShort _ _ _ _ => "trucks ran short of energy"
  | .regulationNotActedOn _ _ _ => "regulation request not acted on"

/-- A shift that may be absent, as a field. -/
def shiftText : Option Shift → String
  | none => "None"
  | some shift => "Some(\"" ++ shift.text ++ "\")"

/-- The fields of an event. -/
def fields : Event Float32 → List (String × Field)
  | .fleetInitialized fleet batteries chargers stored =>
    [("fleet", .text fleet), ("batteries", .count batteries), ("chargers", .count chargers),
      ("stored_kwh", .quantity stored)]
  | .fleetRestored fleet resumeAt =>
    [("fleet", .text fleet), ("resume_at", .text resumeAt.text)]
  | .regulationRequested fleet kwh => [("fleet", .text fleet), ("kwh", .quantity kwh)]
  | .shiftChanged fleet slot shift inUse =>
    [("fleet", .text fleet), ("slot", .text slot.text), ("shift", .text (shiftText shift)),
      ("in_use_kwh", .quantity inUse)]
  | .ranShort fleet slot borrowed charging =>
    [("fleet", .text fleet), ("slot", .text slot.text), ("borrowed_kwh", .quantity borrowed),
      ("energy_charging", .quantity charging)]
  | .regulationNotActedOn fleet kwh credit =>
    [("fleet", .text fleet), ("kwh", .quantity kwh), ("credit", .quantity credit)]
  | _ => []

end Event

end TruckDepot
