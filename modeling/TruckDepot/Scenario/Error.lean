import TruckDepot.Scenario.Preset
import TruckDepot.Scenario.Validation

/-!
# Errors about scenarios

Why a scenario cannot be had or cannot be run. Every error points to a field.
-/

namespace TruckDepot

/-- Why a scenario cannot be had or cannot be run. -/
inductive Scenario.Error where
  /-- No preset has the name. -/
  | unknownPreset (name : String)
  /-- The file cannot be read. -/
  | unreadable (path reason : String)
  /-- The text describes no scenario. -/
  | malformed
  /-- The scenario does not keep a limit. -/
  | invalid (violation : Violation)
  deriving DecidableEq, Repr

namespace Scenario.Error

/-- The field that an error points to. -/
def field : Scenario.Error → String
  | .unknownPreset _ => "preset"
  | .unreadable _ _ => "scenario"
  | .malformed => "toml"
  | .invalid violation => violation.field

/-- What is wrong with the field. -/
def message : Scenario.Error → String
  | .unknownPreset name =>
    "unknown preset \"" ++ name ++ "\", available: " ++ presetNames
  | .unreadable path reason => "cannot read \"" ++ path ++ "\": " ++ reason
  | .malformed => "not a scenario"
  | .invalid violation => violation.message

/-- The wording of an error. -/
def text (e : Scenario.Error) : String :=
  "config error: " ++ e.field ++ ": " ++ e.message

end Scenario.Error

/-- The scenario of a preset. -/
def Scenario.ofPreset (name : String) : Except Scenario.Error (Scenario Float32) :=
  match Scenario.preset? name with
  | some scenario => .ok scenario
  | none => .error (.unknownPreset name)

end TruckDepot
