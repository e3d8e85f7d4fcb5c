import TruckDepot.Command.Arguments
import TruckDepot.Command.Help
import TruckDepot.Command.Host
import TruckDepot.Fleet.SavedText
import TruckDepot.Report.Csv
import TruckDepot.Report.Text
import TruckDepot.Scenario.Settings

/-!
# The command

A run takes a scenario, overrides its seed and its days, and checks its limits; it makes a fleet
or goes on from a saved one, works all hours, and prints a line for every hour and a summary. Only
then are files written: the records first, the fleet second. The first thing that fails ends the
run. -/

namespace TruckDepot.Command

open TruckDepot.Random

/-- Why a run ends early. -/
inductive Failure where
  /-- The arguments make no sense. -/
  | arguments (error : ArgumentError)
  /-- There is no scenario to run. -/
  | scenario (error : Scenario.Error)
  /-- The scenario does not keep its limits. -/
  | invalid (violations : List Violation)
  /-- The run cannot be planned. -/
  | plan (error : RunPlan.Error)
  /-- The file of a saved fleet cannot be read or written. -/
  | savedFile (reason : String)
  /-- A text is no saved fleet. -/
  | savedText
  /-- The records cannot be written. -/
  | telemetry (reason : String)
  deriving DecidableEq, Repr

namespace Failure

/-- An error as a line. -/
def errorLine (message : String) : String :=
  "error: " ++ message

/-- What is printed about a failure. -/
def lines : Failure → List String
  | .arguments (.unknown argument) =>
    errorLine (ArgumentError.unknown argument).message :: helpLines
  | .arguments error => [errorLine error.message]
  | .scenario error => [error.text]
  | .invalid violations => violations.map fun violation => (Scenario.Error.invalid violation).text
  | .plan error => [errorLine error.message]
  | .savedFile reason => [errorLine ("failed to access bootstrap file: " ++ reason)]
  | .savedText => [errorLine "invalid bootstrap data: not a saved fleet"]
  | .telemetry reason => [errorLine ("failed to write CSV: " ++ reason)]

end Failure

/-! ### Without the world -/

/-- A scenario with the seed and the days that a run asks for. -/
def Options.override {α : Type} (o : Options) (s : Scenario α) : Scenario α :=
  { s with seed := o.seed.getD s.seed, days := o.days.getD s.days }

/-- A scenario that keeps its limits, and its plan. -/
def checkedPlan {α : Type} [Quantity α] (s : Scenario α) : Except Failure RunPlan :=
  match s.violations with
  | [] => s.plan.mapError .plan
  | violations => .error (.invalid violations)

/-- The saved fleet of a text. -/
def savedOfText (text : String) : Except Failure (SavedState Float32) :=
  match SavedState.ofText? text with
  | some saved => .ok saved
  | none => .error .savedText

/-- The fleet to run and its first hour: that of the scenario, or a saved one that goes on with the
equipment of the scenario. -/
def fleetToRun {σ : Type} (s : Scenario Float32) (plan : RunPlan) (source : σ)
    (saved : Option (SavedState Float32)) : Fleet Float32 σ × Slot :=
  match saved with
  | none => (s.createFleet source, plan.start)
  | some saved => (saved.restore s.name s.equipment source, saved.resumeAt.getD plan.start)

/-- The lines that a run prints. -/
def resultLines (records : List (HourRecord Float32)) : List String :=
  records.map HourRecord.line ++ ["", (Summary.ofRecords records).text]

/-! ### In the world -/

section

variable {m : Type → Type} [Monad m]

/-- The scenario that a run asks for, as it is given. -/
def Options.loadScenario (host : Host m) (o : Options) :
    ExceptT Failure m (Scenario Float32) := do
  match o.scenario, o.preset with
  | some path, _ =>
    match ← host.readFile path with
    | .ok text => ExceptT.mk (pure ((Scenario.ofText text).mapError .scenario))
    | .error reason => throw (.scenario (.unreadable path reason))
  | none, some name => ExceptT.mk (pure ((Scenario.ofPreset name).mapError .scenario))
  | none, none => pure Scenario.baseline

/-- The saved fleet that a run asks for, if it does. -/
def Options.loadSaved (host : Host m) (o : Options) :
    ExceptT Failure m (Option (SavedState Float32)) := do
  match o.bootstrapIn with
  | none => pure none
  | some path =>
    match ← host.readFile path with
    | .ok text => some <$> ExceptT.mk (pure (savedOfText text))
    | .error reason => throw (.savedFile reason)

/-- Writes a file that a run asks for, if it does, and says so. -/
def writeRequested (host : Host m) (path : Option String) (text what : String)
    (failure : String → Failure) : ExceptT Failure m Unit := do
  match path with
  | none => pure ()
  | some path =>
    match ← host.writeFile path text with
    | .ok () => host.report (what ++ " written to " ++ path)
    | .error reason => throw (failure reason)

/-- A run. -/
def Options.run (host : Host m) (o : Options) : ExceptT Failure m Unit := do
  let scenario := o.override (← o.loadScenario host)
  let plan ← ExceptT.mk (pure (checkedPlan scenario))
  let saved ← o.loadSaved host
  let (fleet, start) := fleetToRun scenario plan (Stream.ofSeed plan.seed) saved
  let (fleet, records, _) := fleet.run (.starting start plan.hours) scenario.priceList.toTariff
  ((resultLines records).forM host.print : m Unit)
  writeRequested host o.telemetryOut (Csv.table records) "Telemetry" .telemetry
  writeRequested host o.bootstrapOut fleet.saved.text "Bootstrap state" .savedFile

/-- Does what is asked for. -/
def Request.perform (host : Host m) : Request → ExceptT Failure m Unit
  | .help => (helpLines.forM host.report : m Unit)
  | .run options => options.run host

/-- The command: `true` if nothing failed. -/
def command (host : Host m) (arguments : List String) : m Bool := do
  let outcome ← ExceptT.run do
    let request ← ExceptT.mk (pure ((Request.ofArguments arguments).mapError Failure.arguments))
    request.perform host
  match outcome with
  | .ok () => pure true
  | .error failure =>
    failure.lines.forM host.report
    pure false

end

end TruckDepot.Command
