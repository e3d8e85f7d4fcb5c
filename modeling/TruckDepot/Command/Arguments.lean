import TruckDepot.Text.Integer

/-!
# Command line arguments

The command takes flags, each followed by its value, in any order; of a flag that is given twice
the last value counts. Values are checked when they are read, so the first mistake on the line is
the one that is reported, and a request for help ends the reading. -/

namespace TruckDepot.Command

/-- A flag that is followed by a value. -/
inductive Flag where
  /-- A scenario file to run. -/
  | scenario
  /-- A preset to run. -/
  | preset
  /-- The seed of the noise. -/
  | seed
  /-- Days to work. -/
  | days
  /-- A file for the records of the run. -/
  | telemetryOut
  /-- A file with a saved fleet to go on from. -/
  | bootstrapIn
  /-- A file for the fleet after the run. -/
  | bootstrapOut
  deriving DecidableEq, Repr

namespace Flag

/-- Every flag. -/
def all : List Flag :=
  [.scenario, .preset, .seed, .days, .telemetryOut, .bootstrapIn, .bootstrapOut]

/-- How a flag is written. -/
def name : Flag → String
  | .scenario => "--scenario"
  | .preset => "--preset"
  | .seed => "--seed"
  | .days => "--days"
  | .telemetryOut => "--telemetry-out"
  | .bootstrapIn => "--bootstrap-in"
  | .bootstrapOut => "--bootstrap-out"

/-- What its value is. -/
def valueKind : Flag → String
  | .preset => "name"
  | .seed => "u64"
  | .days => "count"
  | _ => "path"

/-- The flag that is written in some way. -/
def ofName? (s : String) : Option Flag :=
  all.find? (·.name = s)

end Flag

/-- What is wrong with the arguments. -/
inductive ArgumentError where
  /-- An argument is no flag. -/
  | unknown (argument : String)
  /-- The value of the last flag is missing. -/
  | missingValue (flag : Flag)
  /-- A seed is no 64-bit word. -/
  | badSeed (value : String)
  /-- A number of days is not positive. -/
  | badDays (value : String)
  deriving DecidableEq, Repr

/-- The wording of an error. -/
def ArgumentError.message : ArgumentError → String
  | .unknown argument => "unknown argument \"" ++ argument ++ "\""
  | .missingValue flag => flag.name ++ " requires a " ++ flag.valueKind ++ " argument"
  | .badSeed value => "--seed value \"" ++ value ++ "\" is not a valid u64"
  | .badDays value => "--days value \"" ++ value ++ "\" is not a positive integer"

/-- What a run is asked to do. -/
structure Options where
  /-- The scenario file to run. -/
  scenario : Option String
  /-- The preset to run where there is no scenario file. -/
  preset : Option String
  /-- The seed, in place of that of the scenario. -/
  seed : Option UInt64
  /-- Days to work, in place of those of the scenario. -/
  days : Option Nat
  /-- Where the records go. -/
  telemetryOut : Option String
  /-- Where the fleet to go on from is. -/
  bootstrapIn : Option String
  /-- Where the fleet goes after the run. -/
  bootstrapOut : Option String
  deriving DecidableEq, Repr

/-- What the command is asked for. -/
inductive Request where
  /-- Help. -/
  | help
  /-- A run. -/
  | run (options : Options)
  deriving DecidableEq, Repr

namespace Options

/-- A run of the baseline as it is. -/
def plain : Options :=
  ⟨none, none, none, none, none, none, none⟩

/-- Takes a flag with its value. -/
def set (o : Options) (flag : Flag) (value : String) : Except ArgumentError Options :=
  match flag with
  | .scenario => .ok { o with scenario := some value }
  | .preset => .ok { o with preset := some value }
  | .seed =>
    match Text.unsigned64? value with
    | some seed => .ok { o with seed := some (UInt64.ofNat seed) }
    | none => .error (.badSeed value)
  | .days =>
    match Text.unsigned64? value with
    | some (days + 1) => .ok { o with days := some (days + 1) }
    | _ => .error (.badDays value)
  | .telemetryOut => .ok { o with telemetryOut := some value }
  | .bootstrapIn => .ok { o with bootstrapIn := some value }
  | .bootstrapOut => .ok { o with bootstrapOut := some value }

/-- Reads the arguments that are left. -/
def read (o : Options) : List String → Except ArgumentError Request
  | [] => .ok (.run o)
  | argument :: rest =>
    if argument = "--help" ∨ argument = "-h" then .ok .help
    else
      match Flag.ofName? argument, rest with
      | none, _ => .error (.unknown argument)
      | some flag, [] => .error (.missingValue flag)
      | some flag, value :: rest =>
        match o.set flag value with
        | .ok o => o.read rest
        | .error e => .error e

end Options

/-- Reads the arguments of the command. -/
def Request.ofArguments (arguments : List String) : Except ArgumentError Request :=
  Options.plain.read arguments

end TruckDepot.Command
