import TruckDepot.Scenario.Preset

/-!
# Help

The text that explains the command line.
-/

namespace TruckDepot.Command

/-- The lines of the help text. -/
def helpLines : List String :=
  ["lift-truck-sim: battery and charging simulator for electric lift-truck fleets",
    "",
    "Usage: lift-truck-sim [OPTIONS]",
    "",
    "Options:",
    "  --scenario <path>        Load scenario from TOML config file",
    "  --preset <name>          Use a built-in preset (" ++ Scenario.presetNames ++ ")",
    "  --seed <u64>             Override random seed",
    "  --days <n>               Override number of simulated days",
    "  --telemetry-out <path>   Export step results to CSV",
    "  --bootstrap-in <path>    Resume from a saved fleet state (JSON)",
    "  --bootstrap-out <path>   Save the final fleet state (JSON)",
    "  --help                   Show this help message",
    "",
    "If no --scenario or --preset is given, the baseline preset is used.",
    "Log verbosity follows RUST_LOG (default: lift_truck_sim=info)."]

end TruckDepot.Command
