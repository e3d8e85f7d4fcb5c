import TruckDepot.Week

/-!
# Run plans

What a run needs to know besides its fleet: how many days it takes, where its noise starts and at
which hour of the week. A run takes at least one day. -/

namespace TruckDepot

/-- The frame of a run. -/
structure RunPlan where
  /-- Days to work. -/
  days : Nat
  /-- Seed of the noise. -/
  seed : UInt64
  /-- The first hour. -/
  start : Slot
  /-- There is a day to work. -/
  days_pos : 0 < days
  deriving Repr

namespace RunPlan

/-- Why no run can be planned. -/
inductive Error where
  /-- There is no day to work. -/
  | noDays
  deriving DecidableEq, Repr

/-- The wording of an error. -/
def Error.message : Error → String
  | .noDays => "days must be > 0"

/-- Plans a run. -/
def ofDays (days : Nat) (seed : UInt64) (start : Slot) : Except Error RunPlan :=
  if h : 0 < days then .ok ⟨days, seed, start, h⟩ else .error .noDays

/-- Hours to work in all. -/
def hours (p : RunPlan) : Nat :=
  p.days * hoursPerDay

end RunPlan

end TruckDepot
