import TruckDepot.Fleet
import TruckDepot.RunPlan
import TruckDepot.Tariff
import TruckDepot.Text.Blank

/-!
# Scenarios

A scenario is everything a run starts from: the frame of the run, the equipment of the fleet and
how far its batteries are charged, the declarations of its shifts, and the price list it is billed
by. -/

namespace TruckDepot

/-- What a run starts from. -/
structure Scenario (α : Type) where
  /-- Name of the fleet. -/
  name : String
  /-- Days to work. -/
  days : Nat
  /-- Seed of the noise. -/
  seed : UInt64
  /-- Day of the week of the first hour. -/
  startDay : UInt8
  /-- Hour of day of the first hour. -/
  startHour : UInt8
  /-- Equipment of the fleet, before sizing. -/
  equipment : Equipment α
  /-- Part of its capacity that every battery is charged to at the start. -/
  initialSoc : α
  /-- Declarations of the shifts, separated by blanks. -/
  shifts : String
  /-- What energy costs. -/
  priceList : PriceList α
  deriving DecidableEq, Repr

namespace Scenario

variable {α : Type}

/-- The declarations of the shifts. -/
def tokens (s : Scenario α) : List String :=
  Text.words s.shifts

/-- The schedule, and what happened when it was made ready. -/
def schedule (s : Scenario α) : Grid.Configured :=
  Grid.configure s.tokens

/-- The first hour. -/
def start (s : Scenario α) : Slot :=
  Slot.wrapped ⟨s.startDay, s.startHour⟩

/-- The frame of the run. -/
def plan (s : Scenario α) : Except RunPlan.Error RunPlan :=
  RunPlan.ofDays s.days s.seed s.start

variable [Quantity α]

/-- The batteries at the start: all off the trucks, all charged to the same part. -/
def initialPools (s : Scenario α) : Pools α :=
  .charged s.equipment.totalCapacity s.initialSoc

/-- The fleet of the scenario. -/
def createFleet {σ : Type} (s : Scenario α) (source : σ) : Fleet α σ :=
  .create s.name s.equipment s.schedule.grid s.initialPools source

/-- What is noted down when the fleet of the scenario is created. -/
def creationEvents (s : Scenario α) : List (Event α) :=
  s.schedule.events ++
    Fleet.creationEvents s.name s.equipment s.schedule.grid s.initialPools

end Scenario

end TruckDepot
