import TruckDepot.Charging
import TruckDepot.Fleet.PlanCache
import TruckDepot.Fleet.Record
import TruckDepot.Fleet.Usage
import TruckDepot.Journal
import TruckDepot.Week.Clock

/-!
# The fleet

A fleet of battery-powered lift trucks works a weekly schedule, hour by hour. In every hour

1. batteries are swapped if the shift changed,
2. the working trucks use energy, and borrow from the other packs if theirs run out,
3. the batteries are charged: as early as possible under a flat tariff, and by the fleet's policy
   and its energy plan under every other one.

`Fleet.step` is one hour and `Fleet.run` is many. `Fleet.saved` keeps what is needed to go on later,
and `SavedState.restore` goes on.
-/

namespace TruckDepot

open Quantity TruckDepot.Random

/-- A fleet at work. `σ` is the source of the noise in its energy use. -/
structure Fleet (α σ : Type) where
  /-- Its name. -/
  name : String
  /-- Its equipment, after sizing. -/
  equipment : Equipment α
  /-- Its schedule. -/
  grid : Grid
  /-- Its batteries. -/
  pools : Pools α
  /-- Where the noise comes from. -/
  source : σ
  /-- The shift that the batteries are deployed for. -/
  currentShift : Option ShiftId
  /-- Its energy plan. -/
  planCache : PlanCache α
  /-- Its policy under tariffs that are not flat. -/
  policy : ChargingPolicy
  /-- Hours worked so far. -/
  steps : Nat
  /-- The last hour worked. -/
  lastSlot : Option Slot
  /-- The last request for regulation. -/
  regulation : α

/-- What is kept of a fleet to go on later. -/
structure SavedState (α : Type) where
  /-- Its batteries. -/
  pools : Pools α
  /-- The declarations of its schedule. -/
  tokens : List String
  /-- The next hour to work; none if the fleet never worked. -/
  resumeAt : Option Slot
  deriving DecidableEq, Repr

/-- Equipment with the batteries and chargers that a schedule needs. -/
def Equipment.sizedFor {α : Type} [Quantity α] (e : Equipment α) (g : Grid) : Equipment α :=
  { e with
    batteries := g.sizedBatteries e.truckKw e.batteryCapacity e.batteries
    chargers := g.sizedChargers e.truckKw e.maxChargeKw e.chargers }

namespace Fleet

variable {α σ : Type} [Quantity α]

/-! ### Setting up -/

/-- A fleet that has not worked yet. Its equipment is sized to the schedule, and every pack is off
the trucks. -/
def create (name : String) (equipment : Equipment α) (grid : Grid) (pools : Pools α) (source : σ) :
    Fleet α σ :=
  { name := name
    equipment := equipment.sizedFor grid
    grid := grid
    pools := pools.gather
    source := source
    currentShift := none
    planCache := .empty
    policy := .deadline
    steps := 0
    lastSlot := none
    regulation := 0 }

/-- What is noted down when a fleet is created. -/
def creationEvents (name : String) (equipment : Equipment α) (grid : Grid) (pools : Pools α) :
    List (Event α) :=
  let sized := equipment.sizedFor grid
  grid.batteryEvents equipment.truckKw equipment.batteryCapacity equipment.batteries ++
    grid.chargerEvents equipment.truckKw equipment.maxChargeKw equipment.chargers ++
    [.fleetInitialized name sized.batteries sized.chargers pools.gather.energyCharging]

/-- Puts back saved batteries as they were, deployed for the shift of the hour before the one to
go on with. -/
def resume (f : Fleet α σ) (pools : Pools α) (resumeAt : Slot) : Fleet α σ :=
  let last := Slot.ofIndex (previousHour resumeAt.index)
  { f with
    pools := pools
    currentShift := f.grid.shiftIdAt last.index
    lastSlot := some last
    planCache := .empty }

/-- Replaces the policy. -/
def withPolicy (f : Fleet α σ) (policy : ChargingPolicy) : Fleet α σ :=
  { f with policy := policy }

/-- Records a request for regulation. It does not change how the fleet charges. -/
def regulate (f : Fleet α σ) (kwh : α) : Fleet α σ :=
  { f with regulation := kwh }

/-- What is noted down for a request for regulation. -/
def regulateEvents (f : Fleet α σ) (kwh : α) : List (Event α) :=
  [.regulationRequested f.name kwh]

/-! ### One hour -/

/-- Swaps the batteries if another shift is on at an hour of the week. -/
def deploy (f : Fleet α σ) (index : Nat) : Fleet α σ :=
  let shift := f.grid.shiftIdAt index
  if shift = f.currentShift then f
  else
    { f with
      pools :=
        f.pools.swap (shift.map fun id => f.grid.trucksOf (some id)) f.equipment.batteryCapacity
      currentShift := shift }

/-- Makes sure of an energy plan under a tariff that asks for one. -/
def prepare (f : Fleet α σ) (index : Nat) (tariff : Tariff α) : Fleet α σ :=
  if tariff.rateStructure = .flat then f
  else
    { f with
      planCache :=
        f.planCache.ensure f.grid f.equipment index f.currentShift f.pools.energyCharging }

/-- What the fleet's policy may look at. -/
def chargeContext (f : Fleet α σ) (slot : Slot) (tariff : Tariff α)
    (plan : List (PlannedSegment α)) : ChargeContext α :=
  ⟨slot, f.equipment, f.pools, plan, tariff⟩

/-- Energy to store in the hour; never less than nothing. -/
def energyToStore (f : Fleet α σ) (slot : Slot) (tariff : Tariff α) : α :=
  let chosen :=
    if tariff.rateStructure = .flat then
      ChargingPolicy.early.energyToStore (f.chargeContext slot tariff [])
    else f.policy.energyToStore (f.chargeContext slot tariff f.planCache.plan)
  larger chosen 0

variable [NormalSource σ α]

/-- One hour's work: the fleet after it, its record, and what was noted down. -/
def step (f : Fleet α σ) (slot : Slot) (tariff : Tariff α) :
    Fleet α σ × HourRecord α × List (Event α) :=
  let index := slot.index
  let shift := f.grid.shiftIdAt index
  let changed := shift != f.currentShift
  let deployed := f.deploy index
  let trucks := f.grid.trucksOf shift
  let (usage, source) := sampleUsage f.equipment.truckKw f.equipment.truckStd trucks f.source
  let borrowed := deployed.pools.borrowing usage
  let worked := { deployed with pools := deployed.pools.discharge usage, source := source }
  let prepared := worked.prepare index tariff
  let stored := prepared.energyToStore slot tariff
  let pools := prepared.pools.store stored
  let drawn := stored / f.equipment.chargeEfficiency
  let price := tariff.usagePrice slot
  let record : HourRecord α :=
    { step := f.steps
      slot := slot
      trucks := trucks
      shiftChanged := changed
      usage := usage
      borrowed := borrowed
      capacityInUse := pools.capacityInUse
      energyInUse := pools.energyInUse
      energyCharging := pools.energyCharging
      stored := stored
      drawn := drawn
      price := price
      cost := drawn * price
      rateStructure := tariff.rateStructure }
  let changeEvents : List (Event α) :=
    if changed then
      [.shiftChanged f.name slot (shift.bind f.grid.shift?) deployed.pools.energyInUse]
    else []
  let shortEvents : List (Event α) :=
    if 0 < borrowed then [.ranShort f.name slot borrowed worked.pools.energyCharging] else []
  let regulationEvents : List (Event α) :=
    if tariff.rateStructure = .regulation && !isZero f.regulation then
      [.regulationNotActedOn f.name f.regulation (f.regulation * tariff.regulationRate)]
    else []
  ({ prepared with pools := pools, steps := f.steps + 1, lastSlot := some slot }, record,
    changeEvents ++ shortEvents ++ regulationEvents)

/-! ### Many hours -/

/-- Works through some hours, each under its own tariff. -/
def runHours (f : Fleet α σ) : List (Slot × Tariff α) →
    Fleet α σ × List (HourRecord α) × List (Event α)
  | [] => (f, [], [])
  | (slot, tariff) :: hours =>
    let (after, record, events) := f.step slot tariff
    let (final, records, later) := after.runHours hours
    (final, record :: records, events ++ later)

/-- Works through every hour that a clock has left, under one tariff. -/
def run (f : Fleet α σ) (clock : Clock) (tariff : Tariff α) :
    Fleet α σ × List (HourRecord α) × List (Event α) :=
  f.runHours (clock.run.1.map fun (_, slot) => (slot, tariff))

end Fleet

/-! ### Saving and going on -/

/-- What is kept of a fleet to go on later. -/
def Fleet.saved {α σ : Type} (f : Fleet α σ) : SavedState α :=
  { pools := f.pools
    tokens := f.grid.tokens
    resumeAt := f.lastSlot.map Slot.next }

namespace SavedState

variable {α σ : Type} [Quantity α]

/-- A fleet that goes on from a saved state. With an hour to go on with, the batteries come back
as they were saved; without one the fleet starts afresh with all energy off the trucks. -/
def restore (s : SavedState α) (name : String) (equipment : Equipment α) (source : σ) : Fleet α σ :=
  let fleet := Fleet.create name equipment (Grid.configure s.tokens).grid s.pools source
  match s.resumeAt with
  | none => fleet
  | some slot => fleet.resume s.pools slot

/-- What is noted down when a fleet goes on from a saved state. -/
def restoreEvents (s : SavedState α) (name : String) (equipment : Equipment α) : List (Event α) :=
  let configured := Grid.configure s.tokens
  configured.events ++ Fleet.creationEvents name equipment configured.grid s.pools ++
    match s.resumeAt with
    | none => []
    | some slot => [.fleetRestored name slot]

end SavedState

end TruckDepot
