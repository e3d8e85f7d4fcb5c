import TruckDepot.Proofs.Fleet.Charging
import TruckDepot.Proofs.Fleet.History

/-!
# Policies of any kind

A policy may be any function of what it may look at.  `Fleet.stepBy` is one hour whose charging such
a function decides on, and it is `Fleet.step` where the function is the fleet's own policy
(`Fleet.stepBy_policy`).  `Fleet.AnyAction` adds hours of this kind to what is done with a fleet:
`Fleet.performAny` is the fleet after some such actions and `Fleet.recordsAny` are their records,
the same as ever for actions that use no other policy (`Fleet.performAny_own`,
`Fleet.recordsAny_own`).

`Fleet.actAny_cases` says all that an action can be: an hour by some policy, or no hour at all.
-/

namespace TruckDepot.Fleet

open Quantity TruckDepot.Random

variable {α σ : Type} [Quantity α] [NormalSource σ α]

/-! ### One hour -/

section Hour

variable (f : Fleet α σ) (policy : ChargeContext α → α) (slot : Slot) (tariff : Tariff α)

/-- The energy that an hour stores when `policy` decides on its charging; a flat tariff asks no
policy. -/
def storedBy : α :=
  let ready := f.ready slot tariff
  let chosen :=
    if tariff.rateStructure = .flat then
      ChargingPolicy.early.energyToStore (ready.chargeContext slot tariff [])
    else policy (ready.chargeContext slot tariff ready.planCache.plan)
  larger chosen 0

/-- One hour's work by `policy`: the fleet after it and its record. -/
def stepBy : Fleet α σ × HourRecord α :=
  let stored := f.storedBy policy slot tariff
  let pools := (f.worked slot).pools.store stored
  let drawn := stored / f.equipment.chargeEfficiency
  ({ f.ready slot tariff with pools := pools, steps := f.steps + 1, lastSlot := some slot },
    { (f.step slot tariff).2.1 with
      energyCharging := pools.energyCharging
      stored := stored
      drawn := drawn
      cost := drawn * tariff.usagePrice slot })

theorem stepBy_policy : f.stepBy f.policy.energyToStore slot tariff =
    ((f.step slot tariff).1, (f.step slot tariff).2.1) := by
  -- the two hours can differ in nothing but what is stored
  have hstored : f.storedBy f.policy.energyToStore slot tariff = f.stored slot tariff := by
    unfold storedBy stored energyToStore
    rw [ready_policy]
  unfold stepBy
  dsimp only
  rw [hstored]
  refine Prod.ext ?_ ?_
  · rw [step_eq, ready_pools]
  · rw [record_eq, step_pools]

@[simp] theorem stepBy_equipment : (f.stepBy policy slot tariff).1.equipment = f.equipment :=
  f.ready_equipment slot tariff

@[simp] theorem stepBy_grid : (f.stepBy policy slot tariff).1.grid = f.grid :=
  f.ready_grid slot tariff

@[simp] theorem stepBy_source : (f.stepBy policy slot tariff).1.source = (f.usage slot).2 :=
  f.ready_source slot tariff

@[simp] theorem stepBy_currentShift :
    (f.stepBy policy slot tariff).1.currentShift = f.grid.shiftIdAt slot.index :=
  f.ready_currentShift slot tariff

@[simp] theorem stepBy_pools : (f.stepBy policy slot tariff).1.pools =
    (f.worked slot).pools.store (f.storedBy policy slot tariff) :=
  rfl

/-- Up to charging, the record of `stepBy` is that of `step`. -/
theorem record_stepBy : (f.stepBy policy slot tariff).2 =
    { (f.step slot tariff).2.1 with
      energyCharging := (f.stepBy policy slot tariff).1.pools.energyCharging
      stored := f.storedBy policy slot tariff
      drawn := f.storedBy policy slot tariff / f.equipment.chargeEfficiency
      cost := f.storedBy policy slot tariff / f.equipment.chargeEfficiency *
        tariff.usagePrice slot } :=
  rfl

end Hour

/-! ### Actions -/

/-- Something that is done with a fleet, its charging decided on by a `policy` of any kind. -/
inductive AnyAction (α : Type) where
  /-- It works by its own policy, or something else is done with it. -/
  | own (action : Action α)
  /-- It works an hour by some other policy. -/
  | workBy (policy : ChargeContext α → α) (slot : Slot) (tariff : Tariff α)

/-- The `slot` that is worked, if one is. -/
def AnyAction.slot? : AnyAction α → Option Slot
  | .own (.work slot _) => some slot
  | .own (.regulate _) => none
  | .own (.install _) => none
  | .workBy _ slot _ => some slot

/-- The fleet after one action: `stepBy` for an hour, `regulate` for a request. -/
def actAny (f : Fleet α σ) : AnyAction α → Fleet α σ
  | .own action => f.act action
  | .workBy policy slot tariff => (f.stepBy policy slot tariff).1

/-- The record of the hour that is worked, if one is, from `stepBy`. -/
def record? (f : Fleet α σ) : AnyAction α → Option (HourRecord α)
  | .own (.work slot tariff) => some (f.step slot tariff).2.1
  | .own (.regulate _) => none
  | .own (.install _) => none
  | .workBy policy slot tariff => some (f.stepBy policy slot tariff).2

/-- The fleet after `actions`. -/
def performAny (f : Fleet α σ) (actions : List (AnyAction α)) : Fleet α σ :=
  actions.foldl actAny f

/-- The records of the hours among `actions`. -/
def recordsAny (f : Fleet α σ) : List (AnyAction α) → List (HourRecord α)
  | [] => []
  | action :: rest => (f.record? action).toList ++ (f.actAny action).recordsAny rest

@[simp] theorem performAny_cons (f : Fleet α σ) (action : AnyAction α)
    (rest : List (AnyAction α)) :
    f.performAny (action :: rest) = (f.actAny action).performAny rest :=
  rfl

/-- An action is an hour, `stepBy` of some policy, or changes nothing but `policy` and
`regulation`. -/
theorem actAny_cases (f : Fleet α σ) (action : AnyAction α) :
    (action.slot? = none ∧ f.record? action = none ∧
      ∃ policy regulation, f.actAny action =
        { f with policy := policy, regulation := regulation }) ∨
    ∃ policy slot tariff, action.slot? = some slot ∧
      f.actAny action = (f.stepBy policy slot tariff).1 ∧
      f.record? action = some (f.stepBy policy slot tariff).2 := by
  cases action with
  | own action =>
    cases action with
    | work slot tariff =>
      have hstep := f.stepBy_policy slot tariff
      refine Or.inr ⟨f.policy.energyToStore, slot, tariff, rfl, ?_, ?_⟩
      · rw [hstep]
        rfl
      · rw [hstep]
        rfl
    | regulate kwh => exact Or.inl ⟨rfl, rfl, f.policy, kwh, rfl⟩
    | install policy => exact Or.inl ⟨rfl, rfl, policy, f.regulation, rfl⟩
  | workBy policy slot tariff => exact Or.inr ⟨policy, slot, tariff, rfl, rfl, rfl⟩

theorem actAny_grid (f : Fleet α σ) (action : AnyAction α) :
    (f.actAny action).grid = f.grid := by
  rcases f.actAny_cases action with
    ⟨-, -, policy, regulation, hafter⟩ | ⟨policy, slot, tariff, -, hafter, -⟩
  · rw [hafter]
  · rw [hafter, stepBy_grid]

theorem performAny_grid (f : Fleet α σ) (actions : List (AnyAction α)) :
    (f.performAny actions).grid = f.grid := by
  induction actions generalizing f with
  | nil => rfl
  | cons action rest ih => rw [performAny_cons, ih, actAny_grid]

/-! ### Actions by the fleet's own policy -/

theorem performAny_own (f : Fleet α σ) (actions : List (Action α)) :
    f.performAny (actions.map .own) = f.perform actions := by
  unfold performAny perform
  rw [List.foldl_map]
  rfl

theorem recordsAny_own (f : Fleet α σ) (actions : List (Action α)) :
    f.recordsAny (actions.map .own) = (f.hours actions).map Prod.snd := by
  induction actions generalizing f with
  | nil => rfl
  | cons action rest ih =>
    rw [List.map_cons]
    unfold recordsAny
    rw [ih]
    cases action with
    | work slot tariff => rfl
    | regulate kwh => rfl
    | install policy => rfl

end TruckDepot.Fleet
