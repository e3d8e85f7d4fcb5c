import Mathlib.Tactic.Common
import TruckDepot.Fleet
import TruckDepot.Proofs.Week

/-!
# One hour, part by part

`Fleet.step` is taken apart into what the trucks use (`usage`), the fleet when its trucks have
worked (`worked`), the fleet when it decides on charging (`ready`) and what it then stores
(`stored`).  `step_eq`, `record_eq` and `events_eq` put the parts together again; the other
statements say what the hour does to one field, so that nothing else has to open `Fleet.step`.
-/

namespace TruckDepot.Fleet

open TruckDepot.Random

variable {α σ : Type} [Quantity α]

/-! ### Swapping and planning -/

section Parts

variable (f : Fleet α σ) (index : Nat) (tariff : Tariff α)

/-- The batteries when the packs of the shift at `index` are in its trucks. -/
def deployedPools : Pools α :=
  if f.grid.shiftIdAt index = f.currentShift then f.pools
  else f.pools.swap ((f.grid.shiftIdAt index).map fun id => f.grid.trucksOf (some id))
    f.equipment.batteryCapacity

/-- `deploy` touches `pools` and `currentShift`, and nothing else. -/
theorem deploy_eq : f.deploy index =
    { f with pools := f.deployedPools index, currentShift := f.grid.shiftIdAt index } := by
  unfold deploy deployedPools
  dsimp only
  split_ifs with h
  · rw [h]
  · rfl

/-- `prepare` touches `planCache` and nothing else. -/
theorem prepare_eq : ∃ planCache, f.prepare index tariff = { f with planCache := planCache } := by
  unfold prepare
  split_ifs
  · exact ⟨f.planCache, rfl⟩
  · exact ⟨_, rfl⟩

/-- A tariff that is not flat asks for a plan by `ensure`. -/
theorem prepare_planCache (h : tariff.rateStructure ≠ .flat) :
    (f.prepare index tariff).planCache =
      f.planCache.ensure f.grid f.equipment index f.currentShift f.pools.energyCharging := by
  unfold prepare
  rw [if_neg h]

end Parts

variable [NormalSource σ α] (f : Fleet α σ) (slot : Slot) (tariff : Tariff α)

/-! ### The parts of an hour -/

/-- What the trucks use in the hour of `slot` (`sampleUsage`), and the source of noise after it. -/
def usage : α × σ :=
  sampleUsage f.equipment.truckKw f.equipment.truckStd (f.grid.trucksAt slot.index) f.source

/-- The fleet when its trucks have worked for the hour: its packs after `deployedPools` and
`discharge`. -/
def worked : Fleet α σ :=
  { f with
    pools := (f.deployedPools slot.index).discharge (f.usage slot).1
    source := (f.usage slot).2
    currentShift := f.grid.shiftIdAt slot.index }

/-- The fleet when it decides how much to charge in the hour: `worked`, and after `prepare`. -/
def ready : Fleet α σ :=
  (f.worked slot).prepare slot.index tariff

/-- The energy that is stored in the hour: `energyToStore` of the fleet that is `ready`. -/
def stored : α :=
  (f.ready slot tariff).energyToStore slot tariff

theorem step_eq : (f.step slot tariff).1 =
    { f.ready slot tariff with
      pools := (f.ready slot tariff).pools.store (f.stored slot tariff)
      steps := f.steps + 1
      lastSlot := some slot } := by
  unfold step
  dsimp only
  rw [deploy_eq]
  rfl

theorem record_eq : (f.step slot tariff).2.1 =
    { step := f.steps
      slot := slot
      trucks := f.grid.trucksAt slot.index
      shiftChanged := f.grid.shiftIdAt slot.index != f.currentShift
      usage := (f.usage slot).1
      borrowed := (f.deployedPools slot.index).borrowing (f.usage slot).1
      capacityInUse := (f.step slot tariff).1.pools.capacityInUse
      energyInUse := (f.step slot tariff).1.pools.energyInUse
      energyCharging := (f.step slot tariff).1.pools.energyCharging
      stored := f.stored slot tariff
      drawn := f.stored slot tariff / f.equipment.chargeEfficiency
      price := tariff.usagePrice slot
      cost := f.stored slot tariff / f.equipment.chargeEfficiency * tariff.usagePrice slot
      rateStructure := tariff.rateStructure } := by
  rw [step_eq]
  unfold step
  dsimp only
  rw [deploy_eq]
  rfl

/-- The events of an hour do not depend on what is `stored`. -/
theorem events_eq : (f.step slot tariff).2.2 =
    (if f.grid.shiftIdAt slot.index = f.currentShift then []
      else
        [.shiftChanged f.name slot (f.grid.shiftAt slot.index)
          (f.deployedPools slot.index).energyInUse]) ++
    (if 0 < (f.deployedPools slot.index).borrowing (f.usage slot).1 then
        [.ranShort f.name slot ((f.deployedPools slot.index).borrowing (f.usage slot).1)
          (f.worked slot).pools.energyCharging]
      else []) ++
    (if tariff.rateStructure = .regulation && !Quantity.isZero f.regulation then
        [.regulationNotActedOn f.name f.regulation (f.regulation * tariff.regulationRate)]
      else []) := by
  unfold step
  dsimp only
  rw [deploy_eq]
  simp only [bne_iff_ne, ite_not]
  rfl

/-! ### When the fleet decides -/

theorem ready_eq :
    ∃ planCache, f.ready slot tariff = { f.worked slot with planCache := planCache } :=
  (f.worked slot).prepare_eq slot.index tariff

@[simp] theorem ready_equipment : (f.ready slot tariff).equipment = f.equipment := by
  obtain ⟨_, h⟩ := f.ready_eq slot tariff
  rw [h]
  rfl

@[simp] theorem ready_grid : (f.ready slot tariff).grid = f.grid := by
  obtain ⟨_, h⟩ := f.ready_eq slot tariff
  rw [h]
  rfl

@[simp] theorem ready_policy : (f.ready slot tariff).policy = f.policy := by
  obtain ⟨_, h⟩ := f.ready_eq slot tariff
  rw [h]
  rfl

@[simp] theorem ready_source : (f.ready slot tariff).source = (f.usage slot).2 := by
  obtain ⟨_, h⟩ := f.ready_eq slot tariff
  rw [h]
  rfl

@[simp] theorem ready_currentShift :
    (f.ready slot tariff).currentShift = f.grid.shiftIdAt slot.index := by
  obtain ⟨_, h⟩ := f.ready_eq slot tariff
  rw [h]
  rfl

@[simp] theorem ready_pools : (f.ready slot tariff).pools = (f.worked slot).pools := by
  obtain ⟨_, h⟩ := f.ready_eq slot tariff
  rw [h]

/-- Unless the tariff is flat, the plan is the one that `ensure` gives for the hour. -/
theorem ready_planCache (h : tariff.rateStructure ≠ .flat) :
    (f.ready slot tariff).planCache =
      f.planCache.ensure f.grid f.equipment slot.index (f.grid.shiftIdAt slot.index)
        (f.worked slot).pools.energyCharging :=
  (f.worked slot).prepare_planCache slot.index tariff h

/-- A flat tariff leaves `planCache` alone. -/
theorem ready_planCache_of_flat (h : tariff.rateStructure = .flat) :
    (f.ready slot tariff).planCache = f.planCache := by
  unfold ready prepare
  rw [if_pos h]
  rfl

/-! ### After the hour -/

@[simp] theorem step_equipment : (f.step slot tariff).1.equipment = f.equipment := by
  rw [step_eq]
  exact f.ready_equipment slot tariff

@[simp] theorem step_grid : (f.step slot tariff).1.grid = f.grid := by
  rw [step_eq]
  exact f.ready_grid slot tariff

@[simp] theorem step_policy : (f.step slot tariff).1.policy = f.policy := by
  rw [step_eq]
  exact f.ready_policy slot tariff

@[simp] theorem step_source : (f.step slot tariff).1.source = (f.usage slot).2 := by
  rw [step_eq]
  exact f.ready_source slot tariff

@[simp] theorem step_currentShift :
    (f.step slot tariff).1.currentShift = f.grid.shiftIdAt slot.index := by
  rw [step_eq]
  exact f.ready_currentShift slot tariff

@[simp] theorem step_planCache :
    (f.step slot tariff).1.planCache = (f.ready slot tariff).planCache := by
  rw [step_eq]

@[simp] theorem step_steps : (f.step slot tariff).1.steps = f.steps + 1 :=
  rfl

@[simp] theorem step_lastSlot : (f.step slot tariff).1.lastSlot = some slot :=
  rfl

@[simp] theorem step_pools :
    (f.step slot tariff).1.pools = (f.worked slot).pools.store (f.stored slot tariff) := by
  rw [step_eq, ready_pools]

/-! ### Hour by hour -/

variable (hours : List (Slot × Tariff α))

theorem runHours_cons : (f.runHours ((slot, tariff) :: hours)).1 =
    ((f.step slot tariff).1.runHours hours).1 :=
  rfl

theorem records_cons : (f.runHours ((slot, tariff) :: hours)).2.1 =
    (f.step slot tariff).2.1 :: ((f.step slot tariff).1.runHours hours).2.1 :=
  rfl

/-- What holds of the record of every hour with the same `equipment` holds of all records of a
run. -/
theorem forall_mem_records {P : HourRecord α → Prop} (f : Fleet α σ)
    (h : ∀ (g : Fleet α σ) slot tariff, g.equipment = f.equipment → P (g.step slot tariff).2.1)
    (hours : List (Slot × Tariff α)) : ∀ r ∈ (f.runHours hours).2.1, P r := by
  induction hours generalizing f with
  | nil => exact fun r hr => absurd hr List.not_mem_nil
  | cons hour rest ih =>
    obtain ⟨slot, tariff⟩ := hour
    intro r hr
    rw [records_cons] at hr
    rcases List.mem_cons.mp hr with rfl | hrest
    · exact h f slot tariff rfl
    · refine ih (f.step slot tariff).1 ?_ r hrest
      intro g slot' tariff' hg
      exact h g slot' tariff' (hg.trans (f.step_equipment slot tariff))

end TruckDepot.Fleet
