import TruckDepot.Fleet.Exact
import TruckDepot.Proofs.Fleet.Balance
import TruckDepot.Proofs.Fleet.Charging
import TruckDepot.Proofs.Fleet.Sizing

/-!
# Charging early

A fleet that charges early is never short of energy where another with the same equipment, schedule
and noise is not (`Fleet.runHours_early_ahead`), and pays for it with what it draws.

`Fleet.Behind` is what the two fleets keep from hour to hour: the same packs are deployed, and the
one has no more energy than the other, in the trucks or off them (`Fleet.Behind.step`).
-/

namespace TruckDepot.Fleet

open Quantity TruckDepot.Random

variable {σ : Type}

/-- The fleets have the same equipment, schedule and noise and the same packs deployed, and `f` has
no more energy than `f'`. -/
structure Behind (f f' : Fleet Rat σ) : Prop where
  equipment : f.equipment = f'.equipment
  grid : f.grid = f'.grid
  source : f.source = f'.source
  currentShift : f.currentShift = f'.currentShift
  pools : f.pools.Behind f'.pools

theorem behind_create (name name' : String) (e : Equipment Rat) (g : Grid)
    {pools pools' : Pools Rat} (source : σ) (htotal : pools.total ≤ pools'.total) :
    (create name e g pools source).Behind ((create name' e g pools' source).withPolicy .early) :=
  ⟨rfl, rfl, rfl, rfl, Pools.behind_gather htotal⟩

/-! ### One hour -/

section Hour

variable {f f' : Fleet Rat σ} (h : f.Behind f')

include h

theorem Behind.deployedPools (index : Nat) :
    (f.deployedPools index).Behind (f'.deployedPools index) := by
  unfold Fleet.deployedPools
  rw [h.equipment, h.grid, h.currentShift]
  split_ifs
  · exact h.pools
  · exact Pools.behind_swap h.pools.total _ _

variable [NormalSource σ Rat] (slot : Slot) (tariff tariff' : Tariff Rat)

theorem Behind.usage : f.usage slot = f'.usage slot := by
  unfold Fleet.usage
  rw [h.equipment, h.grid, h.source]

theorem Behind.worked : (f.worked slot).pools.Behind (f'.worked slot).pools := by
  show ((f.deployedPools slot.index).discharge (f.usage slot).1).Behind
    ((f'.deployedPools slot.index).discharge (f'.usage slot).1)
  rw [h.usage]
  exact (h.deployedPools slot.index).discharge _

variable (hpower : 0 ≤ f'.equipment.chargerCapacity) (hearly : f'.policy = .early)

include hpower hearly

/-- **One hour**: whatever `f` stores, it stays `Behind` an `f'` that charges early. -/
theorem Behind.step : (f.step slot tariff).1.Behind (f'.step slot tariff').1 := by
  constructor
  · rw [step_equipment, step_equipment, h.equipment]
  · rw [step_grid, step_grid, h.grid]
  · rw [step_source, step_source, h.usage]
  · rw [step_currentShift, step_currentShift, h.grid]
  · -- the first fleet stores no more than the most that it can, the second stores the most
    rw [step_pools, step_pools, stored_of_early hpower hearly, mostStored_eq]
    have hstored : f.stored slot tariff ≤ f.mostStored slot := by
      apply stored_le_mostStored
      rwa [h.equipment]
    rw [mostStored_eq, h.equipment] at hstored
    exact (h.worked slot).store hstored

theorem Behind.record : (f.step slot tariff).2.1.Behind (f'.step slot tariff').2.1 := by
  have hpools : (f.step slot tariff).1.pools.Behind (f'.step slot tariff').1.pools :=
    (h.step slot tariff tariff' hpower hearly).pools
  rw [record_eq, record_eq]
  refine ⟨congrArg Prod.fst (h.usage slot), hpools.energyInUse, hpools.energyCharging, ?_⟩
  show (f'.deployedPools slot.index).borrowing (f'.usage slot).1 ≤
    (f.deployedPools slot.index).borrowing (f.usage slot).1
  rw [h.usage]
  exact (h.deployedPools slot.index).borrowing _

end Hour

/-! ### Many hours -/

variable [NormalSource σ Rat] {f f' : Fleet Rat σ}

/-- **Any hours**: `f` stays `Behind` an `f'` that charges early, and so does each record. -/
theorem Behind.runHours (h : f.Behind f') (hpower : 0 ≤ f'.equipment.chargerCapacity)
    (hearly : f'.policy = .early) (hours : List (Slot × Tariff Rat)) :
    (f.runHours hours).1.Behind (f'.runHours hours).1 ∧
      List.Forall₂ HourRecord.Behind (f.runHours hours).2.1 (f'.runHours hours).2.1 := by
  induction hours generalizing f f' with
  | nil => exact ⟨h, .nil⟩
  | cons hour rest ih =>
    obtain ⟨slot, tariff⟩ := hour
    have hstep := h.step slot tariff tariff hpower hearly
    have hrest := ih hstep (by rwa [step_equipment]) (by rwa [step_policy])
    rw [runHours_cons, runHours_cons, records_cons, records_cons]
    exact ⟨hrest.1, .cons (h.record slot tariff tariff hpower hearly) hrest.2⟩

/-- A fleet that ends `Behind` another, from the same `pools.total`, has drawn no more. -/
theorem Behind.drawn_le (h : f.Behind f') (hefficiency : 0 < f'.equipment.chargeEfficiency)
    (htotal : f.pools.total = f'.pools.total) {hours : List (Slot × Tariff Rat)}
    (hafter : (f.runHours hours).1.Behind (f'.runHours hours).1)
    (hrecords : List.Forall₂ HourRecord.Behind (f.runHours hours).2.1 (f'.runHours hours).2.1) :
    (Summary.ofRecords (f.runHours hours).2.1).drawn ≤
      (Summary.ofRecords (f'.runHours hours).2.1).drawn := by
  -- both use the same, so the one with more energy in the end has stored more
  have hbalance := f.total_runHours hours
  have hbalance' := f'.total_runHours hours
  have husage := (Summary.behind_ofRecords hrecords).usage
  have hle := hafter.pools.total
  rw [drawn_runHours, drawn_runHours, h.equipment]
  apply div_le_div_of_nonneg_right _ hefficiency.le
  linarith

/-- **Charging early is ahead.**  From no less energy, with the same equipment, schedule and noise,
any other policy stays `Behind` it in its batteries, its records and its figures; from the same
energy it draws no more. -/
theorem runHours_early_ahead {e : Equipment Rat} (hpower : 0 ≤ e.chargerCapacity)
    (hefficiency : 0 < e.chargeEfficiency) (g : Grid) (source : σ) (name name' : String)
    {pools pools' : Pools Rat} (htotal : pools.total ≤ pools'.total)
    (hours : List (Slot × Tariff Rat)) :
    let run := (create name e g pools source).runHours hours
    let early := ((create name' e g pools' source).withPolicy .early).runHours hours
    run.1.pools.Behind early.1.pools ∧ List.Forall₂ HourRecord.Behind run.2.1 early.2.1 ∧
      (Summary.ofRecords run.2.1).Behind (Summary.ofRecords early.2.1) ∧
      (pools.total = pools'.total →
        (Summary.ofRecords run.2.1).drawn ≤ (Summary.ofRecords early.2.1).drawn) := by
  intro run early
  have hstart := behind_create name name' e g source htotal
  have hsized :
      0 ≤ ((create name' e g pools' source).withPolicy .early).equipment.chargerCapacity :=
    Equipment.chargerCapacity_sizedFor g hpower
  obtain ⟨hafter, hrecords⟩ := hstart.runHours hsized rfl hours
  refine ⟨hafter.pools, hrecords, Summary.behind_ofRecords hrecords, ?_⟩
  intro heq
  refine hstart.drawn_le hefficiency ?_ hafter hrecords
  show pools.gather.total = pools'.gather.total
  rw [Pools.total_gather, Pools.total_gather, heq]

/-- A half charged fleet on `Grid.default` that charges by `policy`, with two recorded deviates. -/
def dockside (policy : ChargingPolicy) : Fleet Rat (List Rat) :=
  (create "Dockside" .exact Grid.default (.charged 750 (1 / 2)) [1, -1]).withPolicy policy

/-- An hour of `timeOfUse`, one paid for `regulation`, and a `flat` one. -/
def docksideHours : List (Slot × Tariff Rat) :=
  [(⟨1, 8⟩, (PriceList.timeOfUse [1 / 10, 1 / 5]).toTariff),
    (⟨1, 9⟩, (PriceList.regulation (1 / 10) (1 / 50)).toTariff),
    (⟨1, 10⟩, (PriceList.flat (1 / 10)).toTariff)]

theorem runHours_early_ahead_dockside :
    0 ≤ Equipment.exact.chargerCapacity ∧ 0 < Equipment.exact.chargeEfficiency ∧
      (dockside .deadline).pools.total ≤ (dockside .early).pools.total ∧
      List.Forall₂ HourRecord.Behind ((dockside .deadline).runHours docksideHours).2.1
        ((dockside .early).runHours docksideHours).2.1 ∧
      (Summary.ofRecords ((dockside .deadline).runHours docksideHours).2.1).drawn ≤
        (Summary.ofRecords ((dockside .early).runHours docksideHours).2.1).drawn := by
  have hpower : 0 ≤ Equipment.exact.chargerCapacity := by decide +kernel
  have hefficiency : 0 < Equipment.exact.chargeEfficiency := by decide +kernel
  obtain ⟨_, hrecords, _, hdrawn⟩ := runHours_early_ahead hpower hefficiency Grid.default
    ([1, -1] : List Rat) "Dockside" "Dockside"
    (le_refl (Pools.charged 750 (1 / 2) : Pools Rat).total) docksideHours
  exact ⟨hpower, hefficiency, le_rfl, hrecords, hdrawn rfl⟩

end TruckDepot.Fleet
