import Mathlib.Tactic.FieldSimp
import TruckDepot.Fleet.Exact
import TruckDepot.Proofs.Fleet.Charging
import TruckDepot.Proofs.Report.Summary

/-!
# The balance of a run, in exact numbers

The books of a run close (`Fleet.runHours_balance`).  What the run stores goes into the batteries
and what its trucks use comes out of them (`Fleet.total_runHours`), since neither a swap nor what
the trucks borrow changes the energy in all packs; and what it draws is what it stores over the
efficiency of charging (`Fleet.drawn_runHours`).
-/

namespace TruckDepot.Fleet

open Quantity TruckDepot.Random

variable {σ : Type} (f : Fleet Rat σ)

/-! ### One hour -/

@[simp] theorem total_deployedPools (index : Nat) :
    (f.deployedPools index).total = f.pools.total := by
  unfold deployedPools
  split_ifs
  · rfl
  · exact f.pools.total_swap _ _

variable [NormalSource σ Rat] (slot : Slot) (tariff : Tariff Rat)

theorem usage_nonneg : 0 ≤ (f.usage slot).1 := by
  unfold usage sampleUsage
  split_ifs
  · exact le_rfl
  · show 0 ≤ larger _ 0
    rw [larger_eq_max]
    exact le_max_right _ _

theorem total_worked : (f.worked slot).pools.total = f.pools.total - (f.usage slot).1 := by
  show ((f.deployedPools slot.index).discharge (f.usage slot).1).total = _
  rw [Pools.total_discharge, total_deployedPools]

/-- An hour adds what it `stored` to `pools.total` and takes out its `usage`. -/
theorem total_step : (f.step slot tariff).1.pools.total =
    f.pools.total + (f.step slot tariff).2.1.stored - (f.step slot tariff).2.1.usage := by
  rw [record_eq, step_pools, Pools.total_store, total_worked]
  ring

theorem drawn_step : (f.step slot tariff).2.1.drawn =
    (f.step slot tariff).2.1.stored / f.equipment.chargeEfficiency := by
  rw [record_eq]

variable {f}

theorem drawn_step_nonneg (hefficiency : 0 < f.equipment.chargeEfficiency) :
    0 ≤ (f.step slot tariff).2.1.drawn := by
  rw [record_eq]
  exact div_nonneg stored_nonneg hefficiency.le

/-- An hour draws no more than `chargerCapacity / chargeEfficiency`. -/
theorem drawn_step_le (hefficiency : 0 < f.equipment.chargeEfficiency)
    (hpower : 0 ≤ f.equipment.chargerCapacity) :
    (f.step slot tariff).2.1.drawn ≤
      f.equipment.chargerCapacity / f.equipment.chargeEfficiency := by
  have hstored : f.stored slot tariff ≤ f.equipment.chargerCapacity := by
    refine (stored_le_mostStored hpower).trans ?_
    rw [mostStored_eq]
    exact min_le_left _ _
  rw [record_eq]
  exact div_le_div_of_nonneg_right hstored hefficiency.le

variable (f)

/-! ### Many hours -/

variable (hours : List (Slot × Tariff Rat))

/-- Over a run, `pools.total` grows by `stored` less `usage`. -/
theorem total_runHours : (f.runHours hours).1.pools.total =
    f.pools.total + (Summary.ofRecords (f.runHours hours).2.1).stored -
      (Summary.ofRecords (f.runHours hours).2.1).usage := by
  rw [Summary.stored_ofRecords, Summary.usage_ofRecords]
  induction hours generalizing f with
  | nil =>
    show f.pools.total = f.pools.total + 0 - 0
    ring
  | cons hour rest ih =>
    obtain ⟨slot, tariff⟩ := hour
    rw [runHours_cons, records_cons, ih, total_step, List.map_cons, List.sum_cons, List.map_cons,
      List.sum_cons]
    ring

/-- A run draws `stored / chargeEfficiency`. -/
theorem drawn_runHours : (Summary.ofRecords (f.runHours hours).2.1).drawn =
    (Summary.ofRecords (f.runHours hours).2.1).stored / f.equipment.chargeEfficiency := by
  rw [Summary.drawn_ofRecords, Summary.stored_ofRecords]
  induction hours generalizing f with
  | nil => exact (zero_div _).symm
  | cons hour rest ih =>
    obtain ⟨slot, tariff⟩ := hour
    rw [records_cons, List.map_cons, List.sum_cons, List.map_cons, List.sum_cons, ih, drawn_step,
      step_equipment, add_div]

section Books

variable {f} (hefficiency : 0 < f.equipment.chargeEfficiency)

include hefficiency

theorem stored_runHours : (Summary.ofRecords (f.runHours hours).2.1).stored =
    f.equipment.chargeEfficiency * (Summary.ofRecords (f.runHours hours).2.1).drawn := by
  rw [drawn_runHours]
  field_simp

theorem efficiency_runHours (hdrawn : ∃ r ∈ (f.runHours hours).2.1, r.drawn ≠ 0) :
    (Summary.ofRecords (f.runHours hours).2.1).efficiency = f.equipment.chargeEfficiency := by
  have hnonneg : ∀ r ∈ (f.runHours hours).2.1, 0 ≤ r.drawn := by
    apply forall_mem_records
    intro g slot tariff hg
    rw [← hg] at hefficiency
    exact drawn_step_nonneg slot tariff hefficiency
  have hpos := Summary.drawn_ofRecords_pos hnonneg hdrawn
  unfold Summary.efficiency
  rw [if_pos hpos, stored_runHours hours hefficiency]
  field_simp

theorem peakDraw_runHours_le (hpower : 0 ≤ f.equipment.chargerCapacity) :
    (Summary.ofRecords (f.runHours hours).2.1).peakDraw ≤
      f.equipment.chargerCapacity / f.equipment.chargeEfficiency := by
  apply Summary.peakDraw_ofRecords_le (div_nonneg hpower hefficiency.le)
  apply forall_mem_records
  intro g slot tariff hg
  rw [← hg] at hefficiency hpower ⊢
  exact drawn_step_le slot tariff hefficiency hpower

/-- **The books of every run close.**  `pools.total` changes by `stored - usage`, `stored` is
`chargeEfficiency * drawn`, and `peakDraw` is at most `chargerCapacity / chargeEfficiency`; `deploy`
moves no energy, and `discharge` takes out all of `usage`, borrowed or not. -/
theorem runHours_balance :
    let run := f.runHours hours
    let figures := Summary.ofRecords run.2.1
    run.1.pools.total - f.pools.total = figures.stored - figures.usage ∧
      figures.stored = f.equipment.chargeEfficiency * figures.drawn ∧
      ((∃ r ∈ run.2.1, r.drawn ≠ 0) → figures.efficiency = f.equipment.chargeEfficiency) ∧
      (0 ≤ f.equipment.chargerCapacity →
        figures.peakDraw ≤ f.equipment.chargerCapacity / f.equipment.chargeEfficiency) ∧
      (∀ (g : Fleet Rat σ) index, (g.deploy index).pools.total = g.pools.total) ∧
      ∀ (p : Pools Rat) usage, (p.discharge usage).total = p.total - usage := by
  intro run figures
  have htotal : run.1.pools.total = f.pools.total + figures.stored - figures.usage :=
    f.total_runHours hours
  refine ⟨by linarith, stored_runHours hours hefficiency, efficiency_runHours hours hefficiency,
    peakDraw_runHours_le hours hefficiency, ?_, Pools.total_discharge⟩
  intro g index
  rw [deploy_eq]
  exact g.total_deployedPools index

end Books

/-- A fleet that starts with -40 kWh in `energyCharging`, on `Grid.default`, with `Equipment.exact`
as it is and one recorded deviate. -/
def indebted : Fleet Rat (List Rat) :=
  { create "Quayside" .exact Grid.default ⟨0, 10, -40⟩ [1] with equipment := .exact }

/-- The last hour of a shift, at a `flat` price, and the first one of the next, paid for
`regulation`. -/
def overChange : List (Slot × Tariff Rat) :=
  [(⟨1, 15⟩, (PriceList.flat (1 / 10)).toTariff),
    (⟨1, 16⟩, (PriceList.regulation (1 / 10) (1 / 50)).toTariff)]

theorem runHours_balance_indebted :
    let run := indebted.runHours overChange
    let figures := Summary.ofRecords run.2.1
    0 < indebted.equipment.chargeEfficiency ∧
      run.1.pools.total - indebted.pools.total = figures.stored - figures.usage ∧
      figures.stored = 9 / 10 * figures.drawn ∧ figures.efficiency = 9 / 10 ∧
      figures.peakDraw ≤ 160 / 3 := by
  intro run figures
  have hefficiency : 0 < indebted.equipment.chargeEfficiency := by decide +kernel
  have hdrawn : ∃ r ∈ run.2.1, r.drawn ≠ 0 := ⟨_, List.mem_cons_self, by decide +kernel⟩
  have hpower : 0 ≤ indebted.equipment.chargerCapacity := by decide +kernel
  obtain ⟨htotal, hstored, hshown, hpeak, _⟩ := runHours_balance overChange hefficiency
  refine ⟨hefficiency, htotal, hstored, hshown hdrawn, (hpeak hpower).trans ?_⟩
  decide +kernel

end TruckDepot.Fleet
