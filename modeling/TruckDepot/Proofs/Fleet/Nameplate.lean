import TruckDepot.Fleet.Exact
import TruckDepot.Proofs.Fleet.Balance
import TruckDepot.Proofs.Fleet.Charging
import TruckDepot.Proofs.Fleet.History
import TruckDepot.Proofs.Fleet.Sizing

/-!
# The nameplate, in exact numbers

Batteries never hold more than their nameplate (`Fleet.step_perform_withinNameplate`).

`Pools.WithinNameplate` is what every hour passes on: the trucks hold no more than their packs do,
and what is off the trucks fits into the other packs.  Swapping keeps it as long as all energy fits
into all packs and there is a pack for every truck (`Pools.withinNameplate_swap`); the first follows
from the bound itself (`Pools.WithinNameplate.total_le`), the second from the sizing of the fleet
(`Fleet.Equipped`).
-/

namespace TruckDepot

open Quantity TruckDepot.Random

/-! ### Batteries -/

namespace Pools

/-- The packs in the trucks hold no more than `capacityInUse`, and all others no more than what is
left of `totalCapacity`. -/
structure WithinNameplate (p : Pools Rat) (totalCapacity : Rat) : Prop where
  capacityInUse_nonneg : 0 ≤ p.capacityInUse
  energyInUse_le : p.energyInUse ≤ p.capacityInUse
  energyCharging_add_le : p.energyCharging + p.capacityInUse ≤ totalCapacity

variable {p : Pools Rat} {totalCapacity : Rat}

theorem WithinNameplate.total_le (h : p.WithinNameplate totalCapacity) :
    p.total ≤ totalCapacity := by
  have hinUse := h.energyInUse_le
  have hcharging := h.energyCharging_add_le
  show p.energyInUse + p.energyCharging ≤ totalCapacity
  linarith

theorem withinNameplate_gather (h : p.total ≤ totalCapacity) :
    p.gather.WithinNameplate totalCapacity := by
  refine ⟨le_rfl, le_rfl, ?_⟩
  show p.energyCharging + p.energyInUse + 0 ≤ totalCapacity
  rwa [add_zero, add_comm]

/-- A swap ends `WithinNameplate` if all energy fits into all packs and the packs for the trucks are
among them. -/
theorem withinNameplate_swap (h : p.total ≤ totalCapacity) {trucks : Option Nat}
    {batteryCapacity : Rat} (hbattery : 0 ≤ batteryCapacity)
    (htrucks : ∀ n ∈ trucks, n * batteryCapacity ≤ totalCapacity) :
    (p.swap trucks batteryCapacity).WithinNameplate totalCapacity := by
  cases trucks with
  | none => exact withinNameplate_gather h
  | some n =>
    have hfits : n * batteryCapacity ≤ totalCapacity := htrucks n rfl
    refine ⟨mul_nonneg (Nat.cast_nonneg n) hbattery, ?_, ?_⟩
    · show smaller (n * batteryCapacity) p.total ≤ n * batteryCapacity
      rw [smaller_eq_min]
      exact min_le_left _ _
    · show p.total - smaller (n * batteryCapacity) p.total + n * batteryCapacity ≤ totalCapacity
      rw [smaller_eq_min]
      -- the trucks get all energy, in debt too, or as much as their packs hold
      rcases le_total (n * batteryCapacity) p.total with hfull | hshort
      · rw [min_eq_left hfull]
        linarith
      · rw [min_eq_right hshort]
        linarith

theorem WithinNameplate.discharge (h : p.WithinNameplate totalCapacity) {usage : Rat}
    (husage : 0 ≤ usage) : (p.discharge usage).WithinNameplate totalCapacity := by
  have hinUse := h.energyInUse_le
  have hcharging := h.energyCharging_add_le
  constructor
  · rw [capacityInUse_discharge]
    exact h.capacityInUse_nonneg
  · rw [energyInUse_discharge, capacityInUse_discharge]
    exact max_le (by linarith) h.capacityInUse_nonneg
  · have hborrowing : 0 ≤ p.borrowing usage := by
      rw [borrowing_eq]
      exact le_max_right _ _
    rw [energyCharging_discharge, capacityInUse_discharge]
    linarith

theorem WithinNameplate.store (h : p.WithinNameplate totalCapacity) {energy : Rat}
    (henergy : energy ≤ p.room totalCapacity) :
    (p.store energy).WithinNameplate totalCapacity := by
  refine ⟨h.capacityInUse_nonneg, h.energyInUse_le, ?_⟩
  show p.energyCharging + energy + p.capacityInUse ≤ totalCapacity
  have hcharging := h.energyCharging_add_le
  -- within the nameplate the room is what is missing from it
  rw [room_eq, max_eq_left (by linarith)] at henergy
  linarith

end Pools

/-! ### One hour -/

namespace Fleet

variable {σ : Type}

/-- The fleet has a pack for every truck at work, and neither its packs nor its chargers count less
than nothing. -/
structure Equipped (f : Fleet Rat σ) : Prop where
  trucksAt_le : ∀ index, f.grid.trucksAt index ≤ f.equipment.batteries
  batteryCapacity_nonneg : 0 ≤ f.equipment.batteryCapacity
  chargerCapacity_nonneg : 0 ≤ f.equipment.chargerCapacity

theorem equipped_create {e : Equipment Rat} (hbattery : 0 < e.batteryCapacity)
    (hcharge : 0 < e.maxChargeKw) {g : Grid}
    (hg : g.ShowsTwoShifts ∨ ∀ i, g.trucksAt i ≤ e.batteries) (name : String) (pools : Pools Rat)
    (source : σ) : (create name e g pools source).Equipped := by
  constructor
  · exact Grid.trucksAt_le_sizedBatteries e.truckKw e.batteryCapacity hg
  · exact hbattery.le
  · exact mul_nonneg (Nat.cast_nonneg _) hcharge.le

section Equipped

variable {f : Fleet Rat σ} (h : f.Equipped)

include h

theorem Equipped.congr {f' : Fleet Rat σ} (hequipment : f'.equipment = f.equipment)
    (hgrid : f'.grid = f.grid) : f'.Equipped := by
  constructor
  · rw [hequipment, hgrid]
    exact h.trucksAt_le
  · rw [hequipment]
    exact h.batteryCapacity_nonneg
  · rw [hequipment]
    exact h.chargerCapacity_nonneg

theorem Equipped.trucksAt_mul_le (index : Nat) :
    f.grid.trucksAt index * f.equipment.batteryCapacity ≤ f.equipment.totalCapacity := by
  have hcount : (f.grid.trucksAt index : Rat) ≤ f.equipment.batteries :=
    Nat.cast_le.mpr (h.trucksAt_le index)
  exact mul_le_mul_of_nonneg_right hcount h.batteryCapacity_nonneg

theorem Equipped.deployedPools (hpools : f.pools.WithinNameplate f.equipment.totalCapacity)
    (index : Nat) : (f.deployedPools index).WithinNameplate f.equipment.totalCapacity := by
  unfold Fleet.deployedPools
  split_ifs
  · exact hpools
  · refine Pools.withinNameplate_swap hpools.total_le h.batteryCapacity_nonneg ?_
    intro n hn
    rw [Option.mem_map] at hn
    obtain ⟨id, hid, rfl⟩ := hn
    have hfits := h.trucksAt_mul_le index
    unfold Grid.trucksAt at hfits
    rwa [hid] at hfits

variable [NormalSource σ Rat] (slot : Slot) (tariff : Tariff Rat)

theorem Equipped.worked (hpools : f.pools.WithinNameplate f.equipment.totalCapacity) :
    (f.worked slot).pools.WithinNameplate f.equipment.totalCapacity :=
  (h.deployedPools hpools slot.index).discharge (f.usage_nonneg slot)

theorem Equipped.stored_le : f.stored slot tariff ≤
    min f.equipment.chargerCapacity ((f.worked slot).pools.room f.equipment.totalCapacity) := by
  rw [← mostStored_eq]
  exact stored_le_mostStored h.chargerCapacity_nonneg

/-- **One hour** of an equipped fleet keeps its batteries `WithinNameplate`. -/
theorem Equipped.step (hpools : f.pools.WithinNameplate f.equipment.totalCapacity) :
    (f.step slot tariff).1.pools.WithinNameplate f.equipment.totalCapacity := by
  rw [step_pools]
  exact (h.worked slot hpools).store ((h.stored_le slot tariff).trans (min_le_right _ _))

/-! ### Any history -/

theorem Equipped.act (hpools : f.pools.WithinNameplate f.equipment.totalCapacity)
    (action : Action Rat) : (f.act action).pools.WithinNameplate f.equipment.totalCapacity := by
  cases action with
  | work slot tariff => exact h.step slot tariff hpools
  | regulate kwh => exact hpools
  | install policy => exact hpools

theorem Equipped.perform (hpools : f.pools.WithinNameplate f.equipment.totalCapacity)
    (actions : List (Action Rat)) :
    (f.perform actions).pools.WithinNameplate f.equipment.totalCapacity := by
  induction actions generalizing f with
  | nil => exact hpools
  | cons action rest ih =>
    have hequipment := f.act_equipment action
    have hact := h.act hpools action
    rw [perform_cons, ← hequipment]
    rw [← hequipment] at hact
    exact ih (h.congr hequipment (f.act_grid action)) hact

end Equipped

/-- **Batteries never hold more than their nameplate.**  After any `history`, an hour leaves
`energyInUse ≤ capacityInUse` and room for `energyCharging` beside it, and stores between nothing
and what the chargers deliver and the packs off the trucks have room for. -/
theorem step_perform_withinNameplate {e : Equipment Rat} (hbattery : 0 < e.batteryCapacity)
    (hcharge : 0 < e.maxChargeKw) {g : Grid}
    (hg : g.ShowsTwoShifts ∨ ∀ i, g.trucksAt i ≤ e.batteries) {pools : Pools Rat}
    (htotal : pools.total ≤ (e.sizedFor g).totalCapacity) (name : String) (source : σ)
    [NormalSource σ Rat] (history : List (Action Rat)) (slot : Slot) (tariff : Tariff Rat) :
    let f := (create name e g pools source).perform history
    let hour := f.step slot tariff
    hour.1.pools.energyInUse ≤ hour.1.pools.capacityInUse ∧
      hour.1.pools.energyCharging + hour.1.pools.capacityInUse ≤ (e.sizedFor g).totalCapacity ∧
      0 ≤ hour.2.1.stored ∧
      hour.2.1.stored ≤ min (e.sizedFor g).chargerCapacity
        ((f.worked slot).pools.room (e.sizedFor g).totalCapacity) := by
  intro f hour
  -- sizing sees to the packs, which nothing that is done changes
  have hstart : (create name e g pools source).Equipped :=
    equipped_create hbattery hcharge hg name pools source
  have hequipment : f.equipment = e.sizedFor g := perform_equipment _ history
  have hequipped : f.Equipped := hstart.congr hequipment (perform_grid _ history)
  have hpools : f.pools.WithinNameplate f.equipment.totalCapacity := by
    rw [hequipment]
    exact hstart.perform (Pools.withinNameplate_gather htotal) history
  have hafter := hequipped.step slot tariff hpools
  have hstored := hequipped.stored_le slot tariff
  rw [hequipment] at hafter hstored
  have hrecord : hour.2.1.stored = f.stored slot tariff := by
    show (f.step slot tariff).2.1.stored = _
    rw [record_eq]
  rw [hrecord]
  exact ⟨hafter.energyInUse_le, hafter.energyCharging_add_le, stored_nonneg, hstored⟩

/-- `Equipment.exact` with two packs, which its schedule raises to fourteen. -/
def twoPacks : Equipment Rat :=
  { Equipment.exact with batteries := 2 }

/-- An hour of work under early charging, then one that comes days later. -/
def scatteredHours : List (Action Rat) :=
  [.install .early, .work ⟨1, 8⟩ (PriceList.flat (1 / 10)).toTariff, .install .deadline,
    .work ⟨4, 3⟩ (PriceList.regulation (1 / 10) (1 / 50)).toTariff]

theorem step_perform_withinNameplate_twoPacks :
    Grid.default.ShowsTwoShifts ∧
      (Pools.charged 700 1 : Pools Rat).total ≤ (twoPacks.sizedFor Grid.default).totalCapacity ∧
      (let start := create "Quayside" twoPacks Grid.default (.charged 700 1) ([1, -1] : List Rat)
      let f := start.perform scatteredHours
      let hour := f.step ⟨4, 8⟩ (PriceList.timeOfUse [1 / 10, 1 / 5]).toTariff
      hour.1.pools.energyInUse ≤ hour.1.pools.capacityInUse ∧
        hour.1.pools.energyCharging + hour.1.pools.capacityInUse ≤
          (twoPacks.sizedFor Grid.default).totalCapacity ∧
        0 ≤ hour.2.1.stored ∧
        hour.2.1.stored ≤ min (twoPacks.sizedFor Grid.default).chargerCapacity
          ((f.worked ⟨4, 8⟩).pools.room (twoPacks.sizedFor Grid.default).totalCapacity)) := by
  have hbattery : 0 < twoPacks.batteryCapacity := by decide +kernel
  have hcharge : 0 < twoPacks.maxChargeKw := by decide +kernel
  have hg : Grid.default.ShowsTwoShifts := ⟨8, 16, 0, 1, by decide +kernel⟩
  have htotal : (Pools.charged 700 1 : Pools Rat).total ≤
      (twoPacks.sizedFor Grid.default).totalCapacity := by decide +kernel
  exact ⟨hg, htotal, step_perform_withinNameplate hbattery hcharge (Or.inl hg) htotal _ _ _ _ _⟩

end Fleet

end TruckDepot
