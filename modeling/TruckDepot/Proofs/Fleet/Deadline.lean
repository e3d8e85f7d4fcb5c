import TruckDepot.Fleet.Exact
import TruckDepot.Proofs.Fleet.Charging
import TruckDepot.Proofs.Fleet.PlanCache

/-!
# Charging by a deadline

A fleet that has a feasible plan for the next change of shift, and whose trucks do not borrow until
then, has what the plan requires when the shift changes, or as much as the packs off the trucks can
hold (`Fleet.min_required_le_energyCharging`).

What an hour passes on to the next one is `Pools.Covers`: what is still missing could be charged at
full power in the hours left, or the packs off the trucks are full.  Charging at full power keeps it
so (`Pools.Covers.store_most`), and so does the even share of what is missing, reserve included
(`Pools.Covers.store_share`).
-/

namespace TruckDepot

open Quantity TruckDepot.Random

/-! ### Covering what is required -/

/-- The chargers that have a battery supply no more than `chargerCapacity`. -/
theorem Equipment.maxChargeKw_mul_usableChargers_le {e : Equipment Rat}
    (hpower : 0 ≤ e.chargerCapacity) (trucks : Nat) :
    e.maxChargeKw * e.usableChargers trucks ≤ e.chargerCapacity := by
  rcases le_total 0 e.maxChargeKw with hcharge | hcharge
  · have husable : (e.usableChargers trucks : Rat) ≤ e.chargers :=
      Nat.cast_le.mpr (min_le_left _ _)
    calc e.maxChargeKw * e.usableChargers trucks ≤ e.maxChargeKw * e.chargers :=
          mul_le_mul_of_nonneg_left husable hcharge
      _ = e.chargerCapacity := mul_comm _ _
  · exact (mul_nonpos_of_nonpos_of_nonneg hcharge (Nat.cast_nonneg _)).trans hpower

/-- If `hours + 1` hours can charge what is `missing`, the last `hours` still can after an even
share of it and of an hour's charging. -/
theorem missing_le_share_add {missing power : Rat} {hours : Nat} (hpower : 0 ≤ power)
    (h : missing ≤ (hours + 1 : Nat) * power) :
    missing ≤ max (missing + power) 0 / (hours + 1 : Nat) + hours * power := by
  push_cast at h ⊢
  have hpos : (0 : Rat) < hours + 1 := by positivity
  have hshare : (missing + power) / (hours + 1) ≤ max (missing + power) 0 / (hours + 1) :=
    div_le_div_of_nonneg_right (le_max_left _ _) hpos.le
  -- times the hours left, this is `hours * missing ≤ (hours * (hours + 1) + 1) * power`
  have hmissing : missing - hours * power ≤ (missing + power) / (hours + 1) := by
    rw [le_div_iff₀ hpos]
    have hmul : hours * missing ≤ hours * ((hours + 1) * power) :=
      mul_le_mul_of_nonneg_left h (Nat.cast_nonneg _)
    linarith
  linarith

namespace Pools

/-- Charging at full power for `hours` covers what is `required`, or the packs off the trucks are
full. -/
def Covers (p : Pools Rat) (e : Equipment Rat) (hours : Nat) (required : Rat) : Prop :=
  required ≤ p.energyCharging + hours * e.chargerCapacity ∨
    e.totalCapacity - p.capacityInUse ≤ p.energyCharging

variable {p : Pools Rat} {e : Equipment Rat} {hours : Nat} {required : Rat}

/-- What is covered with no hour left is on hand, up to the room for it. -/
theorem Covers.min_le (h : p.Covers e 0 required) :
    min required (e.totalCapacity - p.capacityInUse) ≤ p.energyCharging := by
  rcases h with hcovered | hfull
  · rw [Nat.cast_zero, zero_mul, add_zero] at hcovered
    exact (min_le_left _ _).trans hcovered
  · exact (min_le_right _ _).trans hfull

theorem Covers.congr {p' : Pools Rat} (h : p.Covers e hours required)
    (hcapacity : p.capacityInUse = p'.capacityInUse)
    (henergy : p.energyCharging = p'.energyCharging) : p'.Covers e hours required := by
  unfold Covers at h ⊢
  rwa [← hcapacity, ← henergy]

theorem covers_store_of_full (hfull : e.totalCapacity - p.capacityInUse ≤ p.energyCharging)
    {energy : Rat} (henergy : 0 ≤ energy) : (p.store energy).Covers e hours required :=
  Or.inr (hfull.trans (le_add_of_nonneg_right henergy))

variable (h : p.Covers e (hours + 1) required) (hpower : 0 ≤ e.chargerCapacity)

include h hpower

theorem Covers.store_most :
    (p.store (min e.chargerCapacity (p.room e.totalCapacity))).Covers e hours required := by
  rcases le_total e.chargerCapacity (p.room e.totalCapacity) with hroom | hroom
  · rw [min_eq_left hroom]
    rcases h with hcovered | hfull
    · left
      show required ≤ p.energyCharging + e.chargerCapacity + hours * e.chargerCapacity
      push_cast at hcovered
      linarith
    · exact covers_store_of_full hfull hpower
  · -- the room is used up
    right
    rw [min_eq_right hroom, room_eq]
    show e.totalCapacity - p.capacityInUse ≤
      p.energyCharging + max (e.totalCapacity - p.capacityInUse - p.energyCharging) 0
    have hle := le_max_left (e.totalCapacity - p.capacityInUse - p.energyCharging) 0
    linarith

theorem Covers.store_share :
    (p.store (max (required + e.reserve - p.energyCharging) 0 / (hours + 1 : Nat))).Covers e hours
      required := by
  rcases h with hcovered | hfull
  · left
    show required ≤ p.energyCharging +
      max (required + e.chargerCapacity - p.energyCharging) 0 / (hours + 1 : Nat) +
        hours * e.chargerCapacity
    have hmissing : required - p.energyCharging ≤ (hours + 1 : Nat) * e.chargerCapacity := by
      linarith
    have hshare := missing_le_share_add hpower hmissing
    rw [show required - p.energyCharging + e.chargerCapacity =
      required + e.chargerCapacity - p.energyCharging by ring] at hshare
    linarith
  · exact covers_store_of_full hfull (div_nonneg (le_max_right _ _) (Nat.cast_nonneg _))

end Pools

/-! ### An hour of the plan -/

namespace Fleet

variable {σ : Type} {f : Fleet Rat σ} {last : Nat} {required : Rat}

/-- The fleet keeps the plan of the hour `index`, is deployed for its shift, and has to have
`required` energy when that changes. -/
structure OnPlan (f : Fleet Rat σ) (index : Nat) (required : Rat) : Prop where
  plan : ∃ surplus, f.planCache.IsPlanOf f.grid f.equipment index surplus
  currentShift : f.currentShift = f.grid.shiftIdAt index
  required : required =
    f.grid.requiredAt f.equipment f.equipment.planningHorizon (f.grid.nextChange index)

theorem OnPlan.front (h : f.OnPlan last required) : ∃ front later,
    f.planCache.plan = front :: later ∧ front.required = required ∧
      front.duration = f.grid.hoursToChange last := by
  obtain ⟨surplus, hplan⟩ := h.plan
  exact ⟨_, _, hplan.plan, h.required.symm, rfl⟩

variable [NormalSource σ Rat] {slot : Slot} {tariff : Tariff Rat}

theorem OnPlan.step_of_ready (h : (f.ready slot tariff).OnPlan slot.index required) :
    (f.step slot tariff).1.OnPlan slot.index required := by
  rw [step_eq]
  exact ⟨h.plan, h.currentShift, h.required⟩

/-- An hour that makes a new plan begins on it. -/
theorem onPlan_ready_of_fresh (hpriced : tariff.rateStructure ≠ .flat)
    (hfresh : f.planCache.holds slot.index (f.grid.shiftIdAt slot.index) = false)
    {front : PlannedSegment Rat} {later : List (PlannedSegment Rat)}
    (hplan : f.grid.project f.equipment slot.index f.equipment.planningHorizon
      (f.worked slot).pools.energyCharging = front :: later) :
    (f.ready slot tariff).OnPlan slot.index front.required := by
  rw [← Nat.mod_eq_of_lt slot.index_lt] at hfresh
  obtain ⟨surplus, hkept, hproject⟩ := PlanCache.isPlanOf_ensure_of_not_holds
    (g := f.grid) (e := f.equipment) hfresh (f.worked slot).pools.energyCharging
  have hfront : front.required = f.grid.requiredAt f.equipment f.equipment.planningHorizon
      (f.grid.nextChange slot.index) := by
    rw [hplan] at hproject
    rw [List.cons.inj hproject |>.1]
  constructor
  · rw [ready_planCache _ _ _ hpriced, ready_grid, ready_equipment]
    rw [Nat.mod_eq_of_lt slot.index_lt] at hkept
    exact ⟨surplus, hkept⟩
  · rw [ready_currentShift, ready_grid]
  · rw [ready_grid, ready_equipment, hfront]

/-- While the shift goes on, the next hour stays on the plan. -/
theorem OnPlan.ready (h : f.OnPlan last required) (hslot : slot.index = nextHour last)
    (hsame : f.grid.shiftIdAt (last + 1) = f.grid.shiftIdAt last) (hgrid : ¬ f.grid.Uniform)
    (hpriced : tariff.rateStructure ≠ .flat) :
    (f.ready slot tariff).OnPlan slot.index required := by
  obtain ⟨surplus, hplan⟩ := h.plan
  obtain ⟨surplus', hkept, _⟩ := hplan.ensure slot.index (f.worked slot).pools.energyCharging
  constructor
  · rw [ready_planCache _ _ _ hpriced, ready_grid, ready_equipment]
    exact ⟨surplus', hkept⟩
  · rw [ready_currentShift, ready_grid]
  · rw [ready_grid, ready_equipment, hslot, Grid.nextChange_nextHour hsame hgrid, h.required]

/-- While the shift goes on and nothing is `borrowed`, the packs off the trucks are left alone. -/
theorem OnPlan.worked_pools (h : f.OnPlan last required) (hslot : slot.index = nextHour last)
    (hsame : f.grid.shiftIdAt (last + 1) = f.grid.shiftIdAt last)
    (hborrowed : (f.step slot tariff).2.1.borrowed = 0) :
    f.pools.capacityInUse = (f.worked slot).pools.capacityInUse ∧
      f.pools.energyCharging = (f.worked slot).pools.energyCharging := by
  have hdeployed : f.deployedPools slot.index = f.pools := by
    unfold deployedPools
    rw [hslot, Grid.shiftIdAt_nextHour, hsame, h.currentShift, if_pos rfl]
  rw [record_eq, hdeployed] at hborrowed
  show _ = ((f.deployedPools slot.index).discharge (f.usage slot).1).capacityInUse ∧
    _ = ((f.deployedPools slot.index).discharge (f.usage slot).1).energyCharging
  rw [hdeployed, Pools.capacityInUse_discharge, Pools.energyCharging_discharge]
  refine ⟨rfl, ?_⟩
  rw [show f.pools.borrowing (f.usage slot).1 = 0 from hborrowed, sub_zero]

/-- **One hour** on the plan keeps `Covers`: the hours left still cover what is `required`. -/
theorem OnPlan.covers_step {hours : Nat}
    (h : (f.ready slot tariff).OnPlan slot.index required)
    (hpower : 0 ≤ f.equipment.chargerCapacity)
    (hleft : f.grid.hoursToChange slot.index = hours + 1)
    (hcovers : (f.worked slot).pools.Covers f.equipment (hours + 1) required) :
    (f.step slot tariff).1.pools.Covers f.equipment hours required := by
  obtain ⟨front, later, hplan, hrequired, hduration⟩ := h.front
  rw [ready_grid, hleft] at hduration
  have hmost := hcovers.store_most hpower
  rw [← mostStored_eq] at hmost
  rw [step_pools]
  rcases f.stored_cases slot tariff with hstored | ⟨front', later', hplan', hstored⟩
  · rw [hstored, larger_eq_max, max_eq_left (mostStored_nonneg hpower)]
    exact hmost
  · rw [hplan] at hplan'
    obtain ⟨rfl, rfl⟩ := List.cons.inj hplan'
    have hshare := hcovers.store_share hpower
    have heven : f.shareStored slot front =
        min (max (required + f.equipment.reserve - (f.worked slot).pools.energyCharging) 0 /
          (hours + 1 : Nat)) (f.mostStored slot) := by
      rw [shareStored_eq, hrequired, hduration, max_eq_left (Nat.le_add_left 1 hours)]
    rw [hstored, larger_eq_max, max_eq_left (shareStored_nonneg hpower front), heven]
    -- the even share is stored, or the most if that is less
    rcases le_total (max (required + f.equipment.reserve - (f.worked slot).pools.energyCharging) 0 /
      (hours + 1 : Nat)) (f.mostStored slot) with hle | hle
    · rw [min_eq_left hle]
      exact hshare
    · rw [min_eq_right hle]
      exact hmost

/-! ### The hours up to the change -/

/-- The hours come one after the other, from the hour `index` on. -/
def Consecutive (index : Nat) : List (Slot × Tariff Rat) → Prop
  | [] => True
  | (slot, _) :: rest => slot.index = index ∧ Consecutive (nextHour index) rest

/-- **All hours** up to the change: a fleet on its plan that `Covers` what is required has it in the
end. -/
theorem OnPlan.covers_runHours {hours : List (Slot × Tariff Rat)} (h : f.OnPlan last required)
    (hpower : 0 ≤ f.equipment.chargerCapacity) (hgrid : ¬ f.grid.Uniform)
    (hconsecutive : Consecutive (nextHour last) hours)
    (hleft : f.grid.hoursToChange last = hours.length + 1)
    (hpriced : ∀ hour ∈ hours, hour.2.rateStructure ≠ .flat)
    (hborrowed : ∀ r ∈ (f.runHours hours).2.1, r.borrowed = 0)
    (hcovers : f.pools.Covers f.equipment hours.length required) :
    (f.runHours hours).1.pools.Covers f.equipment 0 required := by
  -- the plan and what it covers are carried from hour to hour
  induction hours generalizing f last with
  | nil => exact hcovers
  | cons hour rest ih =>
    obtain ⟨slot, tariff⟩ := hour
    obtain ⟨hslot, hrest⟩ := hconsecutive
    rw [List.length_cons] at hleft hcovers
    -- from `last` there are two hours left or more, so the shift goes on into this one
    have hchange := f.grid.isHoursToChange_hoursToChange last
    have hsame : f.grid.shiftIdAt (last + 1) = f.grid.shiftIdAt last :=
      hchange.same 1 (by omega)
    have hnext := Grid.hoursToChange_nextHour hsame hgrid
    have hready := h.ready hslot hsame hgrid (hpriced _ List.mem_cons_self)
    rw [records_cons] at hborrowed
    obtain ⟨hcapacity, henergy⟩ :=
      h.worked_pools hslot hsame (hborrowed _ List.mem_cons_self)
    have hleft' : f.grid.hoursToChange slot.index = rest.length + 1 := by
      rw [hslot]
      omega
    have hstep := hready.covers_step hpower hleft' (hcovers.congr hcapacity henergy)
    have hafter := hready.step_of_ready
    rw [runHours_cons, ← f.step_equipment slot tariff]
    rw [← f.step_equipment slot tariff] at hstep hpower
    rw [← f.step_grid slot tariff] at hgrid
    refine ih hafter hpower hgrid ?_ ?_ ?_ ?_ hstep
    · rwa [hslot]
    · rw [step_grid, hslot]
      omega
    · exact fun hour hmem => hpriced hour (List.mem_cons_of_mem _ hmem)
    · exact fun r hmem => hborrowed r (List.mem_cons_of_mem _ hmem)

/-- **Charging by a deadline meets it.**  From a new, feasible plan and with nothing borrowed, the
fleet has `front.required` when the shift changes, or all that the packs off the trucks can hold. -/
theorem min_required_le_energyCharging {f : Fleet Rat σ} (hpower : 0 ≤ f.equipment.chargerCapacity)
    (hgrid : ¬ f.grid.Uniform) {slot : Slot} {tariff : Tariff Rat} {rest : List (Slot × Tariff Rat)}
    (hconsecutive : Consecutive slot.index ((slot, tariff) :: rest))
    (hchange : f.grid.IsHoursToChange slot.index (rest.length + 1))
    (hpriced : ∀ hour ∈ (slot, tariff) :: rest, hour.2.rateStructure ≠ .flat)
    (hfresh : f.planCache.holds slot.index (f.grid.shiftIdAt slot.index) = false)
    (hborrowed : ∀ r ∈ (f.runHours ((slot, tariff) :: rest)).2.1, r.borrowed = 0)
    {front : PlannedSegment Rat} {later : List (PlannedSegment Rat)}
    (hplan : f.grid.project f.equipment slot.index f.equipment.planningHorizon
      (f.worked slot).pools.energyCharging = front :: later)
    (hfeasible : front.required ≤ (f.worked slot).pools.energyCharging +
      f.equipment.maxChargeKw * (rest.length + 1 : Nat) *
        f.equipment.usableChargers (f.grid.trucksAt slot.index)) :
    min front.required (f.equipment.totalCapacity -
        (f.runHours ((slot, tariff) :: rest)).1.pools.capacityInUse) ≤
      (f.runHours ((slot, tariff) :: rest)).1.pools.energyCharging := by
  have hleft := hchange.eq_hoursToChange.symm
  have hready := onPlan_ready_of_fresh (hpriced _ List.mem_cons_self) hfresh hplan
  -- a feasible plan is covered, since usable chargers are no more than all
  have hcovers : (f.worked slot).pools.Covers f.equipment (rest.length + 1) front.required := by
    left
    have husable := Equipment.maxChargeKw_mul_usableChargers_le hpower (f.grid.trucksAt slot.index)
    have hsupply := mul_le_mul_of_nonneg_left husable
      (Nat.cast_nonneg (α := Rat) (rest.length + 1))
    linarith
  have hstep := hready.covers_step hpower hleft hcovers
  have hafter := hready.step_of_ready
  -- the first hour makes the plan, and the others stay on it
  apply Pools.Covers.min_le
  show ((f.step slot tariff).1.runHours rest).1.pools.Covers f.equipment 0 front.required
  rw [← f.step_equipment slot tariff] at hstep hpower ⊢
  rw [← f.step_grid slot tariff] at hgrid hleft
  refine hafter.covers_runHours hpower hgrid hconsecutive.2 hleft ?_ ?_ hstep
  · exact fun hour hmem => hpriced hour (List.mem_cons_of_mem _ hmem)
  · rw [records_cons] at hborrowed
    exact fun r hmem => hborrowed r (List.mem_cons_of_mem _ hmem)

/-- Three trucks in the night and eight by day, once a week. -/
def nightAndDay : Grid :=
  (Grid.configure ["block", "1", "shift", "0", "8", "3", "shift", "8", "8", "8"]).grid

/-- A half charged fleet on `nightAndDay`, with `Equipment.exact` as it is and two recorded
deviates. -/
def nightDepot : Fleet Rat (List Rat) :=
  { create "Dockside" .exact nightAndDay (.charged 750 (1 / 2)) [1, -1] with equipment := .exact }

/-- The seventh hour of a day. -/
def dawn : Slot :=
  ⟨1, 6⟩

/-- One price, and a payment for regulation. -/
def nightTariff : Tariff Rat :=
  (PriceList.regulation (1 / 10) (1 / 50)).toTariff

/-- The hour that follows `dawn`, after which the day shift begins. -/
def lastHours : List (Slot × Tariff Rat) :=
  [(dawn.next, nightTariff)]

/-- The plan at `dawn`; the day shift takes 256 kWh. -/
def dawnPlan : List (PlannedSegment Rat) :=
  nightDepot.grid.project nightDepot.equipment dawn.index nightDepot.equipment.planningHorizon
    (nightDepot.worked dawn).pools.energyCharging

theorem min_required_le_energyCharging_nightDepot :
    0 ≤ nightDepot.equipment.chargerCapacity ∧ ¬ nightDepot.grid.Uniform ∧
      nightDepot.grid.IsHoursToChange dawn.index (lastHours.length + 1) ∧
      (∀ r ∈ (nightDepot.runHours ((dawn, nightTariff) :: lastHours)).2.1, r.borrowed = 0) ∧
      min 256 (nightDepot.equipment.totalCapacity -
        (nightDepot.runHours ((dawn, nightTariff) :: lastHours)).1.pools.capacityInUse) ≤
      (nightDepot.runHours ((dawn, nightTariff) :: lastHours)).1.pools.energyCharging := by
  have hpower : 0 ≤ nightDepot.equipment.chargerCapacity := by decide +kernel
  have hgrid : ¬ nightDepot.grid.Uniform := by
    intro huniform
    exact absurd (huniform 0 8) (by decide +kernel)
  have hconsecutive : Consecutive dawn.index ((dawn, nightTariff) :: lastHours) :=
    ⟨rfl, by decide, trivial⟩
  have hchange : nightDepot.grid.IsHoursToChange dawn.index (lastHours.length + 1) := by
    have hhours : nightDepot.grid.hoursToChange dawn.index = lastHours.length + 1 := by
      decide +kernel
    rw [← hhours]
    exact nightDepot.grid.isHoursToChange_hoursToChange dawn.index
  have hpriced : ∀ hour ∈ (dawn, nightTariff) :: lastHours, hour.2.rateStructure ≠ .flat := by
    decide
  have hfresh : nightDepot.planCache.holds dawn.index (nightDepot.grid.shiftIdAt dawn.index) =
      false := rfl
  have hborrowed : ∀ r ∈ (nightDepot.runHours ((dawn, nightTariff) :: lastHours)).2.1,
      r.borrowed = 0 := by decide +kernel
  -- what the plan asks for at eight, and that two hours of charging can reach it
  have hplan : nightDepot.grid.project nightDepot.equipment dawn.index
      nightDepot.equipment.planningHorizon (nightDepot.worked dawn).pools.energyCharging =
        ⟨8, 2, 256, 256, 65⟩ :: dawnPlan.tail := by decide +kernel
  have hfeasible : (256 : Rat) ≤ (nightDepot.worked dawn).pools.energyCharging +
      nightDepot.equipment.maxChargeKw * (lastHours.length + 1 : Nat) *
        nightDepot.equipment.usableChargers (nightDepot.grid.trucksAt dawn.index) := by
    decide +kernel
  have hmet := min_required_le_energyCharging hpower hgrid hconsecutive hchange hpriced hfresh
    hborrowed hplan hfeasible
  exact ⟨hpower, hgrid, hchange, hborrowed, hmet⟩

end Fleet

end TruckDepot
