import Mathlib.Algebra.Order.BigOperators.Group.Finset
import Mathlib.Data.List.Forall2
import TruckDepot.Proofs.Fleet.Chargers

/-!
# More trucks take no less equipment

Two schedules may differ in nothing but the trucks of their shifts, of which one has no fewer than
the other in any shift (`Grid.CrewsAtMost`).  Then every hour and every handover of the one is
covered by what covers it in the other: its busiest day has no more work
(`Grid.CrewsAtMost.busiestDay_le`) and it can run on no more packs
(`Grid.CrewsAtMost.minBatteries_le`).  `Grid.sizing_mono` puts this together for the counts that
come out of sizing, from any two configured counts in the same order.
-/

namespace TruckDepot

open Quantity

/-- The shifts are the same but for their `trucks`, and `t` has no fewer of them. -/
structure Shift.CrewAtMost (s t : Shift) : Prop where
  start_eq : s.start = t.start
  duration_eq : s.duration = t.duration
  trucks_le : s.trucks ≤ t.trucks

instance : DecidableRel Shift.CrewAtMost := fun s t =>
  decidable_of_iff (s.start = t.start ∧ s.duration = t.duration ∧ s.trucks ≤ t.trucks)
    ⟨fun ⟨hstart, hduration, htrucks⟩ => ⟨hstart, hduration, htrucks⟩,
      fun ⟨hstart, hduration, htrucks⟩ => ⟨hstart, hduration, htrucks⟩⟩

/-- The schedules are the same but for the trucks of their shifts, and no shift of `h` has fewer. -/
structure Grid.CrewsAtMost (g h : Grid) : Prop where
  cells_eq : g.cells = h.cells
  shifts_le : List.Forall₂ Shift.CrewAtMost g.shifts.toList h.shifts.toList

namespace Grid.CrewsAtMost

variable {g h : Grid} (hcrews : g.CrewsAtMost h)

include hcrews

/-! ### Trucks and work -/

theorem shiftIdAt_eq (index : Nat) : g.shiftIdAt index = h.shiftIdAt index := by
  unfold shiftIdAt
  rw [hcrews.cells_eq]

/-- An id names a shift of both schedules or of none of them. -/
theorem shift?_rel (id : ShiftId) : Option.Rel Shift.CrewAtMost (g.shift? id) (h.shift? id) := by
  have hshifts := hcrews.shifts_le
  unfold shift?
  rw [← Array.getElem?_toList, ← Array.getElem?_toList]
  generalize g.shifts.toList = before at hshifts
  generalize h.shifts.toList = after at hshifts
  induction hshifts generalizing id with
  | nil => exact .none
  | cons hshift _ ih =>
    cases id with
    | zero => exact .some hshift
    | succ id => exact ih id

/-- What grows with the crew of a shift is no more in `g` than in `h`. -/
theorem getD_shift?_le {f : Shift → Nat} (hf : ∀ s t, Shift.CrewAtMost s t → f s ≤ f t)
    (id : ShiftId) : ((g.shift? id).map f).getD 0 ≤ ((h.shift? id).map f).getD 0 := by
  have hrel := hcrews.shift?_rel id
  generalize g.shift? id = before at hrel
  generalize h.shift? id = after at hrel
  cases hrel with
  | none => exact le_rfl
  | some hshift => exact hf _ _ hshift

theorem truckHoursOf_le (id : ShiftId) : g.truckHoursOf id ≤ h.truckHoursOf id := by
  refine hcrews.getD_shift?_le (fun s t hshift => ?_) id
  exact Nat.mul_le_mul hshift.trucks_le hshift.duration_eq.le

theorem trucksOf_le (id : Option ShiftId) : g.trucksOf id ≤ h.trucksOf id := by
  cases id with
  | none => exact le_rfl
  | some id => exact hcrews.getD_shift?_le (fun _ _ hshift => hshift.trucks_le) id

theorem trucksAt_le (index : Nat) : g.trucksAt index ≤ h.trucksAt index := by
  unfold trucksAt
  rw [hcrews.shiftIdAt_eq]
  exact hcrews.trucksOf_le _

theorem truckHoursFrom_le (start hours : Nat) :
    g.truckHoursFrom start hours ≤ h.truckHoursFrom start hours :=
  Finset.sum_le_sum fun k _ => hcrews.trucksAt_le (start + k)

/-- The busiest day of `g` is no busier than that of `h`. -/
theorem busiestDay_le : g.busiestDay ≤ h.busiestDay := by
  obtain ⟨⟨start, hstart, hwork⟩, -⟩ := g.isGreatest_busiestDay
  calc g.busiestDay = g.truckHoursFrom start hoursPerDay := hwork.symm
    _ ≤ h.truckHoursFrom start hoursPerDay := hcrews.truckHoursFrom_le start hoursPerDay
    _ ≤ h.busiestDay := h.truckHoursFrom_le_busiestDay hstart

/-! ### What the work takes -/

theorem handovers_eq : g.handovers = h.handovers := by
  have hids : g.shiftIdAt = h.shiftIdAt := funext hcrews.shiftIdAt_eq
  unfold handovers
  rw [hids]

variable {truckKw : Rat} (htrucks : 0 ≤ truckKw)

include htrucks

theorem maxDailyEnergy_le : g.maxDailyEnergy truckKw ≤ h.maxDailyEnergy truckKw :=
  mul_le_mul_of_nonneg_right (Nat.cast_le.mpr hcrews.busiestDay_le) htrucks

variable {batteryCapacity : Rat} (hcapacity : 0 < batteryCapacity)

include hcapacity

theorem handoverBatteries_le (pair : ShiftId × ShiftId) :
    g.handoverBatteries truckKw batteryCapacity pair ≤
      h.handoverBatteries truckKw batteryCapacity pair := by
  have hhours : g.truckHoursOf pair.1 + g.truckHoursOf pair.2 ≤
      h.truckHoursOf pair.1 + h.truckHoursOf pair.2 :=
    Nat.add_le_add (hcrews.truckHoursOf_le _) (hcrews.truckHoursOf_le _)
  have henergy : ((g.truckHoursOf pair.1 + g.truckHoursOf pair.2 : Nat) : Rat) * truckKw ≤
      ((h.truckHoursOf pair.1 + h.truckHoursOf pair.2 : Nat) : Rat) * truckKw :=
    mul_le_mul_of_nonneg_right (Nat.cast_le.mpr hhours) htrucks
  unfold handoverBatteries
  exact max_le_max (Nat.add_le_add (hcrews.trucksOf_le _) (hcrews.trucksOf_le _))
    (ceilUpTo_mono _ (div_le_div_of_nonneg_right henergy hcapacity.le))

/-- Both schedules have the same handovers, and none takes more packs in `g`. -/
theorem minBatteries_le :
    g.minBatteries truckKw batteryCapacity ≤ h.minBatteries truckKw batteryCapacity := by
  have hneeds : List.Forall₂ (· ≤ ·)
      (h.handovers.map (g.handoverBatteries truckKw batteryCapacity))
      (h.handovers.map (h.handoverBatteries truckKw batteryCapacity)) := by
    rw [List.forall₂_map_left_iff, List.forall₂_map_right_iff, List.forall₂_same]
    intro pair _
    exact hcrews.handoverBatteries_le htrucks hcapacity pair
  unfold minBatteries
  rw [hcrews.handovers_eq]
  refine min_le_min_right _ (List.rel_foldl ?_ le_rfl hneeds)
  intro most most' hmost need need' hneed
  exact max_le_max hmost hneed

end Grid.CrewsAtMost

/-- **More trucks take no less equipment.**  From `g` to `h` neither `maxDailyEnergy` nor
`minBatteries` falls, and for configured counts `n ≤ m` neither do `sizedChargers` and
`sizedBatteries`, at `largestCount` too. -/
theorem Grid.sizing_mono {g h : Grid} (hcrews : g.CrewsAtMost h)
    {truckKw batteryCapacity maxChargeKw : Rat} (htrucks : 0 ≤ truckKw)
    (hcapacity : 0 < batteryCapacity) (hcharge : 0 < maxChargeKw) :
    g.maxDailyEnergy truckKw ≤ h.maxDailyEnergy truckKw ∧
      g.minBatteries truckKw batteryCapacity ≤ h.minBatteries truckKw batteryCapacity ∧
      ∀ n m, n ≤ m → m ≤ largestCount →
        g.sizedChargers truckKw maxChargeKw n ≤ h.sizedChargers truckKw maxChargeKw m ∧
          g.sizedBatteries truckKw batteryCapacity n ≤
            h.sizedBatteries truckKw batteryCapacity m := by
  have henergy := hcrews.maxDailyEnergy_le htrucks
  have hbatteries := hcrews.minBatteries_le htrucks hcapacity
  refine ⟨henergy, hbatteries, fun n m hnm hm => ⟨?_, max_le_max hnm hbatteries⟩⟩
  rw [g.sizedChargers_eq_min truckKw hcharge (hnm.trans hm),
    h.sizedChargers_eq_min truckKw hcharge hm, ← maxDailyEnergy_eq, ← maxDailyEnergy_eq]
  exact min_le_min_left _ (max_le_max hnm (Nat.ceil_mono
    (div_le_div_of_nonneg_right henergy (mul_pos (by decide +kernel) hcharge).le)))

/-- A Monday of two shifts, with seven trucks after noon. -/
def Grid.mondayOf (trucks : Nat) (h : trucks ≤ largestCount) : Grid :=
  let morning : Shift := { start := 0, duration := 12, trucks := trucks, trucks_le := h }
  let evening : Shift := { start := 12, duration := 12, trucks := 7, trucks_le := by decide }
  (empty.add morning [2]).add evening [2]

/-- Eight trucks before noon. -/
def Grid.calmMonday : Grid :=
  mondayOf 8 (by decide)

/-- A Monday with `largestCount` trucks before noon. -/
def Grid.teemingMonday : Grid :=
  mondayOf largestCount le_rfl

theorem Grid.sizing_mono_calmMonday :
    calmMonday.CrewsAtMost teemingMonday ∧ (0 : Rat) ≤ 12 ∧ (0 : Rat) < 50 ∧ (0 : Rat) < 6 ∧
      1 ≤ 2 ∧ 2 ≤ largestCount ∧
      calmMonday.maxDailyEnergy (12 : Rat) ≤ teemingMonday.maxDailyEnergy 12 ∧
      calmMonday.minBatteries (12 : Rat) 50 ≤ teemingMonday.minBatteries (12 : Rat) 50 ∧
      calmMonday.sizedChargers (12 : Rat) 6 1 ≤ teemingMonday.sizedChargers (12 : Rat) 6 2 ∧
      calmMonday.sizedBatteries (12 : Rat) 50 1 ≤ teemingMonday.sizedBatteries (12 : Rat) 50 2 ∧
      calmMonday.sizedBatteries (12 : Rat) 50 1 = 44 ∧
      teemingMonday.sizedBatteries (12 : Rat) 50 2 = largestCount := by
  have hcrews : calmMonday.CrewsAtMost teemingMonday := ⟨rfl, by decide⟩
  have htrucks : (0 : Rat) ≤ 12 := by norm_num
  have hcapacity : (0 : Rat) < 50 := by norm_num
  have hcharge : (0 : Rat) < 6 := by norm_num
  obtain ⟨henergy, hleast, hsized⟩ := sizing_mono hcrews htrucks hcapacity hcharge
  obtain ⟨hchargers, hbatteries⟩ := hsized 1 2 (by decide) (by decide)
  exact ⟨hcrews, htrucks, hcapacity, hcharge, by decide, by decide, henergy, hleast, hchargers,
    hbatteries, by decide +kernel, by decide +kernel⟩

end TruckDepot
