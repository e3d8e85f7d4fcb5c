import TruckDepot.Journal
import TruckDepot.Proofs.Checked.Lookup
import TruckDepot.Proofs.Fleet.BusiestDay

/-!
# Sizing that can fail

Sizing looks up the shifts of every handover and the trucks of every hour, and takes from counts in
two places: the missing batteries are what is required less what there is, and the window of the
busiest day loses the hour that it leaves.  On a sound grid all of it succeeds
(`Checked.sizedBatteries_eq`, `Checked.sizedChargers_eq`): a handover is between ids of cells, the
window stays among the hours of one week, and an hour that it leaves was part of its sum.
-/

namespace TruckDepot.Checked

variable {α : Type} [Quantity α] {g : Grid}

/-! ### Batteries -/

/-- The shifts that take over from one another in the course of the week (`Grid.handovers`). -/
def handovers (g : Grid) : Except Fault (List (ShiftId × ShiftId)) := do
  let cells ← (List.range weekHours).mapM (shiftIdAt g)
  let ids := cells.filterMap id
  return (ids.zip ids.tail).filter fun (earlier, later) => earlier != later

/-- The packs that a handover needs (`Grid.handoverBatteries`). -/
def handoverBatteries (g : Grid) (truckKw batteryCapacity : α) (pair : ShiftId × ShiftId) :
    Except Fault Nat := do
  let earlier ← shift g pair.1
  let later ← shift g pair.2
  let energy := Quantity.ofNat (earlier.truckHours + later.truckHours) * truckKw
  let byEnergy := Quantity.ceilUpTo (twoTo 64 - 1) (energy / batteryCapacity)
  return max (earlier.trucks + later.trucks) byEnergy

/-- The least count of packs that the schedule can run on (`Grid.minBatteries`). -/
def minBatteries (g : Grid) (truckKw batteryCapacity : α) : Except Fault Nat := do
  let needs ← (← handovers g).mapM (handoverBatteries g truckKw batteryCapacity)
  return min (needs.foldl max 0) largestCount

/-- A count of packs, raised where it falls short of `minBatteries`, and what is noted down. -/
def sizedBatteries (g : Grid) (truckKw batteryCapacity : α) (batteries : Nat) :
    Except Fault (Nat × List (Event α)) := do
  let required ← minBatteries g truckKw batteryCapacity
  if batteries < required then
    let missing ← difference required batteries
    return (required, [.notEnoughBatteries batteries required, .addingBatteries missing])
  else return (batteries, [])

theorem handovers_eq (g : Grid) : handovers g = .ok g.handovers := by
  unfold handovers Grid.handovers
  rw [mapM_eq_ok fun index _ => shiftIdAt_eq g index, ok_bind]
  dsimp only
  rw [List.filterMap_map]
  rfl

theorem lt_size_of_mem_handovers (hg : g.IsSound) {pair : ShiftId × ShiftId}
    (h : pair ∈ g.handovers) : pair.1 < g.shifts.size ∧ pair.2 < g.shifts.size := by
  have hids : ∀ id ∈ (List.range weekHours).filterMap g.shiftIdAt, id < g.shifts.size := by
    intro id hid
    obtain ⟨index, -, hindex⟩ := List.mem_filterMap.mp hid
    exact hg index id hindex
  obtain ⟨hearlier, hlater⟩ := List.of_mem_zip (List.mem_filter.mp h).1
  exact ⟨hids _ hearlier, hids _ (List.mem_of_mem_tail hlater)⟩

variable (hg : g.IsSound) (truckKw batteryCapacity : α)

include hg

theorem handoverBatteries_eq {pair : ShiftId × ShiftId} (h : pair ∈ g.handovers) :
    handoverBatteries g truckKw batteryCapacity pair =
      .ok (g.handoverBatteries truckKw batteryCapacity pair) := by
  obtain ⟨hfirst, hsecond⟩ := lt_size_of_mem_handovers hg h
  obtain ⟨earlier, hearlier, hcheckedEarlier⟩ := exists_shift_eq hfirst
  obtain ⟨later, hlater, hcheckedLater⟩ := exists_shift_eq hsecond
  unfold handoverBatteries Grid.handoverBatteries Grid.truckHoursOf Grid.trucksOf
  rw [hcheckedEarlier, ok_bind, hcheckedLater, ok_bind, Option.bind_some, Option.bind_some,
    hearlier, hlater]
  rfl

theorem minBatteries_eq :
    minBatteries g truckKw batteryCapacity = .ok (g.minBatteries truckKw batteryCapacity) := by
  unfold minBatteries
  rw [handovers_eq, ok_bind,
    mapM_eq_ok fun _ hpair => handoverBatteries_eq hg truckKw batteryCapacity hpair]
  rfl

/-- `sizedBatteries` succeeds: batteries are missing only where more are required than there are. -/
theorem sizedBatteries_eq (batteries : Nat) :
    sizedBatteries g truckKw batteryCapacity batteries =
      .ok (g.sizedBatteries truckKw batteryCapacity batteries,
        g.batteryEvents truckKw batteryCapacity batteries) := by
  unfold sizedBatteries Grid.sizedBatteries Grid.batteryEvents
  rw [minBatteries_eq hg, ok_bind]
  dsimp only
  split_ifs with hshort
  · rw [difference_eq hshort.le, max_eq_right hshort.le]
    rfl
  · rw [max_eq_left (Nat.not_lt.mp hshort)]
    rfl

omit hg

/-! ### Chargers -/

/-- The count at `position` of an hourly list, which has to be as long. -/
def count (counts : List Nat) (position : Nat) : Except Fault Nat :=
  match counts[position]? with
  | some count => .ok count
  | none => .error (.noCount position)

/-- Moves a window of 24 hours so that it starts at the hour `start`. -/
def moveTo (counts : List Nat) (w : Grid.Window) (start : Nat) : Except Fault Grid.Window := do
  let leaving ← count counts (← difference start 1)
  let coming ← count counts (← difference (start + hoursPerDay) 1)
  let sum := (← difference w.sum leaving) + coming
  return ⟨sum, max w.largest sum⟩

/-- The most truck-hours in a window of 24 hours (`Grid.busiestDay`). -/
def busiestDay (g : Grid) : Except Fault Nat := do
  let counts ← (List.range weekHours).mapM (trucksAt g)
  let first ← (List.range hoursPerDay).mapM (count counts)
  let moves := (← difference weekHours hoursPerDay) - 1
  let last ← (List.range' 1 moves).foldlM (moveTo counts) ⟨first.sum, first.sum⟩
  return last.largest

/-- A count of chargers, raised where a day of charging falls short of `busiestDay`, and what is
noted down. -/
def sizedChargers (g : Grid) (truckKw maxChargeKw : α) (chargers : Nat) :
    Except Fault (Nat × List (Event α)) := do
  let needed := Quantity.ofNat (← busiestDay g) * truckKw
  let supply := Grid.supply maxChargeKw chargers
  if supply < needed then
    let missing :=
      Quantity.ceilUpTo largestCount ((needed - supply) / Grid.dailySupply maxChargeKw)
    return (min (chargers + missing) largestCount,
      [.insufficientCharging supply needed, .addingChargers missing])
  else return (chargers, [])

section Window

variable (g)

theorem count_eq {position : Nat} (h : position < weekHours) :
    count ((List.range weekHours).map g.trucksAt) position = .ok (g.trucksAt position) := by
  unfold count
  rw [List.getElem?_map, List.getElem?_range h]
  rfl

/-- The hour that the window leaves, `start`, is one of those that it has added up. -/
theorem trucksAt_le_sum_windowAt {start : Nat} (h : start + hoursPerDay ≤ weekHours) :
    g.trucksAt start ≤ (g.windowAt start).sum := by
  rw [g.sum_windowAt h, ← g.truckHoursFrom_one]
  exact g.truckHoursFrom_mono start (by decide)

theorem moveTo_windowAt {start : Nat} (h : start + hoursPerDay < weekHours) :
    moveTo ((List.range weekHours).map g.trucksAt) (g.windowAt start) (start + 1) =
      .ok (g.windowAt (start + 1)) := by
  have hstart : start < weekHours := Nat.lt_of_le_of_lt (Nat.le_add_right _ _) h
  have hcoming : start + 1 + hoursPerDay - 1 = start + hoursPerDay := by omega
  have hmoved : g.windowAt (start + 1) =
      ⟨(g.windowAt start).sum - g.trucksAt start + g.trucksAt (start + hoursPerDay),
        max (g.windowAt start).largest
          ((g.windowAt start).sum - g.trucksAt start + g.trucksAt (start + hoursPerDay))⟩ := by
    rw [g.windowAt_succ]
    unfold Grid.Window.moveTo
    dsimp only
    rw [hcoming, Nat.add_sub_cancel, g.getD_hourlyTrucks hstart, g.getD_hourlyTrucks h]
  unfold moveTo
  rw [difference_eq (Nat.le_add_left _ _), ok_bind, Nat.add_sub_cancel, count_eq g hstart, ok_bind,
    difference_eq (by omega), ok_bind, hcoming, count_eq g h, ok_bind,
    difference_eq (trucksAt_le_sum_windowAt g h.le), hmoved]
  rfl

theorem foldlM_moveTo {moves : Nat} (h : moves + hoursPerDay ≤ weekHours) :
    (List.range' 1 moves).foldlM (moveTo ((List.range weekHours).map g.trucksAt)) (g.windowAt 0) =
      .ok (g.windowAt moves) := by
  induction moves with
  | zero => rfl
  | succ moves ih =>
    rw [List.range'_1_concat, List.foldlM_append, ih (by omega), ok_bind, Nat.add_comm 1 moves,
      List.foldlM_cons, moveTo_windowAt g (by omega), ok_bind]
    rfl

end Window

include hg

theorem busiestDay_eq : busiestDay g = .ok g.busiestDay := by
  have hday : hoursPerDay ≤ weekHours := by decide
  have hfirst : ((List.range hoursPerDay).map g.trucksAt).sum = g.truckHoursFrom 0 hoursPerDay := by
    unfold Grid.truckHoursFrom
    simp only [Nat.zero_add]
    rfl
  unfold busiestDay
  rw [mapM_eq_ok fun index _ => trucksAt_eq hg index, ok_bind,
    mapM_eq_ok fun position hposition =>
      count_eq g (Nat.lt_of_lt_of_le (List.mem_range.mp hposition) hday),
    ok_bind, difference_eq hday, ok_bind, hfirst, ← Grid.windowAt_zero]
  dsimp only
  rw [foldlM_moveTo g (by decide)]
  rfl

/-- `sizedChargers` succeeds: chargers are added, and none are taken away. -/
theorem sizedChargers_eq (maxChargeKw : α) (chargers : Nat) :
    sizedChargers g truckKw maxChargeKw chargers =
      .ok (g.sizedChargers truckKw maxChargeKw chargers,
        g.chargerEvents truckKw maxChargeKw chargers) := by
  unfold sizedChargers Grid.sizedChargers Grid.chargerEvents
  rw [busiestDay_eq hg, ok_bind]
  by_cases hshort : Grid.supply maxChargeKw chargers < g.maxDailyEnergy truckKw
  · dsimp only
    rw [if_pos hshort, if_pos hshort]
    exact if_pos hshort
  · dsimp only
    rw [if_neg hshort, if_neg hshort]
    exact if_neg hshort

end TruckDepot.Checked
