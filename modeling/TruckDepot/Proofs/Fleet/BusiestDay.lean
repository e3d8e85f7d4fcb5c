import Mathlib.Order.Bounds.Basic
import TruckDepot.Proofs.Fleet.Sizing
import TruckDepot.Proofs.Schedule.TruckHours

/-!
# The busiest day

The busiest day is found by a window of 24 hours that moves on hour by hour: the hour that it leaves
is taken out of its sum, and the hour that it reaches is put in.  The sum is always that of the
hours in the window (`Grid.sum_windowAt`), so nothing is taken out that is not in it, and the
largest sum so far is the largest of all windows so far (`Grid.isGreatest_largest_windowAt`).  Hence
`Grid.isGreatest_busiestDay`: what is found is the most work of 24 hours that begin in the first six
days.

The windows that begin on the last day run on into the next week and are not searched.  Such a
window is the end of one week and the beginning of the next (`Grid.truckHoursFrom_lastDay`); the
beginning is part of the first window, and the end, but for its last hour, is part of the last one.
-/

namespace TruckDepot.Grid

variable (g : Grid)

/-! ### The search -/

/-- The trucks of the first `hours` of the week, as the search adds them up for its first window. -/
def sumOfFirst (g : Grid) (hours : Nat) : Nat :=
  (List.range hours).foldl (fun sum i => sum + g.hourlyTrucks[i]?.getD 0) 0

/-- The window of the search, when it has moved on to hour `start`. -/
def windowAt (g : Grid) (start : Nat) : Window :=
  (List.range' 1 start).foldl (Window.moveTo g.hourlyTrucks)
    ⟨g.sumOfFirst hoursPerDay, g.sumOfFirst hoursPerDay⟩

theorem busiestDay_eq : g.busiestDay = (g.windowAt (weekHours - hoursPerDay - 1)).largest :=
  rfl

theorem getD_hourlyTrucks {index : Nat} (h : index < weekHours) :
    g.hourlyTrucks[index]?.getD 0 = g.trucksAt index := by
  unfold hourlyTrucks
  rw [Vector.getElem?_ofFn, dif_pos h, Option.getD_some]

theorem sumOfFirst_eq {hours : Nat} (h : hours ≤ weekHours) :
    g.sumOfFirst hours = g.truckHoursFrom 0 hours := by
  induction hours with
  | zero => rfl
  | succ hours ih =>
    unfold sumOfFirst at ih ⊢
    rw [List.range_succ, List.foldl_append, ih (by omega), List.foldl_cons, List.foldl_nil,
      g.getD_hourlyTrucks (by omega), truckHoursFrom_add, truckHoursFrom_one, Nat.zero_add]

theorem windowAt_zero :
    g.windowAt 0 = ⟨g.truckHoursFrom 0 hoursPerDay, g.truckHoursFrom 0 hoursPerDay⟩ := by
  have hday : hoursPerDay ≤ weekHours := by decide
  unfold windowAt
  rw [g.sumOfFirst_eq hday, List.range'_zero, List.foldl_nil]

theorem windowAt_succ (start : Nat) :
    g.windowAt (start + 1) = (g.windowAt start).moveTo g.hourlyTrucks (start + 1) := by
  unfold windowAt
  rw [List.range'_1_concat, List.foldl_append, Nat.add_comm 1 start]
  rfl

/-- A move takes out the trucks of `start` and puts in those of `start + hoursPerDay`. -/
theorem sum_windowAt_succ {start : Nat} (h : start + hoursPerDay < weekHours) :
    (g.windowAt (start + 1)).sum =
      (g.windowAt start).sum - g.trucksAt start + g.trucksAt (start + hoursPerDay) := by
  have hstart : start < weekHours := by omega
  rw [windowAt_succ]
  unfold Window.moveTo
  dsimp only
  rw [Nat.add_sub_cancel, g.getD_hourlyTrucks hstart, Nat.add_right_comm, Nat.add_sub_cancel,
    g.getD_hourlyTrucks h]

theorem truckHoursFrom_day (start : Nat) :
    g.trucksAt start + g.truckHoursFrom (start + 1) hoursPerDay =
      g.truckHoursFrom start hoursPerDay + g.trucksAt (start + hoursPerDay) := by
  have hfirst := g.truckHoursFrom_add start 1 hoursPerDay
  have hlast := g.truckHoursFrom_add start hoursPerDay 1
  rw [truckHoursFrom_one] at hfirst hlast
  rw [← hfirst, ← hlast, Nat.add_comm]

/-- **The sum of `windowAt start`** is the work of the 24 hours from `start` on. -/
theorem sum_windowAt {start : Nat} (h : start + hoursPerDay ≤ weekHours) :
    (g.windowAt start).sum = g.truckHoursFrom start hoursPerDay := by
  induction start with
  | zero => rw [windowAt_zero]
  | succ start ih =>
    have hday := g.truckHoursFrom_day start
    rw [sum_windowAt_succ g (by omega), ih (by omega)]
    -- the hour that is left is one of those in the window
    have hin : g.trucksAt start ≤ g.truckHoursFrom start hoursPerDay := by
      rw [← truckHoursFrom_one]
      exact g.truckHoursFrom_mono start (by decide)
    omega

theorem isGreatest_largest_windowAt {start : Nat} (h : start + hoursPerDay ≤ weekHours) :
    IsGreatest {work | ∃ s ≤ start, g.truckHoursFrom s hoursPerDay = work}
      (g.windowAt start).largest := by
  induction start with
  | zero =>
    rw [windowAt_zero]
    refine ⟨⟨0, le_rfl, rfl⟩, ?_⟩
    rintro work ⟨s, hs, rfl⟩
    rw [Nat.le_zero.mp hs]
  | succ start ih =>
    obtain ⟨⟨best, hbest, hwork⟩, hgreatest⟩ := ih (by omega)
    have hlargest : (g.windowAt (start + 1)).largest =
        max (g.windowAt start).largest (g.truckHoursFrom (start + 1) hoursPerDay) := by
      rw [← g.sum_windowAt h, windowAt_succ]
      rfl
    -- the greater of the largest so far and the new sum is one of the sums, and bounds all
    rw [hlargest]
    constructor
    · rcases le_total (g.windowAt start).largest (g.truckHoursFrom (start + 1) hoursPerDay) with
        hle | hle
      · rw [max_eq_right hle]
        exact ⟨start + 1, le_rfl, rfl⟩
      · rw [max_eq_left hle]
        exact ⟨best, by omega, hwork⟩
    · rintro work ⟨s, hs, rfl⟩
      rcases Nat.le_or_eq_of_le_succ hs with hs | rfl
      · exact le_max_of_le_left (hgreatest ⟨s, hs, rfl⟩)
      · exact le_max_right _ _

/-- `busiestDay` is the most work of 24 hours that begin before the last day of the week. -/
theorem isGreatest_busiestDay :
    IsGreatest {work | ∃ start < weekHours - hoursPerDay,
      g.truckHoursFrom start hoursPerDay = work} g.busiestDay := by
  have hpos : 0 < weekHours - hoursPerDay := by decide
  have hlast : weekHours - hoursPerDay - 1 + hoursPerDay ≤ weekHours := by decide
  obtain ⟨⟨best, hbest, hwork⟩, hgreatest⟩ := g.isGreatest_largest_windowAt hlast
  rw [busiestDay_eq]
  refine ⟨⟨best, by omega, hwork⟩, ?_⟩
  rintro work ⟨s, hs, rfl⟩
  exact hgreatest ⟨s, by omega, rfl⟩

/-! ### Words of 64 bits -/

/-- The work of a day, or of a part of it, fits 64 bits. -/
theorem truckHoursFrom_lt_twoTo (start : Nat) {hours : Nat} (h : hours ≤ hoursPerDay) :
    g.truckHoursFrom start hours < twoTo 64 := by
  have hle : g.truckHoursFrom start hours ≤ hours * largestCount :=
    truckHoursFrom_le fun k _ => g.trucksOf_le_largestCount _
  calc g.truckHoursFrom start hours
      ≤ hoursPerDay * largestCount := hle.trans (Nat.mul_le_mul_right _ h)
    _ < twoTo 64 := by decide

/-! ### Days that begin on the last day of the week -/

theorem truckHoursFrom_le_busiestDay {start : Nat} (h : start < weekHours - hoursPerDay) :
    g.truckHoursFrom start hoursPerDay ≤ g.busiestDay :=
  g.isGreatest_busiestDay.2 ⟨start, h, rfl⟩

/-- A day from `start` on the last day has the end of one week and the beginning of the next. -/
theorem truckHoursFrom_lastDay {start : Nat} (h : weekHours - hoursPerDay ≤ start)
    (hend : start < weekHours) :
    g.truckHoursFrom start hoursPerDay =
      g.truckHoursFrom start (weekHours - start) +
        g.truckHoursFrom 0 (start + hoursPerDay - weekHours) := by
  have hnext : (start + (weekHours - start)) % weekHours = 0 % weekHours := by
    rw [Nat.add_sub_cancel' hend.le, Nat.mod_self, Nat.zero_mod]
  have hday : weekHours - start + (start + hoursPerDay - weekHours) = hoursPerDay := by omega
  rw [← g.truckHoursFrom_congr hnext, ← truckHoursFrom_add, hday]

/-- But for its last hour, the end of a week is part of the last window. -/
theorem truckHoursFrom_endOfWeek_le {start : Nat} (h : weekHours - hoursPerDay ≤ start)
    (hend : start < weekHours) :
    g.truckHoursFrom start (weekHours - start) ≤ g.busiestDay + g.trucksAt (weekHours - 1) := by
  have hlast : g.truckHoursFrom 143 hoursPerDay ≤ g.busiestDay :=
    g.truckHoursFrom_le_busiestDay (by decide)
  have hwhole : g.truckHoursFrom 143 (hoursPerDay + 1) =
      g.truckHoursFrom 143 hoursPerDay + g.trucksAt (weekHours - 1) := by
    rw [truckHoursFrom_add, truckHoursFrom_one]
    rfl
  have hsplit := g.truckHoursFrom_add 143 (start - 143) (weekHours - start)
  unfold weekHours hoursPerDay at *
  rw [show start - 143 + (168 - start) = 24 + 1 by omega,
    show 143 + (start - 143) = start by omega] at hsplit
  omega

theorem truckHoursFrom_beginningOfWeek_le {hours : Nat} (h : hours ≤ hoursPerDay) :
    g.truckHoursFrom 0 hours ≤ g.busiestDay :=
  (g.truckHoursFrom_mono 0 h).trans (g.truckHoursFrom_le_busiestDay (by decide))

end TruckDepot.Grid
