import Mathlib.Algebra.BigOperators.Group.Finset.Basic
import TruckDepot.Proofs.Schedule.Change

/-!
# Truck-hours of work

`Grid.truckHoursFrom` is the work of some hours that follow one another.  Stretches of hours add up
(`Grid.truckHoursFrom_add`), a week later they are the same (`Grid.truckHoursFrom_congr`), and while
one shift is on an hour is as good as any other (`Grid.truckHoursFrom_of_same`).
-/

namespace TruckDepot.Grid

/-- The truck-hours of `hours` hours from `start` on, which run on past the end of the week. -/
def truckHoursFrom (g : Grid) (start hours : Nat) : Nat :=
  ∑ k ∈ Finset.range hours, g.trucksAt (start + k)

variable (g : Grid)

theorem trucksAt_congr {i j : Nat} (h : i % weekHours = j % weekHours) :
    g.trucksAt i = g.trucksAt j := by
  unfold trucksAt
  rw [g.shiftIdAt_congr h]

@[simp] theorem truckHoursFrom_one (start : Nat) : g.truckHoursFrom start 1 = g.trucksAt start :=
  Finset.sum_range_one _

theorem truckHoursFrom_add (start hours later : Nat) :
    g.truckHoursFrom start (hours + later) =
      g.truckHoursFrom start hours + g.truckHoursFrom (start + hours) later := by
  unfold truckHoursFrom
  simp only [Finset.sum_range_add, Nat.add_assoc]

theorem truckHoursFrom_mono (start : Nat) {hours hours' : Nat} (h : hours ≤ hours') :
    g.truckHoursFrom start hours ≤ g.truckHoursFrom start hours' := by
  obtain ⟨later, rfl⟩ := Nat.exists_eq_add_of_le h
  rw [truckHoursFrom_add]
  exact Nat.le_add_right _ _

theorem truckHoursFrom_congr {i j : Nat} (h : i % weekHours = j % weekHours) (hours : Nat) :
    g.truckHoursFrom i hours = g.truckHoursFrom j hours := by
  refine Finset.sum_congr rfl fun k _ => g.trucksAt_congr ?_
  rw [Nat.add_mod, h, ← Nat.add_mod]

variable {g}

/-- With at most `count` trucks in each hour, the work is at most `hours * count`. -/
theorem truckHoursFrom_le {start hours count : Nat}
    (h : ∀ k < hours, g.trucksAt (start + k) ≤ count) :
    g.truckHoursFrom start hours ≤ hours * count := by
  induction hours with
  | zero => exact Nat.zero_le _
  | succ hours ih =>
    have hbefore := ih fun k hk => h k (by omega)
    have hlast := h hours (Nat.lt_succ_self _)
    rw [truckHoursFrom_add, truckHoursFrom_one, Nat.succ_mul]
    exact Nat.add_le_add hbefore hlast

theorem truckHoursFrom_of_idle {start hours : Nat} (h : ∀ k < hours, g.trucksAt (start + k) = 0) :
    g.truckHoursFrom start hours = 0 := by
  have hle := truckHoursFrom_le fun k hk => (h k hk).le
  omega

/-- While one shift is on, the work is `hours` times its trucks. -/
theorem truckHoursFrom_of_same {start hours : Nat}
    (h : ∀ k < hours, g.shiftIdAt (start + k) = g.shiftIdAt start) :
    g.truckHoursFrom start hours = hours * g.trucksAt start := by
  have htrucks : ∀ k ∈ Finset.range hours, g.trucksAt (start + k) = g.trucksAt start := by
    intro k hk
    unfold trucksAt
    rw [h k (Finset.mem_range.mp hk)]
  unfold truckHoursFrom
  rw [Finset.sum_const_nat htrucks, Finset.card_range]

end TruckDepot.Grid
