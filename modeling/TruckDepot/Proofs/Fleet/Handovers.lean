import Mathlib.Tactic.Linarith
import TruckDepot.Fleet.Exact
import TruckDepot.Proofs.Fleet.Sizing
import TruckDepot.Schedule.Declaration

/-!
# Packs for every handover

Whenever one shift takes over from another one in the course of a week, a fleet of sized batteries
has a pack for every truck of both, and the packs hold the energy of both
(`Grid.handovers_covered`).  `Grid.TakesOver` says what a handover is without the scan that looks
for them, and `Grid.TakesOver.mem_handovers` that the scan finds it.

The scan begins with the first hour of the week and ends with the last.  It does not see the first
shift of a week take over from the last one of the week before, and where there is but one shift it
sees no handover at all (`Grid.sizedBatteries_lt_relayDay`).
-/

namespace TruckDepot.Grid

variable {g : Grid}

/-! ### Handovers -/

/-- The shift `later` is on at hour `j` after `earlier` was on at hour `i`, with no shift in
between.  Hours are counted on past the end of the week. -/
structure TakesOver (g : Grid) (i j : Nat) (earlier later : ShiftId) : Prop where
  lt : i < j
  earlier_on : g.shiftIdAt i = some earlier
  later_on : g.shiftIdAt j = some later
  ne : earlier ≠ later
  idle : ∀ k < j, i < k → g.shiftIdAt k = none

theorem mem_zip_tail_of_append {β : Type} (before after : List β) (a b : β) :
    (a, b) ∈ (before ++ a :: b :: after).zip (before ++ a :: b :: after).tail := by
  induction before with
  | nil => exact List.mem_cons_self
  | cons x before ih =>
    cases hrest : before ++ a :: b :: after with
    | nil => exact absurd hrest (by simp)
    | cons y rest =>
      rw [hrest] at ih
      rw [List.cons_append, hrest]
      exact List.mem_cons_of_mem _ ih

theorem range'_add_succ (start before after : Nat) :
    List.range' start (before + (after + 1)) =
      List.range' start before ++ (start + before) :: List.range' (start + before + 1) after := by
  rw [← List.range'_append_1, List.range'_succ]

/-- `handovers` has every handover with `j < weekHours`. -/
theorem TakesOver.mem_handovers {i j : Nat} {earlier later : ShiftId}
    (h : g.TakesOver i j earlier later) (hj : j < weekHours) :
    (earlier, later) ∈ g.handovers := by
  have hij := h.lt
  -- the week: hours before `i`, `gap` idle ones up to `j`, and the rest
  obtain ⟨gap, rfl⟩ : ∃ gap, j = i + 1 + gap := ⟨j - (i + 1), by omega⟩
  obtain ⟨rest, hweek⟩ : ∃ rest, weekHours = i + (gap + (rest + 1) + 1) :=
    ⟨weekHours - (i + 1 + gap) - 1, by omega⟩
  have hhours : List.range weekHours = List.range' 0 i ++
      i :: (List.range' (i + 1) gap ++ (i + 1 + gap) :: List.range' (i + 1 + gap + 1) rest) := by
    rw [List.range_eq_range', hweek, range'_add_succ, range'_add_succ, Nat.zero_add]
  have hidle : (List.range' (i + 1) gap).filterMap g.shiftIdAt = [] := by
    rw [List.filterMap_eq_nil_iff]
    intro k hk
    rw [List.mem_range'_1] at hk
    exact h.idle k hk.2 hk.1
  -- idle hours drop out, so both shifts come to stand next to each other
  unfold handovers
  dsimp only
  rw [hhours, List.filterMap_append, List.filterMap_cons_some h.earlier_on,
    List.filterMap_append, hidle, List.nil_append, List.filterMap_cons_some h.later_on]
  exact List.mem_filter.mpr ⟨mem_zip_tail_of_append _ _ _ _, by simpa using h.ne⟩

theorem handovers_eq_nil (hg : ¬ g.ShowsTwoShifts) : g.handovers = [] := by
  unfold handovers
  dsimp only
  rw [List.filter_eq_nil_iff]
  rintro ⟨a, b⟩ hpair hne
  obtain ⟨ha, hb⟩ := List.of_mem_zip hpair
  obtain ⟨i, -, hi⟩ := List.mem_filterMap.mp ha
  obtain ⟨j, -, hj⟩ := List.mem_filterMap.mp (List.mem_of_mem_tail hb)
  exact hg ⟨i, j, a, b, hi, hj, by simpa using hne⟩

/-! ### Packs -/

theorem sizedBatteries_of_not_showsTwoShifts {α : Type} [Quantity α]
    (truckKw batteryCapacity : α) (hg : ¬ g.ShowsTwoShifts) (batteries : Nat) :
    g.sizedBatteries truckKw batteryCapacity batteries = batteries := by
  have hnone : g.minBatteries truckKw batteryCapacity = 0 := by
    unfold minBatteries
    rw [handovers_eq_nil hg]
    rfl
  unfold sizedBatteries
  rw [hnone, max_eq_left (Nat.zero_le _)]

variable {truckKw batteryCapacity : Rat}

/-- Packs that are enough by `handoverBatteries` hold the energy of both shifts. -/
theorem energy_le_of_handoverBatteries_le (hcapacity : 0 < batteryCapacity)
    {earlier later : ShiftId} {n : Nat} (hn : n < largestCount)
    (h : g.handoverBatteries truckKw batteryCapacity (earlier, later) ≤ n) :
    ((g.truckHoursOf earlier + g.truckHoursOf later : Nat) : Rat) * truckKw ≤
      n * batteryCapacity := by
  have hbound : n < twoTo 64 - 1 := hn.trans (by decide)
  have hpacks : Quantity.ceilUpTo (twoTo 64 - 1)
      (((g.truckHoursOf earlier + g.truckHoursOf later : Nat) : Rat) * truckKw /
        batteryCapacity) ≤ n := by
    unfold handoverBatteries at h
    exact (le_max_right _ _).trans h
  rwa [Quantity.ceilUpTo_le_iff hbound, div_le_iff₀ hcapacity] at hpacks

/-- **Sized batteries cover every handover.**  Below `largestCount`, `sizedBatteries` are enough for
the trucks and the energy of both shifts of every `TakesOver` within the week; for `trucksAt` of
every hour if `g.ShowsTwoShifts`, and else `batteries` is left as it was. -/
theorem handovers_covered (hcapacity : 0 < batteryCapacity) {batteries : Nat}
    (hcount : g.sizedBatteries truckKw batteryCapacity batteries < largestCount) :
    (g.ShowsTwoShifts →
        ∀ index, g.trucksAt index ≤ g.sizedBatteries truckKw batteryCapacity batteries) ∧
      (¬ g.ShowsTwoShifts → g.sizedBatteries truckKw batteryCapacity batteries = batteries) ∧
      ∀ i j earlier later, g.TakesOver i j earlier later → j < weekHours →
        g.trucksOf (some earlier) + g.trucksOf (some later) ≤
            g.sizedBatteries truckKw batteryCapacity batteries ∧
          ((g.truckHoursOf earlier + g.truckHoursOf later : Nat) : Rat) * truckKw ≤
            g.sizedBatteries truckKw batteryCapacity batteries * batteryCapacity := by
  have hmin : g.minBatteries truckKw batteryCapacity ≤
      g.sizedBatteries truckKw batteryCapacity batteries := le_max_right _ _
  refine ⟨?_, ?_, ?_⟩
  · intro hg
    exact trucksAt_le_sizedBatteries truckKw batteryCapacity (Or.inl hg)
  · intro hg
    exact sizedBatteries_of_not_showsTwoShifts truckKw batteryCapacity hg batteries
  · intro i j earlier later hover hj
    have hneed := min_handoverBatteries_le_minBatteries truckKw batteryCapacity
      (hover.mem_handovers hj)
    have hpacks : g.handoverBatteries truckKw batteryCapacity (earlier, later) ≤
        g.sizedBatteries truckKw batteryCapacity batteries := by omega
    exact ⟨(g.trucksOf_add_le_handoverBatteries truckKw batteryCapacity _ _).trans hpacks,
      energy_le_of_handoverBatteries_le hcapacity hcount hpacks⟩

/-- Ten trucks from midnight to six, one from eight and ten from sixteen, on Mondays. -/
def relayDay : Grid :=
  (Grid.configure ["block", "2", "shift", "0", "6", "10", "shift", "8", "8", "1",
    "shift", "16", "8", "10"]).grid

/-- Five trucks on Mondays, in one shift. -/
def soleShift : Grid :=
  (Grid.configure ["block", "2", "shift", "8", "8", "5"]).grid

theorem handovers_covered_relayDay :
    relayDay.sizedBatteries (4 : Rat) 50 2 < largestCount ∧ relayDay.ShowsTwoShifts ∧
      (∀ index, relayDay.trucksAt index ≤ relayDay.sizedBatteries (4 : Rat) 50 2) ∧
      relayDay.TakesOver 29 32 0 1 ∧
      ((relayDay.truckHoursOf 0 + relayDay.truckHoursOf 1 : Nat) : Rat) * 4 ≤
        relayDay.sizedBatteries (4 : Rat) 50 2 * 50 := by
  have hcapacity : (0 : Rat) < 50 := by norm_num
  have hcount : relayDay.sizedBatteries (4 : Rat) 50 2 < largestCount := by decide +kernel
  have htwo : relayDay.ShowsTwoShifts := ⟨24, 32, 0, 1, by decide +kernel⟩
  have hover : relayDay.TakesOver 29 32 0 1 :=
    ⟨by decide, by decide +kernel, by decide +kernel, by decide, by decide +kernel⟩
  obtain ⟨htrucks, -, henergy⟩ := handovers_covered hcapacity hcount
  exact ⟨hcount, htwo, htrucks htwo, hover, (henergy 29 32 0 1 hover (by decide)).2⟩

/-- `soleShift` has more trucks than packs; so have the last and the first shift of `relayDay`
together, over the end of the week, and the packs do not hold their energy. -/
theorem sizedBatteries_lt_relayDay :
    (soleShift.sizedBatteries (4 : Rat) 50 2 < largestCount ∧
        soleShift.sizedBatteries (4 : Rat) 50 2 < soleShift.trucksAt 32) ∧
      relayDay.TakesOver 47 (weekHours + 24) 2 0 ∧
      relayDay.sizedBatteries (4 : Rat) 50 2 < largestCount ∧
      relayDay.sizedBatteries (4 : Rat) 50 2 <
        relayDay.trucksOf (some 2) + relayDay.trucksOf (some 0) ∧
      (relayDay.sizedBatteries (4 : Rat) 50 2 : Rat) * 50 <
        ((relayDay.truckHoursOf 2 + relayDay.truckHoursOf 0 : Nat) : Rat) * 4 := by
  have hover : relayDay.TakesOver 47 (weekHours + 24) 2 0 :=
    ⟨by decide, by decide +kernel, by decide +kernel, by decide, by decide +kernel⟩
  exact ⟨by decide +kernel, hover, by decide +kernel⟩

end TruckDepot.Grid
