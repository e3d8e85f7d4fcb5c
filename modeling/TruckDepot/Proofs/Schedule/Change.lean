import Mathlib.Tactic.Common
import TruckDepot.Fleet.Plan
import TruckDepot.Proofs.Week

/-!
# Changes of shift

`Grid.IsHoursToChange` says what it means that some hours are left until the shift changes, with a
whole week standing for a schedule that never changes.  There is exactly one such number
(`IsHoursToChange.unique`), and `Grid.hoursToChange` is it (`isHoursToChange_hoursToChange`).  While
the shift goes on, an hour that passes takes one off (`hoursToChange_nextHour`).
-/

namespace TruckDepot.Grid

variable (g : Grid)

/-! ### Hours of the same cell -/

theorem shiftIdAt_congr {i j : Nat} (h : i % weekHours = j % weekHours) :
    g.shiftIdAt i = g.shiftIdAt j := by
  unfold shiftIdAt
  congr 1
  exact Fin.ext h

@[simp] theorem shiftIdAt_mod (index : Nat) : g.shiftIdAt (index % weekHours) = g.shiftIdAt index :=
  g.shiftIdAt_congr (Nat.mod_mod _ _)

@[simp] theorem shiftIdAt_nextHour (index : Nat) :
    g.shiftIdAt (nextHour index) = g.shiftIdAt (index + 1) := by
  rw [nextHour_eq, shiftIdAt_mod]

/-- Every hour of the week has the same `shiftIdAt`: one shift all week, or none. -/
def Uniform : Prop :=
  ∀ i j, g.shiftIdAt i = g.shiftIdAt j

/-! ### The hours left -/

/-- From the hour `index` on, `hours` are left until the shift changes; `weekHours` if it never
does. -/
structure IsHoursToChange (index hours : Nat) : Prop where
  /-- At least this hour is left. -/
  pos : 0 < hours
  /-- The shift goes on for all of these hours. -/
  same : ∀ k < hours, g.shiftIdAt (index + k) = g.shiftIdAt index
  /-- After them the shift changes, if it ever does. -/
  change : g.shiftIdAt (index + hours) ≠ g.shiftIdAt index ∨ hours = weekHours ∧ g.Uniform

variable {g}

theorem uniform_of_week {index : Nat}
    (h : ∀ k, 1 ≤ k → k < weekHours → g.shiftIdAt (index + k) = g.shiftIdAt index) :
    g.Uniform := by
  -- every hour lies within a week after the given one
  have hall : ∀ i, g.shiftIdAt i = g.shiftIdAt index := by
    intro i
    set k := (i + (weekHours - index % weekHours)) % weekHours with hk
    have hik : g.shiftIdAt i = g.shiftIdAt (index + k) := by
      apply shiftIdAt_congr
      rw [hk]
      unfold weekHours
      omega
    rw [hik]
    rcases Nat.eq_zero_or_pos k with h0 | hpos
    · rw [h0, Nat.add_zero]
    · exact h k hpos (Nat.mod_lt _ weekHours_pos)
  intro i j
  rw [hall i, hall j]

variable (g)

theorem isHoursToChange_hoursToChange (index : Nat) :
    g.IsHoursToChange index (g.hoursToChange index) := by
  unfold hoursToChange
  dsimp only
  cases hfind : (List.range' 1 (weekHours - 1)).find?
      (fun k => g.shiftIdAt (index + k) != g.shiftIdAt index) with
  | some d =>
    rw [List.find?_range'_eq_some] at hfind
    -- `d` is the first hour with another shift
    obtain ⟨hd, hmem, hbefore⟩ := hfind
    rw [List.mem_range'_1] at hmem
    refine ⟨hmem.1, ?_, Or.inl (by simpa using hd)⟩
    intro k hk
    rcases Nat.eq_zero_or_pos k with h0 | hpos
    · rw [h0, Nat.add_zero]
    · simpa using hbefore k hpos hk
  | none =>
    rw [List.find?_range'_eq_none] at hfind
    -- no hour of a whole week has another one
    have hsame : ∀ k, 1 ≤ k → k < weekHours →
        g.shiftIdAt (index + k) = g.shiftIdAt index := by
      intro k h1 hk
      have hk' : k < 1 + (weekHours - 1) := by
        unfold weekHours at hk ⊢
        omega
      simpa using hfind k h1 hk'
    have huniform := uniform_of_week hsame
    exact ⟨weekHours_pos, fun k _ => huniform _ _, Or.inr ⟨rfl, huniform⟩⟩

variable {g}

theorem IsHoursToChange.le_of {index d d' : Nat} (h : g.IsHoursToChange index d)
    (h' : g.IsHoursToChange index d') : d' ≤ d := by
  by_contra hlt
  rw [Nat.not_le] at hlt
  rcases h.change with hne | ⟨hd, huniform⟩
  · -- the shift would change within the hours that it goes on for
    exact hne (h'.same d hlt)
  · rcases h'.change with hne | ⟨hd', _⟩
    · exact hne (huniform _ _)
    · omega

/-- `IsHoursToChange index` determines the number of hours. -/
theorem IsHoursToChange.unique {index d d' : Nat} (h : g.IsHoursToChange index d)
    (h' : g.IsHoursToChange index d') : d = d' :=
  Nat.le_antisymm (h'.le_of h) (h.le_of h')

theorem IsHoursToChange.eq_hoursToChange {index d : Nat} (h : g.IsHoursToChange index d) :
    d = g.hoursToChange index :=
  h.unique (g.isHoursToChange_hoursToChange index)

theorem IsHoursToChange.of_not_uniform {index d : Nat} (h : g.IsHoursToChange index d)
    (hg : ¬ g.Uniform) : g.shiftIdAt (index + d) ≠ g.shiftIdAt index :=
  h.change.resolve_right fun hweek => hg hweek.2

theorem hoursToChange_congr (g : Grid) {i j : Nat} (h : i % weekHours = j % weekHours) :
    g.hoursToChange i = g.hoursToChange j := by
  have hcell : ∀ k, g.shiftIdAt (i + k) = g.shiftIdAt (j + k) := by
    intro k
    apply shiftIdAt_congr
    rw [Nat.add_mod, h, ← Nat.add_mod]
  unfold hoursToChange
  simp only [hcell, g.shiftIdAt_congr h]

/-- While the shift goes on, `nextHour` takes one off `hoursToChange`. -/
theorem hoursToChange_nextHour {index : Nat} (h : g.shiftIdAt (index + 1) = g.shiftIdAt index)
    (hg : ¬ g.Uniform) :
    g.hoursToChange (nextHour index) + 1 = g.hoursToChange index := by
  have hleft := g.isHoursToChange_hoursToChange index
  have hpos := hleft.pos
  -- this hour is not the last one
  have hlong : g.hoursToChange index ≠ 1 := by
    intro h1
    have hne := hleft.of_not_uniform hg
    rw [h1] at hne
    exact hne h
  have hnext : g.IsHoursToChange (index + 1) (g.hoursToChange index - 1) := by
    refine ⟨by omega, ?_, Or.inl ?_⟩
    · intro k hk
      rw [Nat.add_assoc, hleft.same (1 + k) (by omega), h]
    · rw [show index + 1 + (g.hoursToChange index - 1) = index + g.hoursToChange index by omega, h]
      exact hleft.of_not_uniform hg
  -- `index + 1` may lie past the end of the week, where `nextHour` wraps
  have hsame : nextHour index % weekHours = (index + 1) % weekHours := by
    rw [nextHour_eq, Nat.mod_mod]
  rw [g.hoursToChange_congr hsame, ← hnext.eq_hoursToChange]
  omega

/-! ### The hour of the change -/

variable (g)

/-- The hour of the week at which the shift of `index` changes next, below `weekHours`. -/
def nextChange (index : Nat) : Nat :=
  (index + g.hoursToChange index) % weekHours

theorem shiftIdAt_nextChange (index : Nat) :
    g.shiftIdAt (g.nextChange index) = g.shiftIdAt (index + g.hoursToChange index) :=
  g.shiftIdAt_mod _

theorem nextChange_congr {i j : Nat} (h : i % weekHours = j % weekHours) :
    g.nextChange i = g.nextChange j := by
  unfold nextChange
  rw [g.hoursToChange_congr h, Nat.add_mod, h, ← Nat.add_mod]

variable {g}

/-- While the shift goes on, `nextHour` leaves `nextChange` as it is. -/
theorem nextChange_nextHour {index : Nat} (h : g.shiftIdAt (index + 1) = g.shiftIdAt index)
    (hg : ¬ g.Uniform) : g.nextChange (nextHour index) = g.nextChange index := by
  have hhours := hoursToChange_nextHour h hg
  unfold nextChange
  rw [nextHour_eq, Nat.mod_add_mod, ← hhours]
  congr 1
  rw [← nextHour_eq]
  omega

/-- If the shift of `nextChange index` differs from that of `nextHour index`, no change comes in
between, and `g` is not `Uniform`. -/
theorem shiftIdAt_succ_of_nextChange {index : Nat}
    (h : g.shiftIdAt (g.nextChange index) ≠ g.shiftIdAt (nextHour index)) :
    g.shiftIdAt (index + 1) = g.shiftIdAt index ∧ ¬ g.Uniform := by
  have hleft := g.isHoursToChange_hoursToChange index
  rw [shiftIdAt_nextChange, shiftIdAt_nextHour] at h
  have hpos := hleft.pos
  have hlong : g.hoursToChange index ≠ 1 := by
    intro h1
    rw [h1] at h
    exact h rfl
  exact ⟨hleft.same 1 (by omega), fun hg => h (hg _ _)⟩

end TruckDepot.Grid
