import TruckDepot.Proofs.Fleet.AnyPolicy
import TruckDepot.Proofs.Schedule.Coverage
import TruckDepot.Proofs.Schedule.Declaration

/-!
# The schedule of a restored fleet

Of its schedule a fleet saves the declarations that the grid was read from, and the restored fleet
reads them again (`Fleet.restore_grid`).  That is the same grid if it schedules anything, and
the default grid if it does not (`Grid.IsRead.configure_tokens`).  Shifts may have been added to the
grid after it was read; at the hours that none of them covers it is still the grid that was read
(`Grid.shiftIdAt_addAll_of_not_covers`, `Grid.trucksAt_addAll_of_not_covers`).

`Fleet.schedule_restore_saved` puts this together.  A schedule as a whole need not come back:
`Fleet.trucksAt_restore_saved_ne` has a fleet without a schedule and one with a late shift.
-/

namespace TruckDepot

open TruckDepot.Random

namespace Grid

/-! ### Grids that were read -/

/-- The grid was read from declarations by `ofTokens` or `configure`. -/
def IsRead (g : Grid) : Prop :=
  ∃ tokens, g = (ofTokens tokens).1 ∨ g = (configure tokens).grid

section Read

variable {g : Grid} (h : g.IsRead)

include h

theorem IsRead.eq_ofTokens : g = (ofTokens g.tokens).1 := by
  obtain ⟨tokens, rfl | rfl⟩ := h
  · rfl
  · cases hempty : (ofTokens tokens).1.isEmpty with
    | true =>
      rw [configure_of_isEmpty hempty]
      rfl
    | false =>
      rw [configure_of_not_isEmpty hempty]
      rfl

theorem IsRead.configure_tokens :
    (configure g.tokens).grid = if g.isEmpty then default else g := by
  have hread := h.eq_ofTokens
  cases hempty : g.isEmpty with
  | true => exact configure_of_isEmpty (by rwa [← hread])
  | false => exact (configure_of_not_isEmpty (by rwa [← hread])).trans hread.symm

/-- No cell of a grid that was read names a shift that is not in its table. -/
theorem IsRead.lt_size_shifts {index id : Nat} (hid : g.shiftIdAt index = some id) :
    id < g.shifts.size := by
  have hread := h.eq_ofTokens
  rw [ofTokens_eq] at hread
  rw [hread] at hid ⊢
  obtain ⟨d, hd, -⟩ := ((shiftIdAt_addAll_eq_some_iff index _ id).mp hid).covers
  show id < (empty.addAll _).shifts.size
  rw [size_shifts_addAll]
  exact (List.getElem?_eq_some_iff.mp hd).1

end Read

/-! ### Hours that no added shift covers -/

section Added

variable (g : Grid) {added : List Declaration} {index : Nat}

theorem tokens_addAll (added : List Declaration) : (g.addAll added).tokens = g.tokens := by
  induction added generalizing g with
  | nil => rfl
  | cons d rest ih => exact ih (g.add d.1 d.2)

theorem shiftIdAt_addAll_of_not_covers (h : ∀ d ∈ added, ¬ CoversHour d index) :
    (g.addAll added).shiftIdAt index = g.shiftIdAt index := by
  induction added using List.reverseRecOn with
  | nil => rfl
  | append_singleton added d ih =>
    rw [List.forall_mem_append, List.forall_mem_singleton] at h
    rw [addAll_concat, shiftIdAt_add, if_neg h.2, ih h.1]

theorem shift?_addAll_of_lt (added : List Declaration) {id : ShiftId} (h : id < g.shifts.size) :
    (g.addAll added).shift? id = g.shift? id := by
  rw [shift?_eq, shift?_eq, shifts_addAll, List.getElem?_append_left]
  rwa [Array.length_toList]

/-- An hour that none of `added` covers keeps its trucks, since these shifts stand behind its
own. -/
theorem trucksAt_addAll_of_not_covers (hread : g.IsRead)
    (h : ∀ d ∈ added, ¬ CoversHour d index) :
    (g.addAll added).trucksAt index = g.trucksAt index := by
  unfold trucksAt trucksOf
  rw [g.shiftIdAt_addAll_of_not_covers h]
  cases hid : g.shiftIdAt index with
  | none => rfl
  | some id =>
    rw [Option.bind_some, Option.bind_some, g.shift?_addAll_of_lt added (hread.lt_size_shifts hid)]

theorem isEmpty_iff : g.isEmpty = true ↔ ∀ index, g.shiftIdAt index = none := by
  unfold isEmpty shiftIdAt
  rw [Vector.all_eq_true]
  constructor
  · intro h index
    exact Option.isNone_iff_eq_none.mp (h (index % weekHours) (Nat.mod_lt _ weekHours_pos))
  · intro h i hi
    have hcell := h i
    simp only [Nat.mod_eq_of_lt hi] at hcell
    exact Option.isNone_iff_eq_none.mpr hcell

/-- `addAll` takes no hour from the schedule. -/
theorem isEmpty_of_isEmpty_addAll (h : (g.addAll added).isEmpty = true) : g.isEmpty = true := by
  induction added using List.reverseRecOn with
  | nil => exact h
  | append_singleton added d ih =>
    rw [addAll_concat, isEmpty_iff] at h
    refine ih ((isEmpty_iff _).mpr fun index => ?_)
    have hidle := h index
    rw [shiftIdAt_add] at hidle
    split_ifs at hidle
    exact hidle

end Added

end Grid

namespace Fleet

variable {α σ : Type} [Quantity α] [NormalSource σ α]

/-- **A schedule that was read comes back.**  If `read` schedules anything, the restored fleet has
the same `trucksAt` and `shiftIdAt` at every hour that none of `added` covers; if the live grid is
empty, it has `Grid.default`. -/
theorem schedule_restore_saved {read : Grid} (hread : read.IsRead) (added : List Declaration)
    {f : Fleet α σ} (hgrid : f.grid = read.addAll added) (history : List (AnyAction α))
    (name : String) (e : Equipment α) (source : σ) :
    let live := f.performAny history
    let restored := live.saved.restore name e source
    (read.isEmpty = false → ∀ index, (∀ d ∈ added, ¬ CoversHour d index) →
        restored.grid.trucksAt index = live.grid.trucksAt index ∧
          restored.grid.shiftIdAt index = live.grid.shiftIdAt index) ∧
      (live.grid.isEmpty = true → restored.grid = Grid.default) := by
  intro live restored
  have hlive : live.grid = read.addAll added := (performAny_grid f history).trans hgrid
  have hrestored : restored.grid = if read.isEmpty then Grid.default else read := by
    rw [← hread.configure_tokens, restore_grid]
    show (Grid.configure live.grid.tokens).grid = _
    rw [hlive, Grid.tokens_addAll]
  rw [hlive]
  constructor
  · intro hscheduled index hfree
    rw [hrestored, hscheduled, if_neg Bool.false_ne_true]
    exact ⟨(read.trucksAt_addAll_of_not_covers hread hfree).symm,
      (read.shiftIdAt_addAll_of_not_covers hfree).symm⟩
  · intro hidle
    rw [hrestored, read.isEmpty_of_isEmpty_addAll hidle, if_pos rfl]

/-- Mondays from eight to four, as they are declared. -/
def mondays : Grid :=
  (Grid.configure ["block", "2", "shift", "8", "8", "8"]).grid

/-- What is worked on Mondays, to be added on Tuesdays. -/
def tuesdays : List Declaration :=
  mondays.shifts.toList.map fun shift => (shift, [3])

/-- A new fleet with the grid `g` and the default equipment, half charged. -/
def dockWith (g : Grid) : Fleet Float32 Stream :=
  create "Dockside" .default g (.charged 750 0.5) (.ofSeed 7)

/-- Monday at eight. -/
def mondayMorning : List (AnyAction Float32) :=
  [.own (.work ⟨2, 8⟩ PriceList.default.toTariff)]

/-- The fleet that `dockWith g` becomes if it is saved on Monday at nine and restored. -/
def redeployed (g : Grid) : Fleet Float32 Stream :=
  ((dockWith g).performAny mondayMorning).saved.restore "Dockside" .default (.ofSeed 7)

theorem schedule_restore_saved_mondays :
    mondays.IsRead ∧ mondays.isEmpty = false ∧ (∀ d ∈ tuesdays, ¬ CoversHour d 32) ∧
      (redeployed (mondays.addAll tuesdays)).grid.trucksAt 32 =
        ((dockWith (mondays.addAll tuesdays)).performAny mondayMorning).grid.trucksAt 32 ∧
      (Grid.ofTokens []).1.IsRead ∧
      ((dockWith (Grid.ofTokens []).1).performAny mondayMorning).grid.isEmpty = true ∧
      (redeployed (Grid.ofTokens []).1).grid = Grid.default := by
  have hread : mondays.IsRead := ⟨_, Or.inr rfl⟩
  have hscheduled : mondays.isEmpty = false := by decide +kernel
  have hfree : ∀ d ∈ tuesdays, ¬ CoversHour d 32 := by decide +kernel
  have hempty : (Grid.ofTokens []).1.IsRead := ⟨[], Or.inl rfl⟩
  have hidle : ((dockWith (Grid.ofTokens []).1).performAny mondayMorning).grid.isEmpty = true := by
    rw [performAny_grid]
    decide +kernel
  have hgrid (g : Grid) : (dockWith g).grid = g := rfl
  have hnone (g : Grid) : (dockWith g).grid = g.addAll [] := rfl
  obtain ⟨hlate, -⟩ := schedule_restore_saved hread tuesdays (hgrid _) mondayMorning "Dockside"
    .default (.ofSeed 7)
  obtain ⟨-, hnever⟩ := schedule_restore_saved hempty [] (hnone _) mondayMorning "Dockside"
    .default (.ofSeed 7)
  unfold redeployed
  exact ⟨hread, hscheduled, hfree, (hlate hscheduled 32 hfree).1, hempty, hidle, hnever hidle⟩

theorem grid_redeployed (g : Grid) : (redeployed g).grid = (Grid.configure g.tokens).grid := by
  unfold redeployed
  rw [restore_grid]
  show (Grid.configure ((dockWith g).performAny mondayMorning).grid.tokens).grid = _
  rw [performAny_grid]
  rfl

/-- A fleet whose declarations schedule nothing works Mondays at eight once it is restored, and one
with `tuesdays` added does not work then any more. -/
theorem trucksAt_restore_saved_ne :
    (redeployed (Grid.ofTokens []).1).grid.trucksAt 32 ≠
        ((dockWith (Grid.ofTokens []).1).performAny mondayMorning).grid.trucksAt 32 ∧
      (redeployed (mondays.addAll tuesdays)).grid.trucksAt 56 ≠
        ((dockWith (mondays.addAll tuesdays)).performAny mondayMorning).grid.trucksAt 56 := by
  rw [grid_redeployed, grid_redeployed, performAny_grid, performAny_grid]
  decide +kernel

end Fleet

end TruckDepot
