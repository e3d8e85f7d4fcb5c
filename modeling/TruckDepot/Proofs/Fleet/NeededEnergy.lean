import Mathlib.Algebra.BigOperators.Ring.Finset
import Mathlib.Algebra.BigOperators.Ring.List
import TruckDepot.Proofs.Fleet.Needs
import TruckDepot.Proofs.Fleet.Work
import TruckDepot.Proofs.Schedule.Occurrences
import TruckDepot.Proofs.Schedule.Segments
import TruckDepot.Proofs.Schedule.TruckHours

/-!
# The energy that a plan provides for

A plan provides for the shift that comes on at the end of a segment with the energy of all hours
that the shift is declared to last.  The trucks use the energy of the hours until the batteries are
swapped again.  These are the hours until the shift changes (`Grid.shiftChanged_workLog_hoursFrom`),
and `Grid.energyNeeded_project` says when the two are the same: where the shift is on for as long as
it is declared to last, so where the declared shifts are kept apart.

A shift that another one cuts short takes less than the plan provides for, and one that runs on into
its next occurrence takes more (`Grid.energyNeeded_ne_cutShort`).
-/

namespace TruckDepot

open Quantity Reading TruckDepot.Random

/-- The slots of `hours` hours from `index` on. -/
def Slot.hoursFrom (index hours : Nat) : List Slot :=
  (List.range hours).map fun k => ofIndex (index + k)

section HoursFrom

variable (index hours : Nat)

@[simp] theorem Slot.length_hoursFrom : (hoursFrom index hours).length = hours := by
  simp [hoursFrom]

@[simp] theorem Slot.getElem_hoursFrom {k : Nat} (hk : k < (hoursFrom index hours).length) :
    (hoursFrom index hours)[k] = ofIndex (index + k) := by
  simp [hoursFrom]

theorem Slot.hoursFrom_succ :
    hoursFrom index (hours + 1) = hoursFrom index hours ++ [ofIndex (index + hours)] := by
  simp [hoursFrom, List.range_succ]

end HoursFrom

theorem Equipment.exists_load_of_mem_needs {e : Equipment Rat} {loads : List (SegmentLoad Rat)}
    {onHand : Rat} {planned : PlannedSegment Rat} (h : planned ∈ e.needs loads onHand) :
    ∃ load ∈ loads, planned.endIndex = load.endIndex ∧ planned.energyNeeded = load.needed := by
  obtain ⟨i, hi⟩ := List.mem_iff_getElem?.mp h
  have hlt : i < loads.length := by
    rw [← e.length_needs loads onHand]
    exact (List.getElem?_eq_some_iff.mp hi).1
  obtain ⟨surplus, hplanned, -⟩ := e.getElem?_needs onHand (List.getElem?_eq_getElem hlt)
  obtain rfl := Option.some.inj (hplanned.symm.trans hi)
  exact ⟨loads[i], List.getElem_mem hlt, rfl, rfl⟩

namespace Grid

/-! ### The hour at which a shift comes on -/

section Segments

variable {g : Grid} {start horizon : Nat}

/-- Unless `g` is `Uniform`, the shift changes at the end of a segment. -/
theorem changes_of_mem_segments (hg : ¬ g.Uniform) {segment : Segment}
    (h : segment ∈ g.segments start horizon) :
    g.shiftIdAt (previousHour segment.endIndex) ≠ g.shiftIdAt segment.endIndex := by
  rcases mem_segments h with ⟨huniform, -⟩ | ⟨k, ⟨hpos, hchange⟩, rfl⟩
  · exact absurd huniform hg
  · have hlast : (start + (k - 1) + 1) % weekHours = (start + k) % weekHours % weekHours := by
      rw [Nat.add_assoc, Nat.sub_add_cancel hpos, Nat.mod_mod]
    show g.shiftIdAt (previousHour ((start + k) % weekHours)) ≠
      g.shiftIdAt ((start + k) % weekHours)
    rw [g.shiftIdAt_congr (previousHour_mod hlast), shiftIdAt_mod]
    exact hchange.symm

theorem exists_segment_of_mem_project {e : Equipment Rat} {onHand : Rat}
    {planned : PlannedSegment Rat} (h : planned ∈ g.project e start horizon onHand) :
    ∃ segment ∈ g.segments start horizon, planned.endIndex = segment.endIndex ∧
      planned.energyNeeded = (g.loadOf e.truckKw segment).needed := by
  obtain ⟨load, hload, hend, hneeded⟩ := Equipment.exists_load_of_mem_needs h
  obtain ⟨segment, hsegment, rfl⟩ := List.mem_map.mp hload
  exact ⟨segment, hsegment, hend, hneeded⟩

end Segments

/-! ### Declared hours and hours worked -/

variable (g : Grid) {index hours : Nat}

/-- The truck-hours that the shift at `index` is declared for in one occurrence. -/
def declaredTruckHours (index : Nat) : Nat :=
  ((g.shiftAt index).map Shift.truckHours).getD 0

theorem needed_loadOf (truckKw : Rat) (segment : Segment) :
    (g.loadOf truckKw segment).needed = g.declaredTruckHours segment.endIndex * truckKw := by
  unfold loadOf declaredTruckHours
  cases g.shiftAt segment.endIndex with
  | none => exact (zero_mul truckKw).symm
  | some shift => rfl

theorem trucksAt_eq (index : Nat) :
    g.trucksAt index = ((g.shiftAt index).map Shift.trucks).getD 0 :=
  rfl

variable {g}

theorem truckHoursFrom_of_isHoursToChange (h : g.IsHoursToChange index hours) :
    g.truckHoursFrom index hours = hours * g.trucksAt index :=
  truckHoursFrom_of_same h.same

theorem declaredTruckHours_eq_iff (h : g.IsHoursToChange index hours) :
    g.declaredTruckHours index = g.truckHoursFrom index hours ↔
      ∀ shift, g.shiftAt index = some shift → shift.duration = hours ∨ shift.trucks = 0 := by
  rw [truckHoursFrom_of_isHoursToChange h, trucksAt_eq]
  unfold declaredTruckHours
  cases g.shiftAt index with
  | none => simp
  | some shift =>
    show shift.trucks * shift.duration = hours * shift.trucks ↔ _
    rw [Nat.mul_comm hours, mul_eq_mul_left_iff]
    simp

theorem IsOf.declaredTruckHours_eq {declared : List Declaration} (hg : g.IsOf declared)
    (hapart : KeptApart declared) (h : g.IsHoursToChange index hours)
    (hchange : g.shiftIdAt (previousHour index) ≠ g.shiftIdAt index) :
    g.declaredTruckHours index = g.truckHoursFrom index hours := by
  rw [declaredTruckHours_eq_iff h]
  intro shift hshift
  exact Or.inl (hg.duration_eq hapart hchange hshift h)

/-! ### What is worked until the next swap -/

section Work

variable {α σ : Type} [Quantity α] [NormalSource σ α] (truckKw truckStd : α)
  (current : Option ShiftId) (source : σ)

theorem trucks_workLog (slots : List Slot) :
    (g.workLog truckKw truckStd current source slots).1.map Work.trucks =
      slots.map fun slot => g.trucksAt slot.index := by
  induction slots generalizing current source with
  | nil => rfl
  | cons slot slots ih => exact congrArg (_ :: ·) (ih _ _)

theorem shiftChanged_workLog (slots : List Slot) :
    (g.workLog truckKw truckStd current source slots).1.map Work.shiftChanged =
      List.zipWith (· != ·) (slots.map fun slot => g.shiftIdAt slot.index)
        (current :: slots.map fun slot => g.shiftIdAt slot.index) := by
  induction slots generalizing current source with
  | nil => rfl
  | cons slot slots ih => exact congrArg (_ :: ·) (ih _ _)

end Work

variable {σ : Type} [NormalSource σ Rat] {truckKw truckStd : Rat}

/-- Trucks without any deviation use just their mean, `truckKw` each. -/
theorem usage_of_mem_workLog (hkw : 0 ≤ truckKw) (hstd : truckStd ≤ 0)
    (current : Option ShiftId) (source : σ) (slots : List Slot) :
    ∀ work ∈ (g.workLog truckKw truckStd current source slots).1,
      work.usage = work.trucks * truckKw := by
  induction slots generalizing current source with
  | nil => exact nofun
  | cons slot slots ih =>
    unfold workLog
    refine List.forall_mem_cons.mpr ⟨?_, ih _ _⟩
    dsimp only
    unfold sampleUsage noise
    split_ifs with hidle
    · rw [hidle, Nat.cast_zero, zero_mul]
    · have hmean : 0 ≤ truckKw * (g.trucksAt slot.index : Rat) := mul_nonneg hkw (Nat.cast_nonneg _)
      simp [hmean, mul_comm]

theorem sum_trucksAt_hoursFrom (index hours : Nat) :
    ((Slot.hoursFrom index hours).map fun slot => g.trucksAt slot.index).sum =
      g.truckHoursFrom index hours := by
  induction hours with
  | zero => rfl
  | succ hours ih =>
    have hlast : g.trucksAt (Slot.ofIndex (index + hours)).index = g.trucksAt (index + hours) := by
      rw [Slot.index_ofIndex]
      exact g.trucksAt_congr (Nat.mod_mod _ _)
    rw [Slot.hoursFrom_succ, List.map_append, List.sum_append, ih, truckHoursFrom_add,
      truckHoursFrom_one, ← hlast]
    simp

/-- From where a shift comes on, batteries are swapped at once and then not before the next
change. -/
theorem shiftChanged_workLog_hoursFrom (hg : ¬ g.Uniform) (h : g.IsHoursToChange index hours)
    (hchange : g.shiftIdAt (previousHour index) ≠ g.shiftIdAt index) (source : σ) :
    (g.workLog truckKw truckStd (g.shiftIdAt (previousHour index)) source
        (Slot.hoursFrom index (hours + 1))).1.map Work.shiftChanged =
      (List.range (hours + 1)).map fun k => decide (k = 0 ∨ k = hours) := by
  rw [shiftChanged_workLog]
  apply List.ext_getElem
  · simp
  · intro k hk hk'
    rw [List.length_map, List.length_range] at hk'
    rw [List.getElem_zipWith, List.getElem_map, List.getElem_map, List.getElem_range,
      Slot.getElem_hoursFrom, Slot.index_ofIndex, shiftIdAt_mod, Bool.eq_iff_iff, bne_iff_ne,
      decide_eq_true_iff]
    cases k with
    | zero => exact iff_of_true hchange.symm (Or.inl rfl)
    | succ k =>
      have hbefore := h.same k (by omega)
      rw [List.getElem_cons_succ, List.getElem_map, Slot.getElem_hoursFrom, Slot.index_ofIndex,
        shiftIdAt_mod, hbefore]
      -- the shift is the same until `hours` have passed, and then another one
      rcases Nat.lt_or_eq_of_le (Nat.le_of_lt_succ hk') with hlt | rfl
      · exact iff_of_false (not_not.mpr (h.same (k + 1) hlt)) (by omega)
      · exact iff_of_true (h.of_not_uniform hg) (Or.inr rfl)

end Grid

namespace Fleet

variable {σ : Type} [NormalSource σ Rat] {f : Fleet Rat σ} {index hours : Nat}
  (hg : ¬ f.grid.Uniform) (h : f.grid.IsHoursToChange index hours)
  (hcurrent : f.currentShift = f.grid.shiftIdAt (previousHour index))
  {actions : List (AnyAction Rat)}
  (hslots : actions.filterMap AnyAction.slot? = Slot.hoursFrom index (hours + 1))

include hslots

theorem works_recordsAny_run :
    (f.grid.workLog f.equipment.truckKw f.equipment.truckStd f.currentShift f.source
        (Slot.hoursFrom index (hours + 1))).1 =
      (f.recordsAny actions).map HourRecord.work := by
  rw [← hslots, works_performAny]

theorem sum_trucks_recordsAny_run :
    (((f.recordsAny actions).take hours).map HourRecord.trucks).sum =
      f.grid.truckHoursFrom index hours := by
  have htrucks := f.grid.trucks_workLog f.equipment.truckKw f.equipment.truckStd f.currentShift
    f.source (Slot.hoursFrom index (hours + 1))
  rw [works_recordsAny_run hslots, List.map_map] at htrucks
  have hrun := congrArg (List.take hours) htrucks
  rw [← List.map_take, ← List.map_take, Slot.hoursFrom_succ, List.take_left' (by simp)] at hrun
  rw [← Grid.sum_trucksAt_hoursFrom, ← hrun]
  rfl

theorem sum_mean_recordsAny_run (truckKw : Rat) :
    (((f.recordsAny actions).take hours).map fun r => (r.trucks : Rat) * truckKw).sum =
      f.grid.truckHoursFrom index hours * truckKw := by
  rw [← sum_trucks_recordsAny_run hslots, List.sum_map_mul_right, Nat.cast_list_sum, List.map_map]
  rfl

theorem sum_usage_recordsAny_run (hkw : 0 ≤ f.equipment.truckKw)
    (hstd : f.equipment.truckStd ≤ 0) :
    (((f.recordsAny actions).take hours).map HourRecord.usage).sum =
      f.grid.truckHoursFrom index hours * f.equipment.truckKw := by
  have husage := Grid.usage_of_mem_workLog (g := f.grid) hkw hstd f.currentShift f.source
    (Slot.hoursFrom index (hours + 1))
  rw [works_recordsAny_run hslots, List.forall_mem_map] at husage
  rw [← sum_mean_recordsAny_run hslots]
  congr 1
  exact List.map_congr_left fun r hr => husage r (List.mem_of_mem_take hr)

include hg h hcurrent

theorem shiftChanged_recordsAny_run
    (hchange : f.grid.shiftIdAt (previousHour index) ≠ f.grid.shiftIdAt index) :
    (f.recordsAny actions).map HourRecord.shiftChanged =
      (List.range (hours + 1)).map fun k => decide (k = 0 ∨ k = hours) := by
  rw [← Grid.shiftChanged_workLog_hoursFrom hg h hchange f.source, ← hcurrent,
    works_recordsAny_run hslots, List.map_map]
  rfl

end Fleet

namespace Grid

/-! ### Needs and use -/

/-- **What a plan provides for.**  `energyNeeded` is `declaredTruckHours * truckKw`.  It is what
`recordsAny` uses in the `hours` until the next change, `truckHoursFrom * truckKw`, exactly if the
shift lasts as declared or takes nothing, as `KeptApart` shifts do. -/
theorem energyNeeded_project {σ : Type} [NormalSource σ Rat] {g : Grid} (hg : ¬ g.Uniform)
    (e : Equipment Rat) {start horizon : Nat} {onHand : Rat} {planned : PlannedSegment Rat}
    (h : planned ∈ g.project e start horizon onHand) :
    g.shiftIdAt (previousHour planned.endIndex) ≠ g.shiftIdAt planned.endIndex ∧
      ∃ hours, g.IsHoursToChange planned.endIndex hours ∧
        planned.energyNeeded = g.declaredTruckHours planned.endIndex * e.truckKw ∧
        (planned.energyNeeded = g.truckHoursFrom planned.endIndex hours * e.truckKw ↔
          (∀ shift, g.shiftAt planned.endIndex = some shift →
            shift.duration = hours ∨ shift.trucks = 0) ∨ e.truckKw = 0) ∧
        (g.shiftIdAt planned.endIndex = none →
          planned.energyNeeded = 0 ∧ g.truckHoursFrom planned.endIndex hours = 0) ∧
        (∀ tokens added, g = (ofTokens tokens).1.addAll added →
          KeptApart (accepted (groups (tokens.map Word.ofToken)) ++ added) →
          planned.energyNeeded = g.truckHoursFrom planned.endIndex hours * e.truckKw) ∧
        ∀ (f : Fleet Rat σ) (actions : List (Fleet.AnyAction Rat)), f.grid = g →
          f.equipment.truckKw = e.truckKw →
          f.currentShift = g.shiftIdAt (previousHour planned.endIndex) →
          actions.filterMap Fleet.AnyAction.slot? = Slot.hoursFrom planned.endIndex (hours + 1) →
          (f.recordsAny actions).map HourRecord.shiftChanged =
              (List.range (hours + 1)).map (fun k => decide (k = 0 ∨ k = hours)) ∧
            (((f.recordsAny actions).take hours).map fun r => (r.trucks : Rat) * e.truckKw).sum =
              g.truckHoursFrom planned.endIndex hours * e.truckKw ∧
            (0 ≤ e.truckKw → f.equipment.truckStd ≤ 0 →
              (((f.recordsAny actions).take hours).map HourRecord.usage).sum =
                g.truckHoursFrom planned.endIndex hours * e.truckKw) := by
  -- the segment that is planned, and the hours of the shift at its end
  obtain ⟨segment, hsegment, hend, hneeded⟩ := exists_segment_of_mem_project h
  rw [needed_loadOf, ← hend] at hneeded
  have hchange : g.shiftIdAt (previousHour planned.endIndex) ≠ g.shiftIdAt planned.endIndex := by
    rw [hend]
    exact changes_of_mem_segments hg hsegment
  have hrun := g.isHoursToChange_hoursToChange planned.endIndex
  refine ⟨hchange, _, hrun, hneeded, ?_, ?_, ?_, ?_⟩
  · rw [hneeded, mul_eq_mul_right_iff, Nat.cast_inj, declaredTruckHours_eq_iff hrun]
  -- no shift comes on
  · intro hidle
    have hnone : g.shiftAt planned.endIndex = none := by
      unfold shiftAt
      rw [hidle, Option.bind_none]
    rw [hneeded, truckHoursFrom_of_isHoursToChange hrun, trucksAt_eq]
    unfold declaredTruckHours
    rw [hnone]
    simp
  -- shifts that are kept apart
  · intro tokens added hread hapart
    have hof : g.IsOf (accepted (groups (tokens.map Word.ofToken)) ++ added) := by
      rw [hread]
      exact isOf_addAll_ofTokens tokens added
    rw [hneeded, hof.declaredTruckHours_eq hapart hrun hchange]
  -- a fleet that comes up to the end of the segment
  · rintro f actions rfl hkw hcurrent hslots
    refine ⟨Fleet.shiftChanged_recordsAny_run hg hrun hcurrent hslots hchange,
      Fleet.sum_mean_recordsAny_run hslots e.truckKw, ?_⟩
    intro hnonneg hstd
    rw [← hkw] at hnonneg ⊢
    exact Fleet.sum_usage_recordsAny_run hslots hnonneg hstd

/-- A fleet on `Grid.default` with batteries in three trucks, about to go on at eight on a Sunday,
with `truckStd` at zero. -/
def sundayDepot : Fleet Rat (List Rat) :=
  (Fleet.create "Dockside" { Equipment.exact with truckStd := 0 } default ⟨0, 0, 0⟩ []).resume
    ⟨150, 60, 300⟩ ⟨1, 8⟩

/-- That Sunday from eight until after sixteen. -/
def sundayHours : List (Fleet.AnyAction Rat) :=
  (Slot.hoursFrom 8 9).map fun slot => .own (.work slot (PriceList.flat (1 / 10)).toTariff)

theorem energyNeeded_project_default :
    ¬ default.Uniform ∧
      ⟨8, 8, 256, 256, 428⟩ ∈ default.project Equipment.exact 0 24 300 ∧
      KeptApart (accepted (groups (defaultTokens.map Word.ofToken)) ++ []) ∧
      (256 : Rat) = default.truckHoursFrom 8 8 * 4 ∧
      sundayHours.filterMap Fleet.AnyAction.slot? = Slot.hoursFrom 8 9 ∧
      (sundayDepot.recordsAny sundayHours).map HourRecord.shiftChanged =
        (List.range 9).map (fun k => decide (k = 0 ∨ k = 8)) ∧
      (((sundayDepot.recordsAny sundayHours).take 8).map HourRecord.usage).sum = 256 := by
  have hg : ¬ default.Uniform := by
    intro h
    exact absurd (h 7 8) (by decide +kernel)
  have hplanned : ⟨8, 8, 256, 256, 428⟩ ∈ default.project Equipment.exact 0 24 300 := by
    decide +kernel
  have hapart : KeptApart (accepted (groups (defaultTokens.map Word.ofToken)) ++ []) := by
    decide +kernel
  have hrun : default.IsHoursToChange 8 8 :=
    ⟨by decide, by decide +kernel, Or.inl (by decide +kernel)⟩
  obtain ⟨-, hours, hhours, -, -, -, hsame, hworked⟩ :=
    energyNeeded_project (σ := List Rat) hg Equipment.exact hplanned
  obtain rfl := hhours.unique hrun
  have henergy : (256 : Rat) = default.truckHoursFrom 8 8 * 4 :=
    hsame defaultTokens [] rfl hapart
  obtain ⟨hswaps, -, husage⟩ :=
    hworked sundayDepot sundayHours rfl rfl (by decide +kernel) (by decide +kernel)
  exact ⟨hg, hplanned, hapart, henergy, by decide +kernel, hswaps,
    (husage (by decide +kernel) (by decide +kernel)).trans henergy.symm⟩

/-- A Monday's shift that another one cuts short and in two. -/
def cutShort : Grid :=
  (ofTokens ["block", "2", "shift", "8", "8", "4", "shift", "12", "2", "9"]).1

/-- A shift that goes on from one day into the next. -/
def dayAndNight : Grid :=
  (ofTokens ["block", "1", "2", "shift", "0", "24", "3"]).1

/-- On `cutShort` the plan provides for eight hours of a shift that is on for four and then for two,
on `dayAndNight` for one day of a shift that is on for two. -/
theorem energyNeeded_ne_cutShort :
    (¬ cutShort.Uniform ∧
        ⟨32, 32, 128, 128, 1408⟩ ∈ cutShort.project Equipment.exact 0 48 0 ∧
        cutShort.IsHoursToChange 32 4 ∧
        (cutShort.truckHoursFrom 32 4 : Rat) * Equipment.exact.truckKw = 64 ∧
        ⟨38, 2, 128, 128, 0⟩ ∈ cutShort.project Equipment.exact 0 48 0 ∧
        cutShort.IsHoursToChange 38 2 ∧
        (cutShort.truckHoursFrom 38 2 : Rat) * Equipment.exact.truckKw = 32) ∧
      ¬ dayAndNight.Uniform ∧
      ⟨0, 8, 288, 288, 96⟩ ∈ dayAndNight.project Equipment.exact 160 24 0 ∧
      dayAndNight.IsHoursToChange 0 48 ∧
      (dayAndNight.truckHoursFrom 0 48 : Rat) * Equipment.exact.truckKw = 576 := by
  have hfour : cutShort.IsHoursToChange 32 4 :=
    ⟨by decide, by decide +kernel, Or.inl (by decide +kernel)⟩
  have htwo : cutShort.IsHoursToChange 38 2 :=
    ⟨by decide, by decide +kernel, Or.inl (by decide +kernel)⟩
  have hdays : dayAndNight.IsHoursToChange 0 48 :=
    ⟨by decide, by decide +kernel, Or.inl (by decide +kernel)⟩
  have hcut : ¬ cutShort.Uniform := by
    intro h
    exact absurd (h 31 32) (by decide +kernel)
  have hnight : ¬ dayAndNight.Uniform := by
    intro h
    exact absurd (h 47 48) (by decide +kernel)
  exact ⟨⟨hcut, by decide +kernel, hfour, by decide +kernel, by decide +kernel, htwo,
    by decide +kernel⟩, hnight, by decide +kernel, hdays, by decide +kernel⟩

end Grid

end TruckDepot
