import TruckDepot.Proofs.Fleet.History
import TruckDepot.Proofs.Week.Clock

/-!
# Runs by the clock

A fleet works the hours that a clock has left, in order (`Fleet.slots_run`), and keeps the last of
them (`Fleet.lastSlot_run`), for its energy plan as well (`Fleet.lastIndex_run`).  So the hour that
is saved to go on with is the one that the clock would have come to next, and a run from there goes
on where the first one ended, by the same fleet or by a restored one (`Fleet.slots_run_calls`).
-/

namespace TruckDepot

open TruckDepot.Random

variable {α σ : Type} [Quantity α]

theorem PlanCache.lastIndex_ensure (c : PlanCache α) (g : Grid) (e : Equipment α) (index : Nat)
    (current : Option ShiftId) (onHand : α) :
    (c.ensure g e index current onHand).lastIndex = some (index % weekHours) := by
  unfold ensure
  dsimp only
  split
  · rfl
  · rfl

namespace Fleet

variable [NormalSource σ α] (f : Fleet α σ)

/-! ### The hours of a run -/

theorem slots_runHours (hours : List (Slot × Tariff α)) :
    (f.runHours hours).2.1.map HourRecord.slot = hours.map Prod.fst := by
  induction hours generalizing f with
  | nil => rfl
  | cons hour rest ih =>
    obtain ⟨slot, tariff⟩ := hour
    rw [records_cons, List.map_cons, ih, record_eq]
    rfl

/-- A run works the hours that its clock has `left`. -/
theorem slots_run (clock : Clock) (tariff : Tariff α) :
    (f.run clock tariff).2.1.map HourRecord.slot =
      (List.range' clock.current clock.left).map
        fun step => Slot.next^[step] clock.start.wrapped := by
  unfold run
  rw [slots_runHours, clock.run_eq, clock.ahead_eq]
  simp only [List.map_map]
  rfl

/-- A run that begins `elapsed` hours after `start` works the hours from there. -/
theorem slots_run_starting (start : Slot) (elapsed hours : Nat) (tariff : Tariff α) :
    (f.run (.starting (Slot.next^[elapsed] start.wrapped) hours) tariff).2.1.map HourRecord.slot =
      (List.range' elapsed hours).map fun step => Slot.next^[step] start.wrapped := by
  have hwrapped :
      (Slot.next^[elapsed] start.wrapped).wrapped = Slot.next^[elapsed] start.wrapped := by
    rw [Slot.iterate_next_wrapped]
    exact (Slot.inWeek_ofIndex _).wrapped_eq
  rw [slots_run, List.range'_eq_map_range, List.range'_eq_map_range, List.map_map, List.map_map]
  refine List.map_congr_left fun step _ => ?_
  show Slot.next^[0 + step] (Slot.next^[elapsed] start.wrapped).wrapped =
    Slot.next^[elapsed + step] start.wrapped
  rw [hwrapped, Nat.zero_add, Nat.add_comm, Function.iterate_add_apply]

theorem runHours_concat (hours : List (Slot × Tariff α)) (slot : Slot) (tariff : Tariff α) :
    (f.runHours (hours ++ [(slot, tariff)])).1 = ((f.runHours hours).1.step slot tariff).1 := by
  induction hours generalizing f with
  | nil => rfl
  | cons hour rest ih => exact ih _

/-- A run ends with a step in the hour that its clock emits last, number `total - 1`. -/
theorem run_eq_step {clock : Clock} (h : 0 < clock.left) (tariff : Tariff α) :
    ∃ before : Fleet α σ, (f.run clock tariff).1 =
      (before.step (Slot.next^[clock.total - 1] clock.start.wrapped) tariff).1 := by
  obtain ⟨left, hleft⟩ : ∃ left, clock.left = left + 1 := ⟨clock.left - 1, by omega⟩
  have hlast : clock.current + left = clock.total - 1 := by
    unfold Clock.left at hleft
    omega
  unfold run
  rw [clock.run_eq, clock.ahead_eq, hleft, List.range'_1_concat, List.map_append, List.map_append,
    ← hlast]
  exact ⟨_, f.runHours_concat _ _ _⟩

/-! ### Where a run ends -/

section End

variable {clock : Clock} (h : 0 < clock.left) (tariff : Tariff α)

include h

theorem lastSlot_run : (f.run clock tariff).1.lastSlot =
    some (Slot.next^[clock.total - 1] clock.start.wrapped) := by
  obtain ⟨before, hrun⟩ := f.run_eq_step h tariff
  rw [hrun, step_lastSlot]

/-- `planCache.lastIndex` is the last hour of the run, so the next hour follows on it. -/
theorem lastIndex_run (htariff : tariff.rateStructure ≠ .flat) :
    (f.run clock tariff).1.planCache.lastIndex =
      some (Slot.next^[clock.total - 1] clock.start.wrapped).index := by
  obtain ⟨before, hrun⟩ := f.run_eq_step h tariff
  rw [hrun, step_planCache, ready_planCache _ _ _ htariff, PlanCache.lastIndex_ensure,
    Nat.mod_eq_of_lt (Slot.index_lt _)]

/-- `saved.resumeAt` is the hour that the clock would emit next, number `total`. -/
theorem resumeAt_run : (f.run clock tariff).1.saved.resumeAt =
    some (Slot.next^[clock.total] clock.start.wrapped) := by
  have htotal : clock.total = clock.total - 1 + 1 := by
    unfold Clock.left at h
    omega
  show (f.run clock tariff).1.lastSlot.map Slot.next = _
  rw [f.lastSlot_run h tariff, Option.map_some, ← Function.iterate_succ_apply' Slot.next,
    Nat.succ_eq_add_one, ← htotal]

end End

omit [NormalSource σ α] in
/-- A fleet restored to go on from `last.next` has `last` for its last hour. -/
theorem lastSlot_restore {s : SavedState α} {last : Slot} (hlast : last.InWeek)
    (h : s.resumeAt = some last.next) (name : String) (e : Equipment α) (source : σ) :
    (s.restore name e source).lastSlot = some last := by
  unfold SavedState.restore
  rw [h]
  exact congrArg some (Slot.ofIndex_previousHour_next hlast)

/-- **A clock emits each hour once, in order, and runs continue it.**  Any `calls` emit the steps
below `n` with their `slotOf`; `run` works those from `n` to `total`, and the next run, live or
after `restore`, begins at `slotOf total`. -/
theorem slots_run_calls (start : Slot) (total : Nat) (calls : List Clock.Call) :
    let slotOf := fun step => Slot.next^[step] start.wrapped
    let emitted := ((Clock.starting start total).calls calls).1
    let clock := ((Clock.starting start total).calls calls).2
    let n := if .run ∈ calls then total else min total calls.length
    emitted = (List.range n).map (fun step => (step, slotOf step)) ∧
      (n = total → ∀ more, (clock.calls more).1 = []) ∧
      (∀ step, (slotOf step).InWeek ∧
        (slotOf step).index = (start.index + step) % weekHours ∧
        (slotOf (step + 1)).index = nextHour (slotOf step).index) ∧
      ∀ (f : Fleet α σ) (tariff : Tariff α),
        let after := (f.run clock tariff).1
        (f.run clock tariff).2.1.map HourRecord.slot = (List.range' n (total - n)).map slotOf ∧
          (n < total →
            after.lastSlot = some (slotOf (total - 1)) ∧
            after.saved.resumeAt = some (slotOf total) ∧
            (tariff.rateStructure ≠ .flat →
              after.planCache.lastIndex = some (slotOf (total - 1)).index) ∧
            ∀ (name : String) (e : Equipment α) (source : σ) (hours : Nat)
              (tariff' : Tariff α),
              let restored := after.saved.restore name e source
              let later := Clock.starting (slotOf total) hours
              restored.lastSlot = after.lastSlot ∧
              (after.run later tariff').2.1.map HourRecord.slot =
                (List.range' total hours).map slotOf ∧
              (restored.run later tariff').2.1.map HourRecord.slot =
                (List.range' total hours).map slotOf) := by
  intro slotOf emitted clock n
  -- what was emitted, and the clock that is left
  have hcalls : (Clock.starting start total).calls calls =
      ((List.range n).map fun step => (step, slotOf step), ⟨start, n, total⟩) :=
    Clock.calls_starting start total calls
  have hclock : clock = ⟨start, n, total⟩ := congrArg Prod.snd hcalls
  -- each slot by its index, in the week, followed by the next one
  have hslot (step : Nat) : slotOf step = Slot.ofIndex (start.index + step) :=
    start.iterate_next_wrapped step
  have hweek (step : Nat) : (slotOf step).InWeek := by
    rw [hslot]
    exact Slot.inWeek_ofIndex _
  have hnext (step : Nat) : slotOf (step + 1) = (slotOf step).next :=
    Function.iterate_succ_apply' Slot.next step _
  rw [hclock]
  refine ⟨congrArg Prod.fst hcalls, ?_, ?_, ?_⟩
  · intro hn more
    rw [Clock.calls_of_left_eq_zero (Nat.sub_eq_zero_of_le (Nat.le_of_eq hn.symm))]
  · intro step
    refine ⟨hweek step, ?_, ?_⟩
    · rw [hslot, Slot.index_ofIndex]
    · rw [hnext, Slot.index_next]
  -- a run by the clock that is left, and one after it
  · intro f tariff after
    refine ⟨f.slots_run _ tariff, ?_⟩
    intro hn
    have hleft : 0 < (Clock.mk start n total).left := Nat.sub_pos_of_lt hn
    have hlast : after.lastSlot = some (slotOf (total - 1)) := f.lastSlot_run hleft tariff
    have hresume : after.saved.resumeAt = some (slotOf total) := f.resumeAt_run hleft tariff
    refine ⟨hlast, hresume, f.lastIndex_run hleft tariff, ?_⟩
    intro name e source hours tariff' restored later
    -- the hour to go on with follows on the last one, so that is the one before it
    have hfollows : slotOf total = (slotOf (total - 1)).next := by
      rw [← hnext, Nat.sub_add_cancel (Nat.zero_lt_of_lt hn)]
    refine ⟨?_, after.slots_run_starting start total hours tariff',
      restored.slots_run_starting start total hours tariff'⟩
    rw [hlast]
    exact lastSlot_restore (hweek _) (hresume.trans (congrArg some hfollows)) name e source

end Fleet

end TruckDepot
