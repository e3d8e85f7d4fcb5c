import TruckDepot.Proofs.Fleet.SavedSchedule

/-!
# Saving what was restored

A fleet that goes on from a saved state and is saved at once has that state again: the hour before
the one to go on with is kept as the last hour worked, and the one after it is saved
(`SavedState.saved_restore_of_some`), and the declarations are kept with the grid that is read from
them.  Without an hour to go on with, the batteries come off the trucks
(`SavedState.saved_restore_of_none`).  Declarations that schedule nothing are replaced by the
default ones, and those stay (`SavedState.saved_restore`).
-/

namespace TruckDepot

open TruckDepot.Random

namespace Grid

theorem tokens_configure {tokens : List String}
    (h : ∃ index, (ofTokens tokens).1.shiftIdAt index ≠ none) :
    (configure tokens).grid.tokens = tokens := by
  obtain ⟨index, hindex⟩ := h
  have hscheduled : (ofTokens tokens).1.isEmpty = false := by
    rw [Bool.eq_false_iff]
    intro hempty
    exact hindex ((isEmpty_iff _).mp hempty index)
  rw [configure_of_not_isEmpty hscheduled, tokens_ofTokens]

end Grid

namespace SavedState

variable {α σ : Type} [Quantity α] (s : SavedState α) (name : String) (e : Equipment α) (source : σ)

theorem saved_restore_of_some {slot : Slot} (h : s.resumeAt = some slot) :
    (s.restore name e source).saved =
      ⟨s.pools, (Grid.configure s.tokens).grid.tokens, some slot.wrapped⟩ := by
  unfold restore
  rw [h, ← Slot.next_ofIndex_previousHour]
  rfl

theorem saved_restore_of_none (h : s.resumeAt = none) :
    (s.restore name e source).saved =
      ⟨s.pools.gather, (Grid.configure s.tokens).grid.tokens, none⟩ := by
  unfold restore
  rw [h]
  rfl

/-- The `tokens` that are saved are those of the grid that the fleet works. -/
theorem tokens_saved_restore :
    (s.restore name e source).saved.tokens = (Grid.configure s.tokens).grid.tokens := by
  show (s.restore name e source).grid.tokens = _
  rw [Fleet.restore_grid]

theorem grid_restore_saved_restore (name' : String) (e' : Equipment α) (source' : σ) :
    ((s.restore name e source).saved.restore name' e' source').grid =
      (s.restore name e source).grid := by
  rw [Fleet.restore_grid, tokens_saved_restore, Grid.configure_tokens, Fleet.restore_grid]

/-- **A saved state comes back as it was.**  With tokens that schedule something and `resumeAt` in
the week, `saved` after `restore` is `s`; without `resumeAt` its batteries are pooled. What is saved
then restores to the same grid and tokens. -/
theorem saved_restore (s : SavedState α) (name name' : String) (e e' : Equipment α)
    (source source' : σ) :
    let restored := s.restore name e source
    let again := restored.saved.restore name' e' source'
    ((∃ index, (Grid.ofTokens s.tokens).1.shiftIdAt index ≠ none) →
        restored.saved.tokens = s.tokens ∧
          ∀ slot : Slot, slot.InWeek → s.resumeAt = some slot → restored.saved = s) ∧
      (s.resumeAt = none →
        restored.saved.pools = ⟨0, 0, s.pools.energyCharging + s.pools.energyInUse⟩ ∧
          restored.saved.resumeAt = none) ∧
      again.grid = restored.grid ∧ again.saved.tokens = restored.saved.tokens ∧
      (s.resumeAt ≠ none → again.saved = restored.saved) := by
  intro restored again
  have hgrid : again.grid = restored.grid :=
    s.grid_restore_saved_restore name e source name' e' source'
  have htokens : again.saved.tokens = restored.saved.tokens := congrArg Grid.tokens hgrid
  refine ⟨?_, ?_, hgrid, htokens, ?_⟩
  -- the declarations, and with an hour of the week everything
  · intro hscheduled
    have hkept : (Grid.configure s.tokens).grid.tokens = s.tokens :=
      Grid.tokens_configure hscheduled
    refine ⟨(s.tokens_saved_restore name e source).trans hkept, ?_⟩
    intro slot hslot hresume
    rw [show restored.saved = _ from s.saved_restore_of_some name e source hresume, hkept,
      hslot.wrapped_eq, ← hresume]
  · intro hresume
    rw [show restored.saved = _ from s.saved_restore_of_none name e source hresume]
    exact ⟨rfl, rfl⟩
  · intro hresume
    -- the second time, the hour is one of the week already
    obtain ⟨slot, hslot⟩ := Option.ne_none_iff_exists'.mp hresume
    have hresumed : restored.saved.resumeAt = some slot.wrapped :=
      congrArg SavedState.resumeAt (s.saved_restore_of_some name e source hslot)
    have hkept : (Grid.configure restored.saved.tokens).grid.tokens = restored.saved.tokens :=
      (restored.saved.tokens_saved_restore name' e' source').symm.trans htokens
    have hagain := restored.saved.saved_restore_of_some name' e' source' hresumed
    rw [show again.saved = _ from hagain, hkept, Slot.wrapped_wrapped, ← hresumed]

/-- A night from Saturday to Sunday with batteries in the trucks, to go on with at midnight.  One of
the declarations is no number, one is incomplete, and there are blanks around another. -/
def saturdayNight : SavedState Float32 :=
  ⟨⟨150, 90.5, 420⟩, [" block ", "7", "seven", "shift", "20", "8", "3", "shift", "9"], some ⟨1, 0⟩⟩

/-- The same night without `resumeAt`, saved by a fleet that never worked. -/
def beforeSaturdayNight : SavedState Float32 :=
  { saturdayNight with resumeAt := none }

theorem saved_restore_saturdayNight :
    (Grid.ofTokens saturdayNight.tokens).1.shiftIdAt 164 ≠ none ∧
      (Slot.mk 1 0).InWeek ∧ saturdayNight.resumeAt = some ⟨1, 0⟩ ∧
      (saturdayNight.restore "Dockside" .default (Stream.ofSeed 7)).saved = saturdayNight ∧
      beforeSaturdayNight.resumeAt = none ∧
      (beforeSaturdayNight.restore "Dockside" .default (Stream.ofSeed 7)).saved.pools =
        ⟨0, 0, 420 + 90.5⟩ := by
  have hscheduled : (Grid.ofTokens saturdayNight.tokens).1.shiftIdAt 164 ≠ none := by
    decide +kernel
  have hslot : (Slot.mk 1 0).InWeek := ⟨by decide, by decide, by decide⟩
  obtain ⟨hsame, -⟩ := saturdayNight.saved_restore "Dockside" "Quayside" .default .default
    (Stream.ofSeed 7) (Stream.ofSeed 8)
  obtain ⟨-, hfresh, -⟩ := beforeSaturdayNight.saved_restore "Dockside" "Quayside" .default .default
    (Stream.ofSeed 7) (Stream.ofSeed 8)
  exact ⟨hscheduled, hslot, rfl, (hsame ⟨164, hscheduled⟩).2 _ hslot rfl, rfl, (hfresh rfl).1⟩

end SavedState

end TruckDepot
