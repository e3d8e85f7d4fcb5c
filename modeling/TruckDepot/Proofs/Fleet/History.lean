import TruckDepot.Proofs.Fleet.Hour

/-!
# What is done with a fleet

A fleet works hours, is asked for regulation and gets policies, in any order.  `Fleet.perform` is
the fleet after a list of such actions and `Fleet.hours` is what is seen of it on the way.  A fleet
that is `Fresh`, new or restored, has no plan (`Fresh.planCache`).  Neither schedule nor equipment
ever change (`perform_grid`, `perform_equipment`), and once a fleet has worked an hour its batteries
are deployed for the shift of the last hour (`isInStep_perform`).
-/

namespace TruckDepot.Fleet

open TruckDepot.Random

variable {α σ : Type} [Quantity α]

/-- Something that is done with a fleet: `work`, `regulate` or `install`. -/
inductive Action (α : Type) where
  /-- It works an hour under a tariff. -/
  | work (slot : Slot) (tariff : Tariff α)
  /-- It is asked for regulation. -/
  | regulate (kwh : α)
  /-- It gets a policy. -/
  | install (policy : ChargingPolicy)

variable [NormalSource σ α]

/-- The fleet after one action. -/
def act (f : Fleet α σ) : Action α → Fleet α σ
  | .work slot tariff => (f.step slot tariff).1
  | .regulate kwh => f.regulate kwh
  | .install policy => f.withPolicy policy

/-- The fleet after `actions`. -/
def perform (f : Fleet α σ) (actions : List (Action α)) : Fleet α σ :=
  actions.foldl act f

/-- The hours among some actions: the fleet after each `step`, and its record. -/
def hours (f : Fleet α σ) : List (Action α) → List (Fleet α σ × HourRecord α)
  | [] => []
  | .work slot tariff :: rest =>
    ((f.step slot tariff).1, (f.step slot tariff).2.1) :: (f.step slot tariff).1.hours rest
  | .regulate kwh :: rest => (f.regulate kwh).hours rest
  | .install policy :: rest => (f.withPolicy policy).hours rest

@[simp] theorem perform_cons (f : Fleet α σ) (action : Action α) (rest : List (Action α)) :
    f.perform (action :: rest) = (f.act action).perform rest :=
  rfl

/-! ### What never changes -/

theorem act_grid (f : Fleet α σ) (action : Action α) : (f.act action).grid = f.grid := by
  cases action with
  | work slot tariff => exact f.step_grid slot tariff
  | regulate kwh => rfl
  | install policy => rfl

theorem act_equipment (f : Fleet α σ) (action : Action α) :
    (f.act action).equipment = f.equipment := by
  cases action with
  | work slot tariff => exact f.step_equipment slot tariff
  | regulate kwh => rfl
  | install policy => rfl

theorem perform_grid (f : Fleet α σ) (actions : List (Action α)) :
    (f.perform actions).grid = f.grid := by
  induction actions generalizing f with
  | nil => rfl
  | cons action rest ih => rw [perform_cons, ih, act_grid]

theorem perform_equipment (f : Fleet α σ) (actions : List (Action α)) :
    (f.perform actions).equipment = f.equipment := by
  induction actions generalizing f with
  | nil => rfl
  | cons action rest ih => rw [perform_cons, ih, act_equipment]

/-! ### What is built -/

section Restore

omit [NormalSource σ α]

variable (s : SavedState α) (name : String) (e : Equipment α) (source : σ)

theorem restore_grid : (s.restore name e source).grid = (Grid.configure s.tokens).grid := by
  unfold SavedState.restore
  dsimp only
  split
  · rfl
  · rfl

theorem restore_equipment : (s.restore name e source).equipment =
    e.sizedFor (s.restore name e source).grid := by
  unfold SavedState.restore
  dsimp only
  split
  · rfl
  · rfl

/-- A plan is not saved: `restore` begins with the `empty` cache. -/
theorem restore_planCache : (s.restore name e source).planCache = .empty := by
  unfold SavedState.restore
  dsimp only
  split
  · rfl
  · rfl

end Restore

omit [NormalSource σ α] in
/-- A fleet before anything is done with it: after `create`, or after `restore` from any saved
state. -/
inductive Fresh : Fleet α σ → Prop where
  | created (name : String) (e : Equipment α) (g : Grid) (pools : Pools α) (source : σ) :
      Fresh (create name e g pools source)
  | restored (s : SavedState α) (name : String) (e : Equipment α) (source : σ) :
      Fresh (s.restore name e source)

omit [NormalSource σ α] in
theorem Fresh.planCache {f : Fleet α σ} (h : f.Fresh) : f.planCache = .empty := by
  cases h with
  | created name e g pools source => rfl
  | restored s name e source => exact restore_planCache s name e source

/-- The schedule of the fleet was read from declarations, and its equipment is `e`, sized for it. -/
structure BuiltFrom (f : Fleet α σ) (e : Equipment α) : Prop where
  grid : ∃ tokens, f.grid = (Grid.configure tokens).grid
  equipment : f.equipment = e.sizedFor f.grid

omit [NormalSource σ α] in
theorem builtFrom_create (name : String) (e : Equipment α) (tokens : List String)
    (pools : Pools α) (source : σ) :
    (create name e (Grid.configure tokens).grid pools source).BuiltFrom e :=
  ⟨⟨tokens, rfl⟩, rfl⟩

omit [NormalSource σ α] in
theorem builtFrom_restore (s : SavedState α) (name : String) (e : Equipment α) (source : σ) :
    (s.restore name e source).BuiltFrom e :=
  ⟨⟨s.tokens, restore_grid s name e source⟩, restore_equipment s name e source⟩

theorem BuiltFrom.perform {f : Fleet α σ} {e : Equipment α} (h : f.BuiltFrom e)
    (actions : List (Action α)) : (f.perform actions).BuiltFrom e := by
  constructor
  · rw [perform_grid]
    exact h.grid
  · rw [perform_grid, perform_equipment]
    exact h.equipment

/-! ### The shift of the last hour -/

/-- The batteries are deployed for the shift of the last hour worked, `lastSlot`. -/
def IsInStep (f : Fleet α σ) : Prop :=
  ∃ slot, f.lastSlot = some slot ∧ f.currentShift = f.grid.shiftIdAt slot.index

theorem isInStep_step (f : Fleet α σ) (slot : Slot) (tariff : Tariff α) :
    (f.step slot tariff).1.IsInStep :=
  ⟨slot, rfl, by rw [step_currentShift, step_grid]⟩

theorem IsInStep.act {f : Fleet α σ} (h : f.IsInStep) (action : Action α) :
    (f.act action).IsInStep := by
  cases action with
  | work slot tariff => exact f.isInStep_step slot tariff
  | regulate kwh => exact h
  | install policy => exact h

theorem IsInStep.perform {f : Fleet α σ} (h : f.IsInStep) (actions : List (Action α)) :
    (f.perform actions).IsInStep := by
  induction actions generalizing f with
  | nil => exact h
  | cons action rest ih => exact ih (h.act action)

/-- With an hour among `actions`, the fleet after them `IsInStep`. -/
theorem isInStep_perform (f : Fleet α σ) {actions : List (Action α)}
    (h : ∃ slot tariff, Action.work slot tariff ∈ actions) : (f.perform actions).IsInStep := by
  obtain ⟨slot, tariff, hmem⟩ := h
  induction actions generalizing f with
  | nil => cases hmem
  | cons action rest ih =>
    rcases List.mem_cons.mp hmem with rfl | hrest
    · exact (f.isInStep_step slot tariff).perform rest
    · exact ih _ hrest

end TruckDepot.Fleet
