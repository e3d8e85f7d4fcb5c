import TruckDepot.Fleet.Plan
import TruckDepot.Proofs.Schedule.Change

/-!
# What a plan is made of

Behind its first segment a plan depends on nothing but the hour at which that segment ends
(`Grid.plannedFrom`), and of the first segment only the surplus depends on the energy on hand
(`Grid.project_eq_planWith`).
-/

namespace TruckDepot

variable {α : Type} [Quantity α]

/-! ### The first segment -/

/-- `credit` changes `maxSurplus` and nothing else. -/
theorem Equipment.credit_eq (onHand shortage : α) (first : PlannedSegment α) :
    ∃ surplus, Equipment.credit onHand shortage first = { first with maxSurplus := surplus } := by
  unfold Equipment.credit
  split_ifs
  · exact ⟨_, rfl⟩
  · exact ⟨_, rfl⟩
  · exact ⟨first.maxSurplus, rfl⟩

namespace Grid

/-- The plan for the segments that end within `horizon` after `hour`, and the shortage that is
carried out of the first of them. -/
def plannedFrom (g : Grid) (e : Equipment α) (horizon hour : Nat) : List (PlannedSegment α) × α :=
  (g.loads e.truckKw (g.segmentsWithin horizon hour 0)).foldr e.addSegment ([], 0)

/-- The energy that the shift which begins at `hour` takes. -/
def neededAt (g : Grid) (e : Equipment α) (hour : Nat) : α :=
  (g.loadOf e.truckKw ⟨hour, 0⟩).needed

/-- The energy that has to be on hand at `hour`, where the shift changes. -/
def requiredAt (g : Grid) (e : Equipment α) (horizon hour : Nat) : α :=
  g.neededAt e hour + (g.plannedFrom e horizon hour).2

/-- The plan at `index`, but for the `surplus` of its first segment. -/
def planWith (g : Grid) (e : Equipment α) (horizon index : Nat) (surplus : α) :
    List (PlannedSegment α) :=
  { endIndex := g.nextChange index
    duration := g.hoursToChange index
    energyNeeded := g.neededAt e (g.nextChange index)
    required := g.requiredAt e horizon (g.nextChange index)
    maxSurplus := surplus } :: (g.plannedFrom e horizon (g.nextChange index)).1

/-- `onHand` decides the surplus of the first segment and nothing else of a plan. -/
theorem project_eq_planWith (g : Grid) (e : Equipment α) (index horizon : Nat) (onHand : α) :
    ∃ surplus, g.project e index horizon onHand = g.planWith e horizon index surplus := by
  set behind := g.plannedFrom e horizon (g.nextChange index) with hbehind
  set load := g.loadOf e.truckKw ⟨g.nextChange index, g.hoursToChange index⟩ with hload
  -- the backward pass ends with the segment that the hour is in
  have hfront : g.project e index horizon onHand =
      Equipment.credit onHand (Quantity.larger (-e.balance load behind.2) 0)
        { endIndex := load.endIndex
          duration := load.duration
          energyNeeded := load.needed
          required := load.needed + behind.2
          maxSurplus := Quantity.larger (e.balance load behind.2) 0 } :: behind.1 := rfl
  obtain ⟨surplus, hcredit⟩ := Equipment.credit_eq onHand
    (Quantity.larger (-e.balance load behind.2) 0)
    { endIndex := load.endIndex
      duration := load.duration
      energyNeeded := load.needed
      required := load.needed + behind.2
      maxSurplus := Quantity.larger (e.balance load behind.2) 0 }
  refine ⟨surplus, ?_⟩
  rw [hfront, hcredit]
  rfl

/-! ### Hours that mean the same -/

theorem segments_congr (g : Grid) (horizon : Nat) {i j : Nat}
    (h : i % weekHours = j % weekHours) : g.segments i horizon = g.segments j horizon := by
  show ⟨g.nextChange i, g.hoursToChange i⟩ :: g.segmentsWithin horizon (g.nextChange i) 0 =
    ⟨g.nextChange j, g.hoursToChange j⟩ :: g.segmentsWithin horizon (g.nextChange j) 0
  rw [g.nextChange_congr h, g.hoursToChange_congr h]

theorem project_congr (g : Grid) (e : Equipment α) (horizon : Nat) (onHand : α) {i j : Nat}
    (h : i % weekHours = j % weekHours) :
    g.project e i horizon onHand = g.project e j horizon onHand := by
  unfold project
  rw [g.segments_congr horizon h]

theorem planWith_congr (g : Grid) (e : Equipment α) (horizon : Nat) (surplus : α) {i j : Nat}
    (h : i % weekHours = j % weekHours) :
    g.planWith e horizon i surplus = g.planWith e horizon j surplus := by
  unfold planWith
  rw [g.nextChange_congr h, g.hoursToChange_congr h]

end Grid

end TruckDepot
