import TruckDepot.Proofs.Checked.Lookup
import TruckDepot.Proofs.Fleet.Hour

/-!
# Plans that can fail

A plan looks at the cells of all hours ahead, and at the shifts that they name.  With the lookups
that can fail it is the same plan on a sound grid (`Checked.project_eq`), and so is the plan that is
kept for an hour (`Checked.ensure_eq`).
-/

namespace TruckDepot.Checked

/-! ### Segments -/

/-- The hours from `index` to the next change of shift; a whole week if there is none. -/
def hoursToChange (g : Grid) (index : Nat) : Except Fault Nat := do
  let current ← shiftIdAt g index
  let change? ← (List.range' 1 (weekHours - 1)).findM? fun k =>
    return (← shiftIdAt g (index + k)) != current
  return change?.getD weekHours

/-- The segments that end within some hours after an hour of the week (`Grid.segmentsWithin`). -/
def segmentsWithin (g : Grid) : Nat → Nat → Nat → Except Fault (List Segment)
  | 0, _, _ => return []
  | horizon + 1, index, elapsed => do
    let next := nextHour index
    if (← shiftIdAt g next) = (← shiftIdAt g index) then
      segmentsWithin g horizon next (elapsed + 1)
    else
      return ⟨next, elapsed + 1⟩ :: (← segmentsWithin g horizon next 0)

/-- The segments ahead of an hour of the week (`Grid.segments`). -/
def segments (g : Grid) (start horizon : Nat) : Except Fault (List Segment) := do
  let duration ← hoursToChange g start
  let endIndex := (start + duration) % weekHours
  return ⟨endIndex, duration⟩ :: (← segmentsWithin g horizon endIndex 0)

theorem hoursToChange_eq (g : Grid) (index : Nat) :
    hoursToChange g index = .ok (g.hoursToChange index) := by
  have hchanges : (fun k => do return (← shiftIdAt g (index + k)) != g.shiftIdAt index) =
      fun k => (pure (g.shiftIdAt (index + k) != g.shiftIdAt index) : Except Fault Bool) := by
    funext k
    rw [shiftIdAt_eq]
    rfl
  unfold hoursToChange
  rw [shiftIdAt_eq, ok_bind, hchanges, List.findM?_pure]
  rfl

theorem segmentsWithin_eq (g : Grid) (horizon index elapsed : Nat) :
    segmentsWithin g horizon index elapsed = .ok (g.segmentsWithin horizon index elapsed) := by
  induction horizon generalizing index elapsed with
  | zero => rfl
  | succ horizon ih =>
    unfold segmentsWithin Grid.segmentsWithin
    dsimp only
    rw [shiftIdAt_eq, ok_bind, shiftIdAt_eq, ok_bind, ih, ih]
    split_ifs
    · rfl
    · rfl

theorem segments_eq (g : Grid) (start horizon : Nat) :
    segments g start horizon = .ok (g.segments start horizon) := by
  unfold segments
  rw [hoursToChange_eq, ok_bind]
  dsimp only
  rw [segmentsWithin_eq]
  rfl

/-! ### Plans -/

variable {α : Type} [Quantity α] {g : Grid}

/-- The work in a segment and after it (`Grid.loadOf`). -/
def loadOf (g : Grid) (truckKw : α) (s : Segment) : Except Fault (SegmentLoad α) := do
  let trucksDuring ← trucksAt g (previousHour s.endIndex)
  let next? ← shiftAt g s.endIndex
  let needed := next?.elim 0 fun shift => Quantity.ofNat shift.truckHours * truckKw
  return ⟨s.endIndex, s.duration, trucksDuring, needed⟩

/-- The plan at an hour of the week, over a horizon after the current shift (`Grid.project`). -/
def project (g : Grid) (e : Equipment α) (start horizon : Nat) (onHand : α) :
    Except Fault (List (PlannedSegment α)) := do
  let loads ← (← segments g start horizon).mapM (loadOf g e.truckKw)
  return e.needs loads onHand

/-- Makes sure of a plan for an hour of the week, as `PlanCache.ensure` does. -/
def ensure (c : PlanCache α) (g : Grid) (e : Equipment α) (index : Nat)
    (current : Option ShiftId) (onHand : α) : Except Fault (PlanCache α) := do
  let index := index % weekHours
  if c.holds index current then
    return { c with plan := PlanCache.tickFirst c.plan, lastIndex := some index }
  else
    let plan ← project g e index e.planningHorizon onHand
    match plan.head? with
    | none => return ⟨plan, none, some index⟩
    | some first => return ⟨plan, ← shiftIdAt g first.endIndex, some index⟩

variable (hg : g.IsSound)

include hg

theorem loadOf_eq (truckKw : α) (s : Segment) : loadOf g truckKw s = .ok (g.loadOf truckKw s) := by
  unfold loadOf Grid.loadOf
  rw [trucksAt_eq hg, ok_bind, shiftAt_eq hg, ok_bind]
  cases g.shiftAt s.endIndex with
  | none => rfl
  | some shift => rfl

theorem project_eq (e : Equipment α) (start horizon : Nat) (onHand : α) :
    project g e start horizon onHand = .ok (g.project e start horizon onHand) := by
  unfold project
  rw [segments_eq, ok_bind, mapM_eq_ok fun s _ => loadOf_eq hg e.truckKw s]
  rfl

theorem ensure_eq (c : PlanCache α) (e : Equipment α) (index : Nat) (current : Option ShiftId)
    (onHand : α) :
    ensure c g e index current onHand = .ok (c.ensure g e index current onHand) := by
  unfold ensure PlanCache.ensure
  dsimp only
  split_ifs
  · rfl
  · rw [project_eq hg, ok_bind]
    cases (g.project e (index % weekHours) e.planningHorizon onHand).head? with
    | none => rfl
    | some first =>
      dsimp only
      rw [shiftIdAt_eq]
      rfl

end TruckDepot.Checked
