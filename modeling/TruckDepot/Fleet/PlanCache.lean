import TruckDepot.Fleet.Plan

/-!
# Keeping a plan

A plan need not be computed afresh every hour: while the calls come hour by hour and the shift
that the first segment leads to has not begun, only the hours left in the first segment change.
`ensure` keeps the plan in that case and projects a new one in every other. -/

namespace TruckDepot

/-- The last plan, and what decides whether it still holds. -/
structure PlanCache (α : Type) where
  /-- The last plan; empty before the first one. -/
  plan : List (PlannedSegment α)
  /-- The shift that the first segment leads to. -/
  nextShift : Option ShiftId
  /-- Hour of the week of the last call. -/
  lastIndex : Option Nat
  deriving DecidableEq, Repr

namespace PlanCache

variable {α : Type} [Quantity α]

/-- No plan is kept. -/
def empty : PlanCache α :=
  ⟨[], none, none⟩

/-- One hour of the first segment has passed. -/
def tickFirst : List (PlannedSegment α) → List (PlannedSegment α)
  | [] => []
  | first :: rest => first.tick :: rest

/-- The plan kept so far holds for an hour of the week with the given shift. -/
def holds (c : PlanCache α) (index : Nat) (current : Option ShiftId) : Bool :=
  c.lastIndex.any (fun last => nextHour last == index) && !c.plan.isEmpty && c.nextShift != current

/-- Makes sure of a plan for an hour of the week: the plan kept so far, an hour on, if it holds, and
else a new one. -/
def ensure (c : PlanCache α) (g : Grid) (e : Equipment α) (index : Nat) (current : Option ShiftId)
    (onHand : α) : PlanCache α :=
  let index := index % weekHours
  if c.holds index current then
    { c with plan := tickFirst c.plan, lastIndex := some index }
  else
    let plan := g.project e index e.planningHorizon onHand
    { plan := plan
      nextShift := plan.head?.bind fun first => g.shiftIdAt first.endIndex
      lastIndex := some index }

end PlanCache

end TruckDepot
