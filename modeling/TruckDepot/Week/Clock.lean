import TruckDepot.Week

/-!
# The clock

A clock counts hourly steps from a starting slot up to a total. Each step is emitted once, with its
number and its slot; once the total is reached nothing more is emitted.
-/

namespace TruckDepot

/-- A clock on its way from a start to a total number of steps. -/
structure Clock where
  /-- Slot of the first step. -/
  start : Slot
  /-- Steps emitted so far. -/
  current : Nat
  /-- Steps to emit in all. -/
  total : Nat
  deriving DecidableEq, Repr

namespace Clock

/-- A clock before its first step. -/
def starting (start : Slot) (total : Nat) : Clock :=
  ⟨start, 0, total⟩

/-- The slot of a step. -/
def slotAt (c : Clock) (step : Nat) : Slot :=
  Slot.ofIndex (c.start.index + step)

/-- Emits one step, if one is left. -/
def tick (c : Clock) : Option (Nat × Slot) × Clock :=
  if c.current < c.total then
    (some (c.current, c.slotAt c.current), { c with current := c.current + 1 })
  else (none, c)

/-- Emits every step that is left. -/
def run (c : Clock) : List (Nat × Slot) × Clock :=
  if c.current < c.total then
    let (emitted, final) := run { c with current := c.current + 1 }
    ((c.current, c.slotAt c.current) :: emitted, final)
  else ([], c)
termination_by c.total - c.current

end Clock

end TruckDepot
