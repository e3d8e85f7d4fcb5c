import TruckDepot.Fleet.Record

/-!
# Summary of a run

The figures of a whole run, computed from its hourly records and from nothing else. A run without
hours has zero everywhere. -/

namespace TruckDepot

open Quantity

/-- The figures of a run. Energies are in kWh. -/
structure Summary (α : Type) where
  /-- Energy used by the trucks. -/
  usage : α
  /-- Energy put into the batteries. -/
  stored : α
  /-- Energy drawn from the grid. -/
  drawn : α
  /-- Price of the energy drawn. -/
  cost : α
  /-- Most energy drawn in an hour. -/
  peakDraw : α
  /-- Hours in which trucks had to borrow. -/
  shortfalls : Nat
  /-- Energy borrowed. -/
  borrowed : α
  /-- Least energy seen in the packs off the trucks; negative in debt. -/
  lowestCharging : α
  /-- Swaps of batteries. -/
  shiftChanges : Nat
  deriving DecidableEq, Repr

namespace Summary

variable {α : Type} [Quantity α]

/-- Figures before the first hour, with a bound that the least energy starts from. -/
def starting (lowest : α) : Summary α :=
  ⟨0, 0, 0, 0, 0, 0, 0, lowest, 0⟩

/-- Figures with one more hour. -/
def add (s : Summary α) (r : HourRecord α) : Summary α :=
  { usage := s.usage + r.usage
    stored := s.stored + r.stored
    drawn := s.drawn + r.drawn
    cost := s.cost + r.cost
    peakDraw := larger s.peakDraw r.drawn
    shortfalls := if 0 < r.borrowed then s.shortfalls + 1 else s.shortfalls
    borrowed := if 0 < r.borrowed then s.borrowed + r.borrowed else s.borrowed
    lowestCharging := smaller s.lowestCharging r.energyCharging
    shiftChanges := if r.shiftChanged then s.shiftChanges + 1 else s.shiftChanges }

/-- The figures of a run. The least energy starts from the top of the numbers, or where they have no
top from the energy of the first hour. -/
def ofRecords : List (HourRecord α) → Summary α
  | [] => starting 0
  | first :: rest =>
    (first :: rest).foldl add (starting (top?.getD first.energyCharging))

/-- Energy stored per energy drawn; zero when nothing was drawn. -/
def efficiency (s : Summary α) : α :=
  if 0 < s.drawn then s.stored / s.drawn else 0

end Summary

end TruckDepot
