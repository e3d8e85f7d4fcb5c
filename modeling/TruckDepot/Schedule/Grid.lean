import TruckDepot.Schedule.Shift
import TruckDepot.Week

/-!
# The weekly grid

The grid has one cell for every hour of the week. A cell is idle or names a shift by its id, which
is the shift's position in the table of accepted shifts. Adding a shift writes its id into every
cell that it covers, so where shifts overlap the last one added is in force. -/

namespace TruckDepot

/-- Position of a shift among the accepted ones. -/
abbrev ShiftId := Nat

/-- The cells of a week. -/
abbrev Cells := Vector (Option ShiftId) weekHours

/-- The weekly work schedule. -/
structure Grid where
  /-- The accepted shifts, in the order they were added. -/
  shifts : Array Shift
  /-- The shift of every hour of the week. -/
  cells : Cells
  /-- The declarations that the grid was read from. -/
  tokens : List String
  deriving DecidableEq, Repr

namespace Grid

/-- The grid with every hour idle. -/
def empty : Grid :=
  ⟨#[], Vector.replicate weekHours none, []⟩

/-! ### Adding a shift -/

/-- The hours that a shift covers when it starts on each of some days, counted from the beginning of
the week; they may run past its end. Day `0` counts as day `1`. -/
def hoursOf (shift : Shift) (days : List UInt8) : List Nat :=
  days.flatMap fun day =>
    (List.range shift.duration).map fun k => (day.toNat - 1) * hoursPerDay + shift.start + k

/-- Writes an id into the cell of an hour. -/
def paint (id : ShiftId) (cells : Cells) (hour : Nat) : Cells :=
  cells.set (hour % weekHours) (some id) (Nat.mod_lt _ (by decide))

/-- Adds a shift on some days. Its id is the number of shifts before it. -/
def add (g : Grid) (shift : Shift) (days : List UInt8) : Grid :=
  { g with
    shifts := g.shifts.push shift
    cells := (hoursOf shift days).foldl (paint g.shifts.size) g.cells }

/-! ### Queries -/

/-- The id of the shift at an hour of the week, if one is on. -/
def shiftIdAt (g : Grid) (index : Nat) : Option ShiftId :=
  g.cells.get ⟨index % weekHours, Nat.mod_lt _ (by decide)⟩

/-- The shift of an id. -/
def shift? (g : Grid) (id : ShiftId) : Option Shift :=
  g.shifts[id]?

/-- The shift at an hour of the week, if one is on. -/
def shiftAt (g : Grid) (index : Nat) : Option Shift :=
  (g.shiftIdAt index).bind g.shift?

/-- Trucks of a shift; none when no shift is on. -/
def trucksOf (g : Grid) (id : Option ShiftId) : Nat :=
  ((id.bind g.shift?).map Shift.trucks).getD 0

/-- Trucks working at an hour of the week. -/
def trucksAt (g : Grid) (index : Nat) : Nat :=
  g.trucksOf (g.shiftIdAt index)

/-- No hour of the week has a shift. -/
def isEmpty (g : Grid) : Bool :=
  g.cells.all Option.isNone

end Grid

end TruckDepot
