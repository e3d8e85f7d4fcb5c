/-!
# The week

The depot works by the hour of the week. Hours are counted from Sunday midnight, and the count wraps
after seven days. A `Slot` names an hour by day and hour of day; days are counted from `1`, which is
Sunday. Slots come from outside, so both parts may be any byte; `Slot.index` finds the hour that is
meant, with late hours running into the following days and day `0` counting as day `1`.
-/

namespace TruckDepot

/-- Hours in one day. -/
def hoursPerDay : Nat := 24

/-- Hours in one week. -/
def weekHours : Nat := 168

/-- The hour after an hour of the week. -/
def nextHour (index : Nat) : Nat :=
  (index % weekHours + 1) % weekHours

/-- The hour before an hour of the week. -/
def previousHour (index : Nat) : Nat :=
  (index % weekHours + weekHours - 1) % weekHours

/-- An hour of the week by day and hour of day. -/
structure Slot where
  /-- Day of the week; Sunday is `1`. -/
  day : UInt8
  /-- Hour of the day. -/
  hour : UInt8
  deriving DecidableEq, Repr

namespace Slot

/-- The hour of the week that a slot means. -/
def index (s : Slot) : Nat :=
  (s.hour.toNat + (s.day.toNat - 1) * hoursPerDay) % weekHours

/-- The slot of an hour of the week. -/
def ofIndex (index : Nat) : Slot :=
  ⟨UInt8.ofNat (index % weekHours / hoursPerDay + 1), UInt8.ofNat (index % weekHours % hoursPerDay)⟩

/-- The same hour of the week, by a day from `1` to `7` and an hour of day. -/
def wrapped (s : Slot) : Slot :=
  ofIndex s.index

/-- The following hour. -/
def next (s : Slot) : Slot :=
  ofIndex (s.index + 1)

theorem index_lt (s : Slot) : s.index < weekHours :=
  Nat.mod_lt _ (by decide)

end Slot

end TruckDepot
