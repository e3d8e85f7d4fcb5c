import TruckDepot.Fleet.Equipment
import TruckDepot.Schedule.Grid

/-!
# Energy plans

The schedule ahead is cut into segments that each end where the shift changes. For every segment
the plan says how much energy the following shift takes, how much of it has to be on hand when the
segment ends, and how much more than that could be charged by then.

* `Grid.segments` cuts the schedule.
* `Grid.loads` puts the work to the segments.
* `Equipment.needs` walks the segments backwards and carries what a segment cannot charge itself
  to the segment before it.
* `Grid.project` is the whole of it.
-/

namespace TruckDepot

/-- A stretch of hours at whose end the shift changes. -/
structure Segment where
  /-- Hour of the week at which the segment ends. -/
  endIndex : Nat
  /-- Hours in the segment. -/
  duration : Nat
  deriving DecidableEq, Repr

/-- A segment with the work in it and after it. -/
structure SegmentLoad (α : Type) where
  /-- Hour of the week at which the segment ends. -/
  endIndex : Nat
  /-- Hours in the segment. -/
  duration : Nat
  /-- Trucks working during the segment, whose packs cannot charge. -/
  trucksDuring : Nat
  /-- Energy that the following shift takes, in kWh. -/
  needed : α
  deriving DecidableEq, Repr

/-- A segment of an energy plan. -/
structure PlannedSegment (α : Type) where
  /-- Hour of the week at which the segment ends. -/
  endIndex : Nat
  /-- Hours left in the segment. -/
  duration : Nat
  /-- Energy that the following shift takes, in kWh. -/
  energyNeeded : α
  /-- Energy that has to be on hand at the end of the segment, in kWh. -/
  required : α
  /-- Energy that could be charged beyond that, in kWh. In the first segment this counts the energy
  already on hand, and is negative when the plan cannot be met. -/
  maxSurplus : α
  deriving DecidableEq, Repr

/-- One hour of a segment has passed. -/
def PlannedSegment.tick {α : Type} (s : PlannedSegment α) : PlannedSegment α :=
  { s with duration := s.duration - 1 }

/-! ### Cutting the schedule -/

namespace Grid

/-- Hours from an hour of the week to the next change of shift; a whole week if there is none. -/
def hoursToChange (g : Grid) (index : Nat) : Nat :=
  let changes := fun k => g.shiftIdAt (index + k) != g.shiftIdAt index
  ((List.range' 1 (weekHours - 1)).find? changes).getD weekHours

/-- The segments that end within some hours after hour `index`, when `elapsed` hours have passed
since the last change. A stretch that is still open at the end has no boundary and is left out. -/
def segmentsWithin (g : Grid) : Nat → Nat → Nat → List Segment
  | 0, _, _ => []
  | horizon + 1, index, elapsed =>
    let next := nextHour index
    if g.shiftIdAt next = g.shiftIdAt index then g.segmentsWithin horizon next (elapsed + 1)
    else ⟨next, elapsed + 1⟩ :: g.segmentsWithin horizon next 0

/-- The segments ahead of an hour of the week: the one that this hour is in, and those that end
within the horizon after it. -/
def segments (g : Grid) (start horizon : Nat) : List Segment :=
  let duration := g.hoursToChange start
  let endIndex := (start + duration) % weekHours
  ⟨endIndex, duration⟩ :: g.segmentsWithin horizon endIndex 0

variable {α : Type} [Quantity α]

/-- The work in a segment and after it. -/
def loadOf (g : Grid) (truckKw : α) (s : Segment) : SegmentLoad α :=
  { endIndex := s.endIndex
    duration := s.duration
    trucksDuring := g.trucksAt (previousHour s.endIndex)
    needed :=
      match g.shiftAt s.endIndex with
      | none => 0
      | some shift => Quantity.ofNat shift.truckHours * truckKw }

/-- The work in segments and after them. -/
def loads (g : Grid) (truckKw : α) (segments : List Segment) : List (SegmentLoad α) :=
  segments.map (g.loadOf truckKw)

end Grid

/-! ### Walking backwards -/

namespace Equipment

variable {α : Type} [Quantity α]

/-- The most energy that can be charged during a segment. -/
def available (e : Equipment α) (load : SegmentLoad α) : α :=
  e.maxChargeKw * Quantity.ofNat load.duration *
    Quantity.ofNat (e.usableChargers load.trucksDuring)

/-- What is left of the charging in a segment after its own need and the shortage behind it. -/
def balance (e : Equipment α) (load : SegmentLoad α) (shortage : α) : α :=
  e.available load - load.needed - shortage

/-- Puts one more segment in front of a plan, together with the shortage that is carried on. -/
def addSegment (e : Equipment α) (load : SegmentLoad α) (planned : List (PlannedSegment α) × α) :
    List (PlannedSegment α) × α :=
  let balance := e.balance load planned.2
  ({ endIndex := load.endIndex
     duration := load.duration
     energyNeeded := load.needed
     required := load.needed + planned.2
     maxSurplus := Quantity.larger balance 0 } :: planned.1,
    Quantity.larger (-balance) 0)

/-- Credits the energy on hand to the first segment: to its surplus, or against the shortage that is
carried out of it. -/
def credit (onHand shortage : α) (first : PlannedSegment α) : PlannedSegment α :=
  if 0 < first.maxSurplus then { first with maxSurplus := first.maxSurplus + onHand }
  else if 0 < shortage then { first with maxSurplus := onHand - shortage }
  else first

/-- The plan for some segments, given the energy on hand. -/
def needs (e : Equipment α) (loads : List (SegmentLoad α)) (onHand : α) :
    List (PlannedSegment α) :=
  match loads.foldr e.addSegment ([], 0) with
  | ([], _) => []
  | (first :: rest, shortage) => credit onHand shortage first :: rest

end Equipment

/-- The plan at an hour of the week, over a horizon after the current shift, given the energy on
hand. -/
def Grid.project {α : Type} [Quantity α] (g : Grid) (e : Equipment α) (start horizon : Nat)
    (onHand : α) : List (PlannedSegment α) :=
  e.needs (g.loads e.truckKw (g.segments start horizon)) onHand

end TruckDepot
