import TruckDepot.Power

/-!
# Shifts

A shift is one recurring block of work: the hour of day it starts at, the hours it lasts, possibly
past midnight, and the trucks that work all that time. A `Shift` carries its bounds, so no shift
outside them can be built; `Shift.ofNumbers` says which bound three given numbers break. -/

namespace TruckDepot

/-- Why a declaration, or a token of one, is passed over. -/
inductive Rejection where
  /-- A token is neither a keyword nor a number. -/
  | badToken (token : String)
  /-- A shift is declared before any day is. -/
  | emptyBlock (numbers : List Int)
  /-- A shift has fewer than three numbers. -/
  | incompleteShift (numbers : List Int)
  /-- A day of the block is not a day of the week. -/
  | badBlock (days : List Int)
  /-- A start is not an hour of the day. -/
  | badStart (start : Int)
  /-- A duration is not between one hour and one day. -/
  | badDuration (duration : Int)
  /-- A count of trucks is negative. -/
  | negativeTrucks (trucks : Int)
  /-- A count of trucks does not fit 32 bits. -/
  | tooManyTrucks (trucks : Int)
  deriving DecidableEq, Repr

/-- Numbers as they are shown in a message: in brackets, with commas. -/
def showNumbers (numbers : List Int) : String :=
  "[" ++ String.intercalate ", " (numbers.map fun n => toString n) ++ "]"

/-- The message for a rejection. -/
def Rejection.message : Rejection → String
  | .badToken token => "bad numeric token \"" ++ token ++ "\""
  | .emptyBlock numbers => "empty block for shift " ++ showNumbers numbers
  | .incompleteShift numbers => "bad shift definition " ++ showNumbers numbers
  | .badBlock days => "bad block data " ++ showNumbers days
  | .badStart start => "bad shift start time " ++ toString start
  | .badDuration duration => "bad shift duration " ++ toString duration
  | .negativeTrucks trucks => "negative shift truck count " ++ toString trucks
  | .tooManyTrucks trucks => "shift truck count " ++ toString trucks ++ " is too large"

/-- The largest unsigned 32-bit word, which bounds every count. -/
def largestCount : Nat := twoTo 32 - 1

/-- One recurring block of work. -/
structure Shift where
  /-- Hour of day at which the shift begins. -/
  start : Nat
  /-- Hours that the shift lasts. -/
  duration : Nat
  /-- Trucks that work during the shift. -/
  trucks : Nat
  /-- A shift begins within a day. -/
  start_lt : start < 24 := by omega
  /-- A shift lasts at least an hour. -/
  duration_pos : 0 < duration := by omega
  /-- A shift lasts at most a day. -/
  duration_le : duration ≤ 24 := by omega
  /-- A count of trucks fits 32 bits. -/
  trucks_le : trucks ≤ largestCount
  deriving DecidableEq, Repr

namespace Shift

/-- The shift of three numbers, or the first bound that they break: start, duration, trucks. -/
def ofNumbers (start duration trucks : Int) : Except Rejection Shift :=
  if hs : 0 ≤ start ∧ start < 24 then
    if hd : 1 ≤ duration ∧ duration ≤ 24 then
      if ht : 0 ≤ trucks ∧ trucks ≤ largestCount then
        .ok
          { start := start.toNat
            duration := duration.toNat
            trucks := trucks.toNat
            trucks_le := by omega }
      else if trucks < 0 then .error (.negativeTrucks trucks)
      else .error (.tooManyTrucks trucks)
    else .error (.badDuration duration)
  else .error (.badStart start)

/-- Truck-hours of work in one occurrence of the shift. -/
def truckHours (s : Shift) : Nat :=
  s.trucks * s.duration

/-- The shift as text. -/
def text (s : Shift) : String :=
  "Shift(" ++ toString s.start ++ "," ++ toString s.duration ++ "," ++ toString s.trucks ++ ")"

end Shift

end TruckDepot
