import Mathlib.Logic.Function.Iterate
import Mathlib.Tactic.Common
import TruckDepot.Proofs.Week
import TruckDepot.Week.Clock

/-!
# The hours that a clock emits

A clock finds the slot of a step from its start and the number of the step.  Going on from hour to
hour leads to the same slots, over the ends of days and weeks and from a start of any two bytes
(`Slot.iterate_next_wrapped`).

A clock is asked for one step or for all that are left, in any order.  One call emits the steps that
are next and moves the clock on past them (`Clock.call_eq`); hence so do any number of calls, until
no step is left (`Clock.calls_eq`).
-/

namespace TruckDepot

namespace Slot

/-! ### From hour to hour -/

theorem ofIndex_congr {i j : Nat} (h : i % weekHours = j % weekHours) : ofIndex i = ofIndex j := by
  unfold ofIndex
  rw [h]

theorem inWeek_ofIndex (index : Nat) : (ofIndex index).InWeek := by
  -- both parts fit a byte, so neither is cut off
  have hday : index % weekHours / hoursPerDay + 1 < 256 := by
    unfold weekHours hoursPerDay
    omega
  have hhour : index % weekHours % hoursPerDay < 256 := by
    unfold hoursPerDay
    omega
  constructor
  · show 1 ≤ (UInt8.ofNat _).toNat
    rw [UInt8.toNat_ofNat_of_lt' hday]
    exact Nat.le_add_left 1 _
  · show (UInt8.ofNat _).toNat ≤ 7
    rw [UInt8.toNat_ofNat_of_lt' hday]
    unfold weekHours hoursPerDay
    omega
  · show (UInt8.ofNat _).toNat < hoursPerDay
    rw [UInt8.toNat_ofNat_of_lt' hhour]
    exact Nat.mod_lt _ (by decide)

theorem next_ofIndex (index : Nat) : (ofIndex index).next = ofIndex (index + 1) := by
  unfold next
  rw [index_ofIndex]
  exact ofIndex_congr (Nat.mod_add_mod index weekHours 1)

/-- `hours` steps of `next` from `s.wrapped` lead to the slot with the index `s.index + hours`. -/
theorem iterate_next_wrapped (s : Slot) (hours : Nat) :
    next^[hours] s.wrapped = ofIndex (s.index + hours) := by
  induction hours with
  | zero => rfl
  | succ hours ih => rw [Function.iterate_succ_apply', ih, next_ofIndex, Nat.add_assoc]

/-- In the week, `previousHour` of `s.next` is `s` itself, not only by its index. -/
theorem ofIndex_previousHour_next {s : Slot} (h : s.InWeek) :
    ofIndex (previousHour s.next.index) = s := by
  rw [index_next, previousHour_nextHour, Nat.mod_eq_of_lt s.index_lt]
  exact h.wrapped_eq

end Slot

namespace Clock

/-! ### Calls -/

/-- Something that a clock is asked for: `tick` or `run`. -/
inductive Call where
  /-- One step. -/
  | tick
  /-- Every step that is left. -/
  | run
  deriving DecidableEq

/-- What a clock emits on a call, and the clock after it: `tick` emits one step at most. -/
def call (c : Clock) : Call → List (Nat × Slot) × Clock
  | .tick => (c.tick.1.toList, c.tick.2)
  | .run => c.run

/-- All that a clock emits on `calls`, in order, and the clock after them. -/
def calls (c : Clock) : List Call → List (Nat × Slot) × Clock
  | [] => ([], c)
  | call :: rest =>
    ((c.call call).1 ++ ((c.call call).2.calls rest).1, ((c.call call).2.calls rest).2)

/-- How many steps `calls` emit when `left` of them are left: all on a `run`, else one for each
`tick`. -/
def granted (calls : List Call) (left : Nat) : Nat :=
  if .run ∈ calls then left else min left calls.length

/-! ### The steps ahead -/

/-- The steps that are left, from `current` up to `total`. -/
def left (c : Clock) : Nat :=
  c.total - c.current

/-- The next `count` steps of a clock with their slots. -/
def ahead (c : Clock) (count : Nat) : List (Nat × Slot) :=
  (List.range' c.current count).map fun step => (step, c.slotAt step)

/-- The clock `count` steps on. -/
def movedOn (c : Clock) (count : Nat) : Clock :=
  { c with current := c.current + count }

variable (c : Clock)

theorem left_movedOn (count : Nat) : (c.movedOn count).left = c.left - count :=
  Nat.sub_add_eq _ _ _

theorem ahead_add (first later : Nat) :
    c.ahead (first + later) = c.ahead first ++ (c.movedOn first).ahead later := by
  unfold ahead
  rw [← List.range'_append_1, List.map_append]
  rfl

theorem movedOn_movedOn (first later : Nat) :
    (c.movedOn first).movedOn later = c.movedOn (first + later) := by
  unfold movedOn
  rw [Nat.add_assoc]

theorem tick_eq : c.call .tick = (c.ahead (min c.left 1), c.movedOn (min c.left 1)) := by
  unfold call tick left
  dsimp only
  split_ifs with h
  · rw [show min (c.total - c.current) 1 = 1 by omega]
    rfl
  · rw [show min (c.total - c.current) 1 = 0 by omega]
    rfl

theorem run_eq : c.run = (c.ahead c.left, c.movedOn c.left) := by
  fun_induction run c with
  | case1 c h emitted final hrun ih =>
    -- the first step, and then those of the clock that has made it
    have hleft : c.left = 1 + (c.movedOn 1).left := by
      rw [left_movedOn]
      unfold left
      omega
    have hrest : (emitted, final) =
        ((c.movedOn 1).ahead (c.movedOn 1).left, (c.movedOn 1).movedOn (c.movedOn 1).left) :=
      hrun.symm.trans ih
    obtain ⟨rfl, rfl⟩ := Prod.mk.inj hrest
    rw [hleft, ahead_add, movedOn_movedOn]
    rfl
  | case2 c h =>
    rw [show c.left = 0 from Nat.sub_eq_zero_of_le (Nat.not_lt.mp h)]
    rfl

/-- One call emits the next `granted [call] c.left` steps and moves the clock on past them. -/
theorem call_eq (call : Call) :
    c.call call = (c.ahead (granted [call] c.left), c.movedOn (granted [call] c.left)) := by
  cases call with
  | tick => exact c.tick_eq
  | run => exact c.run_eq

theorem granted_zero (calls : List Call) : granted calls 0 = 0 := by
  unfold granted
  rw [Nat.zero_min, ite_self]

theorem granted_cons (call : Call) (rest : List Call) (left : Nat) :
    granted (call :: rest) left =
      granted [call] left + granted rest (left - granted [call] left) := by
  cases call with
  | tick =>
    have htick : granted [.tick] left = min left 1 := if_neg (by decide)
    rw [htick]
    unfold granted
    by_cases hrest : .run ∈ rest
    · rw [if_pos (List.mem_cons_of_mem _ hrest), if_pos hrest]
      omega
    · have hcons : .run ∉ Call.tick :: rest :=
        List.not_mem_cons_of_ne_of_not_mem (by decide) hrest
      rw [if_neg hcons, if_neg hrest, List.length_cons]
      omega
  | run =>
    have hrun (rest : List Call) : granted (.run :: rest) left = left := if_pos List.mem_cons_self
    rw [hrun, hrun, Nat.sub_self, granted_zero, Nat.add_zero]

/-- **Any calls** emit the next `granted calls c.left` steps and move the clock on past them. -/
theorem calls_eq (calls : List Call) :
    c.calls calls = (c.ahead (granted calls c.left), c.movedOn (granted calls c.left)) := by
  induction calls generalizing c with
  | nil =>
    rw [show granted [] c.left = 0 from Nat.min_zero _]
    rfl
  | cons call rest ih =>
    unfold Clock.calls
    rw [granted_cons, ahead_add, ← movedOn_movedOn, ih, call_eq, left_movedOn]

/-- With no step `left`, no call emits anything or moves the clock. -/
theorem calls_of_left_eq_zero {c : Clock} (h : c.left = 0) (calls : List Call) :
    c.calls calls = ([], c) := by
  rw [calls_eq, h, granted_zero]
  rfl

/-- The slot of `step` is `step` times `Slot.next` from `c.start.wrapped`. -/
theorem slotAt_eq (step : Nat) : c.slotAt step = Slot.next^[step] c.start.wrapped :=
  (c.start.iterate_next_wrapped step).symm

theorem ahead_eq (count : Nat) : c.ahead count =
    (List.range' c.current count).map fun step => (step, Slot.next^[step] c.start.wrapped) := by
  unfold ahead
  simp only [slotAt_eq]

/-- From `starting start total`, `calls` emit the steps below `granted calls total`, hour after
hour. -/
theorem calls_starting (start : Slot) (total : Nat) (calls : List Call) :
    (starting start total).calls calls =
      ((List.range (granted calls total)).map fun step => (step, Slot.next^[step] start.wrapped),
        ⟨start, granted calls total, total⟩) := by
  rw [calls_eq, ahead_eq, List.range_eq_range']
  unfold movedOn
  rw [show (starting start total).current = 0 from rfl, Nat.zero_add]
  rfl

end Clock

end TruckDepot
