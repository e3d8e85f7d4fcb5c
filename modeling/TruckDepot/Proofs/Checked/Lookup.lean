import TruckDepot.Proofs.Fleet.SavedSchedule

/-!
# Lookups that can fail

A cell is read by its hour, a shift by its id, and a count is taken from another count.  The rules
of the depot are total: `Grid.shift?` gives nothing for an id that is not in the table, the hour is
then taken for idle, and a difference below zero counts as zero.  Here the same rules are written so
that they come to a `Fault` in these cases, instead of going on.

A grid is sound if every id in a cell is one of its table (`Grid.IsSound`).  Every grid that can be
built is (`Grid.Built.isSound`), and on a sound grid nothing that is looked up at any hour is
missing (`Checked.shiftAt_eq`, `Checked.trucksAt_eq`).
-/

namespace TruckDepot

/-- What a lookup or a subtraction can fail on. -/
inductive Fault where
  /-- There is no cell of an hour. -/
  | noCell (hour : Nat)
  /-- There is no shift of an id. -/
  | noShift (id : ShiftId)
  /-- There is no count at a position of an hourly list. -/
  | noCount (position : Nat)
  /-- More is to be taken from a count than there is. -/
  | belowZero (count taken : Nat)
  deriving DecidableEq, Repr

/-! ### Grids that can be built -/

namespace Grid

/-- A grid that can be built: `empty`, `default`, read by `ofTokens` or `configure`, and with any
shifts that `add` gives it. -/
inductive Built : Grid → Prop where
  | empty : Built .empty
  | default : Built .default
  | ofTokens (tokens : List String) : Built (ofTokens tokens).1
  | configure (tokens : List String) : Built (configure tokens).grid
  | add {g : Grid} (h : Built g) (shift : Shift) (days : List UInt8) : Built (g.add shift days)

/-- Every id that `g.shiftIdAt` gives is below `g.shifts.size`. -/
def IsSound (g : Grid) : Prop :=
  ∀ index id, g.shiftIdAt index = some id → id < g.shifts.size

variable {g : Grid}

/-- `add` puts its own id into cells, and the shift is in the table by then. -/
theorem IsSound.add (h : g.IsSound) (shift : Shift) (days : List UInt8) :
    (g.add shift days).IsSound := by
  intro index id hid
  have hsize : (g.add shift days).shifts.size = g.shifts.size + 1 := Array.size_push shift
  rw [shiftIdAt_add] at hid
  rw [hsize]
  split_ifs at hid with hcovers
  · obtain rfl := Option.some.inj hid
    exact Nat.lt_succ_self _
  · exact Nat.lt_succ_of_lt (h index id hid)

theorem Built.isSound (h : g.Built) : g.IsSound := by
  induction h with
  | empty =>
    intro index id hid
    rw [shiftIdAt_empty] at hid
    cases hid
  | default => exact fun _ _ => IsRead.lt_size_shifts ⟨defaultTokens, Or.inl rfl⟩
  | ofTokens tokens => exact fun _ _ => IsRead.lt_size_shifts ⟨tokens, Or.inl rfl⟩
  | configure tokens => exact fun _ _ => IsRead.lt_size_shifts ⟨tokens, Or.inr rfl⟩
  | add _ shift days ih => exact ih.add shift days

/-- An id stays valid, for `addAll` puts its shifts behind. -/
theorem shift?_addAll_of_eq_some {id : ShiftId} {shift : Shift} (h : g.shift? id = some shift)
    (added : List Declaration) : (g.addAll added).shift? id = some shift := by
  rw [shift?_addAll_of_lt g added (Array.getElem?_eq_some_iff.mp h).1, h]

end Grid

/-! ### Lookups -/

namespace Checked

theorem ok_bind {β γ : Type} (b : β) (f : β → Except Fault γ) : (Except.ok b >>= f) = f b :=
  rfl

theorem mapM_eq_ok {β γ : Type} {f : β → Except Fault γ} {f' : β → γ} {l : List β}
    (h : ∀ b ∈ l, f b = .ok (f' b)) : l.mapM f = .ok (l.map f') := by
  induction l with
  | nil => rfl
  | cons b rest ih =>
    rw [List.forall_mem_cons] at h
    rw [List.mapM_cons, h.1, ih h.2]
    rfl

theorem foldlM_eq_ok {β γ : Type} {f : γ → β → Except Fault γ} {f' : γ → β → γ}
    (h : ∀ c b, f c b = .ok (f' c b)) (l : List β) (c : γ) :
    l.foldlM f c = .ok (l.foldl f' c) := by
  induction l generalizing c with
  | nil => rfl
  | cons b rest ih =>
    rw [List.foldlM_cons, h, ok_bind, ih]
    rfl

/-- `count - taken`, where that is not below zero. -/
def difference (count taken : Nat) : Except Fault Nat :=
  if taken ≤ count then .ok (count - taken) else .error (.belowZero count taken)

theorem difference_eq {count taken : Nat} (h : taken ≤ count) :
    difference count taken = .ok (count - taken) :=
  if_pos h

/-- The cell of an `hour`, which has to be one of the week. -/
def cell (cells : Cells) (hour : Nat) : Except Fault (Option ShiftId) :=
  if h : hour < weekHours then .ok cells[hour] else .error (.noCell hour)

/-- Writes an id into the cell of an `hour`, which has to be one of the week. -/
def paint (id : ShiftId) (cells : Cells) (hour : Nat) : Except Fault Cells :=
  let hour := hour % weekHours
  if h : hour < weekHours then .ok (cells.set hour (some id) h) else .error (.noCell hour)

/-- Adds a shift on some days, as `Grid.add` does. -/
def add (g : Grid) (shift : Shift) (days : List UInt8) : Except Fault Grid := do
  let cells ← (Grid.hoursOf shift days).foldlM (paint g.shifts.size) g.cells
  return { g with shifts := g.shifts.push shift, cells := cells }

/-- The id of the shift at an hour of the week, if one is on (`Grid.shiftIdAt`). -/
def shiftIdAt (g : Grid) (index : Nat) : Except Fault (Option ShiftId) :=
  cell g.cells (index % weekHours)

/-- The shift of an `id`, which has to be in the table. -/
def shift (g : Grid) (id : ShiftId) : Except Fault Shift :=
  match g.shifts[id]? with
  | some shift => .ok shift
  | none => .error (.noShift id)

/-- The shift of an id, if there is an id, from `Checked.shift`. -/
def shiftOf (g : Grid) : Option ShiftId → Except Fault (Option Shift)
  | none => return none
  | some id => return some (← shift g id)

/-- The shift at an hour of the week, if one is on (`Grid.shiftAt`). -/
def shiftAt (g : Grid) (index : Nat) : Except Fault (Option Shift) := do
  shiftOf g (← shiftIdAt g index)

/-- Trucks of a shift, none when no shift is on (`Grid.trucksOf`). -/
def trucksOf (g : Grid) (id : Option ShiftId) : Except Fault Nat := do
  return ((← shiftOf g id).map Shift.trucks).getD 0

/-- Trucks working at an hour of the week (`Grid.trucksAt`). -/
def trucksAt (g : Grid) (index : Nat) : Except Fault Nat := do
  trucksOf g (← shiftIdAt g index)

theorem add_eq (g : Grid) (shift : Shift) (days : List UInt8) :
    add g shift days = .ok (g.add shift days) := by
  have hpaint (cells : Cells) (hour : Nat) :
      paint g.shifts.size cells hour = .ok (Grid.paint g.shifts.size cells hour) :=
    dif_pos (Nat.mod_lt hour weekHours_pos)
  unfold add
  rw [foldlM_eq_ok hpaint]
  rfl

/-- No hour is without its cell, for `shiftIdAt` counts hours by the week. -/
theorem shiftIdAt_eq (g : Grid) (index : Nat) : shiftIdAt g index = .ok (g.shiftIdAt index) :=
  dif_pos (Nat.mod_lt index weekHours_pos)

variable {g : Grid} {index : Nat} {id : ShiftId}

theorem shift_eq_ok_iff {found : Shift} : shift g id = .ok found ↔ g.shift? id = some found := by
  unfold shift Grid.shift?
  cases g.shifts[id]? with
  | none => simp
  | some shift => simp

theorem exists_shift_eq (h : id < g.shifts.size) :
    ∃ found, g.shift? id = some found ∧ shift g id = .ok found := by
  have hfound : g.shift? id = some g.shifts[id] := Array.getElem?_eq_getElem h
  exact ⟨_, hfound, shift_eq_ok_iff.mpr hfound⟩

variable (hg : g.IsSound)

include hg

theorem shiftOf_eq (index : Nat) : shiftOf g (g.shiftIdAt index) = .ok (g.shiftAt index) := by
  unfold Grid.shiftAt
  cases hid : g.shiftIdAt index with
  | none => rfl
  | some id =>
    obtain ⟨found, hfound, hchecked⟩ := exists_shift_eq (hg index id hid)
    rw [Option.bind_some, hfound]
    unfold shiftOf
    dsimp only
    rw [hchecked]
    rfl

theorem shiftAt_eq (index : Nat) : shiftAt g index = .ok (g.shiftAt index) := by
  unfold shiftAt
  rw [shiftIdAt_eq, ok_bind, shiftOf_eq hg]

theorem trucksOf_eq (index : Nat) :
    trucksOf g (g.shiftIdAt index) = .ok (g.trucksAt index) := by
  unfold trucksOf
  rw [shiftOf_eq hg]
  rfl

theorem trucksAt_eq (index : Nat) : trucksAt g index = .ok (g.trucksAt index) := by
  unfold trucksAt
  rw [shiftIdAt_eq, ok_bind, trucksOf_eq hg]

omit hg

/-- A cell that names a shift of no table is no idle hour. -/
example : trucksAt ⟨#[], Vector.replicate weekHours (some 3), []⟩ 170 = .error (.noShift 3) := by
  decide

end Checked

end TruckDepot
