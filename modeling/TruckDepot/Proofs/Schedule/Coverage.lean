import TruckDepot.Proofs.Schedule.Change
import TruckDepot.Proofs.Schedule.Grammar

/-!
# Which shift covers an hour

A shift that is declared for some days covers the hours that it lasts from its start on each of
them, past the end of the week too (`CoversHour`).  Adding a shift writes its id over the hours that
it covers and leaves all others alone (`Grid.shiftIdAt_add`), so an hour has the id of the last
declaration that covers it (`Grid.shiftIdAt_addAll_eq_some_iff`) and is idle if none does
(`Grid.shiftIdAt_addAll_eq_none_iff`).  `Grid.shiftIdAt_addAll_ofTokens` says all of it for a grid
that was read from tokens and then added to.
-/

namespace TruckDepot

open Reading

/-! ### Covering an hour -/

/-- On one of its days `declared` begins less than `duration` hours before the hour `index` of the
week.  Day `0` counts as day `1`. -/
def CoversHour (declared : Declaration) (index : Nat) : Prop :=
  ∃ day ∈ declared.2, ∃ k < declared.1.duration,
    (hoursPerDay * (day.toNat - 1) + declared.1.start + k) % weekHours = index % weekHours

instance (declared : Declaration) (index : Nat) : Decidable (CoversHour declared index) :=
  inferInstanceAs (Decidable (∃ day ∈ declared.2, ∃ k < declared.1.duration, _ = _))

/-- `declared[id]` covers the hour `index`, and no declaration after it does. -/
structure IsLastCovering (declared : List Declaration) (index id : Nat) : Prop where
  covers : ∃ d, declared[id]? = some d ∧ CoversHour d index
  last : ∀ later d, id < later → declared[later]? = some d → ¬ CoversHour d index

section Concat

variable {declared : List Declaration} {d : Declaration} {index id : Nat}

theorem isLastCovering_concat_of_covers (h : CoversHour d index) :
    IsLastCovering (declared ++ [d]) index id ↔ id = declared.length := by
  have hlast : (declared ++ [d])[declared.length]? = some d := List.getElem?_concat_length
  constructor
  · rintro ⟨⟨d', hd', _⟩, hnone⟩
    have hlt : id < (declared ++ [d]).length := (List.getElem?_eq_some_iff.mp hd').1
    rw [List.length_append, List.length_singleton] at hlt
    -- a declaration before the last one is covered over by it
    by_contra hne
    exact hnone declared.length d (by omega) hlast h
  · rintro rfl
    refine ⟨⟨d, hlast, h⟩, ?_⟩
    intro later d' hlater hd'
    have hlt : later < (declared ++ [d]).length := (List.getElem?_eq_some_iff.mp hd').1
    rw [List.length_append, List.length_singleton] at hlt
    omega

theorem isLastCovering_concat_of_not_covers (h : ¬ CoversHour d index) :
    IsLastCovering (declared ++ [d]) index id ↔ IsLastCovering declared index id := by
  -- what covers the hour stands before the last declaration
  have hfront : ∀ (position : Nat) d', CoversHour d' index →
      ((declared ++ [d])[position]? = some d' ↔ declared[position]? = some d') := by
    intro position d' hcovers
    rcases Nat.lt_trichotomy position declared.length with hlt | heq | hgt
    · rw [List.getElem?_append_left hlt]
    · rw [heq, List.getElem?_concat_length, List.getElem?_eq_none le_rfl]
      constructor
      · intro hd
        obtain rfl := Option.some.inj hd
        exact absurd hcovers h
      · intro hd
        cases hd
    · rw [List.getElem?_eq_none hgt.le, List.getElem?_eq_none]
      rw [List.length_append, List.length_singleton]
      omega
  constructor
  -- the last one that covers the hour is carried over, and so is that it is the last
  · rintro ⟨⟨d', hd', hcovers⟩, hnone⟩
    refine ⟨⟨d', (hfront id d' hcovers).mp hd', hcovers⟩, ?_⟩
    intro later d'' hlater hd'' hcovers''
    exact hnone later d'' hlater ((hfront later d'' hcovers'').mpr hd'') hcovers''
  · rintro ⟨⟨d', hd', hcovers⟩, hnone⟩
    refine ⟨⟨d', (hfront id d' hcovers).mpr hd', hcovers⟩, ?_⟩
    intro later d'' hlater hd'' hcovers''
    exact hnone later d'' hlater ((hfront later d'' hcovers'').mp hd'') hcovers''

end Concat

namespace Grid

/-! ### Adding a shift -/

theorem mem_hoursOf_iff {shift : Shift} {days : List UInt8} {hour : Nat} :
    hour ∈ hoursOf shift days ↔
      ∃ day ∈ days, ∃ k < shift.duration,
        (day.toNat - 1) * hoursPerDay + shift.start + k = hour := by
  unfold hoursOf
  simp only [List.mem_flatMap, List.mem_map, List.mem_range]

theorem coversHour_iff {shift : Shift} {days : List UInt8} {index : Nat} :
    CoversHour (shift, days) index ↔
      ∃ hour ∈ hoursOf shift days, hour % weekHours = index % weekHours := by
  constructor
  · rintro ⟨day, hday, k, hk, hindex⟩
    rw [Nat.mul_comm] at hindex
    exact ⟨_, mem_hoursOf_iff.mpr ⟨day, hday, k, hk, rfl⟩, hindex⟩
  · rintro ⟨hour, hhour, hindex⟩
    obtain ⟨day, hday, k, hk, rfl⟩ := mem_hoursOf_iff.mp hhour
    refine ⟨day, hday, k, hk, ?_⟩
    rwa [Nat.mul_comm]

theorem get_paint (id : ShiftId) (cells : Cells) (hour : Nat) (i : Fin weekHours) :
    (paint id cells hour).get i = if hour % weekHours = i then some id else cells.get i := by
  unfold paint
  exact Vector.getElem_set _ i.isLt

/-- `paint` writes `id` into the cells of `hours`, by their hour of the week, and into no other. -/
theorem get_foldl_paint (id : ShiftId) (hours : List Nat) (cells : Cells) (i : Fin weekHours) :
    (hours.foldl (paint id) cells).get i =
      if ∃ hour ∈ hours, hour % weekHours = i then some id else cells.get i := by
  induction hours generalizing cells with
  | nil => simp
  | cons hour rest ih =>
    rw [List.foldl_cons, ih, get_paint]
    by_cases hrest : ∃ hour' ∈ rest, hour' % weekHours = i
    · rw [if_pos hrest, if_pos ((List.exists_mem_cons_iff _ _ _).mpr (Or.inr hrest))]
    · rw [if_neg hrest]
      by_cases hhour : hour % weekHours = i
      · rw [if_pos hhour, if_pos ⟨hour, List.mem_cons_self, hhour⟩]
      · rw [if_neg hhour, if_neg]
        intro hsome
        exact ((List.exists_mem_cons_iff _ _ _).mp hsome).elim hhour hrest

variable (g : Grid) (shift : Shift) (days : List UInt8) (index : Nat)

/-- `add` puts the next free id, `g.shifts.size`, into the hours that the new shift covers. -/
theorem shiftIdAt_add : (g.add shift days).shiftIdAt index =
    if CoversHour (shift, days) index then some g.shifts.size else g.shiftIdAt index := by
  have hpaint := get_foldl_paint g.shifts.size (hoursOf shift days) g.cells
    ⟨index % weekHours, Nat.mod_lt _ weekHours_pos⟩
  exact hpaint.trans (if_congr coversHour_iff.symm rfl rfl)

theorem shift?_eq (id : ShiftId) : g.shift? id = g.shifts.toList[id]? :=
  Array.getElem?_toList.symm

theorem shift?_add (id : ShiftId) : (g.add shift days).shift? id =
    if id = g.shifts.size then some shift else g.shift? id :=
  Array.getElem?_push

/-! ### Adding many shifts -/

theorem addAll_concat (declared : List Declaration) (d : Declaration) :
    g.addAll (declared ++ [d]) = (g.addAll declared).add d.1 d.2 := by
  unfold addAll
  rw [List.foldl_append]
  rfl

/-- The `tokens` that a grid keeps make no difference to `addAll`. -/
theorem addAll_withTokens (tokens : List String) (declared : List Declaration) :
    { g with tokens := tokens }.addAll declared = { g.addAll declared with tokens := tokens } := by
  induction declared generalizing g with
  | nil => rfl
  | cons d rest ih => exact ih (g.add d.1 d.2)

theorem size_shifts_addAll (declared : List Declaration) :
    (empty.addAll declared).shifts.size = declared.length := by
  rw [← Array.length_toList, shifts_addAll, List.length_append, List.length_map]
  exact Nat.zero_add _

theorem shift?_addAll (declared : List Declaration) (id : ShiftId) :
    (empty.addAll declared).shift? id = declared[id]?.map Prod.fst := by
  rw [shift?_eq, shifts_addAll, ← List.getElem?_map]
  rfl

@[simp] theorem shiftIdAt_empty : empty.shiftIdAt index = none :=
  Vector.getElem_replicate _

/-- The id at an hour is the position of the last declaration that covers it. -/
theorem shiftIdAt_addAll_eq_some_iff (declared : List Declaration) (id : ShiftId) :
    (empty.addAll declared).shiftIdAt index = some id ↔ IsLastCovering declared index id := by
  induction declared using List.reverseRecOn with
  | nil =>
    constructor
    · intro h
      exact absurd ((shiftIdAt_empty index).symm.trans h) nofun
    · rintro ⟨⟨d, hd, _⟩, _⟩
      cases hd
  | append_singleton declared d ih =>
    rw [addAll_concat, shiftIdAt_add, size_shifts_addAll]
    split_ifs with hcovers
    · rw [isLastCovering_concat_of_covers hcovers, Option.some.injEq, eq_comm]
    · rw [isLastCovering_concat_of_not_covers hcovers, ih]

/-- An hour is idle, `none`, exactly if no declaration covers it. -/
theorem shiftIdAt_addAll_eq_none_iff (declared : List Declaration) :
    (empty.addAll declared).shiftIdAt index = none ↔ ∀ d ∈ declared, ¬ CoversHour d index := by
  induction declared using List.reverseRecOn with
  | nil => exact ⟨fun _ d hd => absurd hd List.not_mem_nil, fun _ => shiftIdAt_empty index⟩
  | append_singleton declared d ih =>
    rw [addAll_concat, shiftIdAt_add, List.forall_mem_append, List.forall_mem_singleton]
    split_ifs with hcovers
    · exact ⟨nofun, fun h => absurd hcovers h.2⟩
    · rw [ih]
      exact ⟨fun h => ⟨h, hcovers⟩, fun h => h.1⟩

/-- A grid from `tokens` with `added` is the empty one with what its `groups` declare and then
`added`. -/
theorem addAll_ofTokens (tokens : List String) (added : List Declaration) :
    (ofTokens tokens).1.addAll added =
      { empty.addAll (accepted (groups (tokens.map Word.ofToken)) ++ added) with
        tokens := tokens } := by
  rw [ofTokens_eq, addAll_withTokens]
  unfold addAll
  rw [List.foldl_append]

/-- **The last declaration that covers an hour is in force.**  `shiftIdAt` is its position in
`declared` (`IsLastCovering`), `none` if none covers the hour; `shift?`, `shiftAt` and `trucksAt`
follow, and `add` gives the next id to its shift and moves no other. -/
theorem shiftIdAt_addAll_ofTokens (tokens : List String) (added : List Declaration) :
    let declared := accepted (groups (tokens.map Word.ofToken)) ++ added
    let g := (ofTokens tokens).1.addAll added
    (∀ index id, g.shiftIdAt index = some id ↔ IsLastCovering declared index id) ∧
      (∀ index, g.shiftIdAt index = none ↔ ∀ d ∈ declared, ¬ CoversHour d index) ∧
      (∀ id, g.shift? id = declared[id]?.map Prod.fst) ∧
      (∀ index id, g.shiftIdAt index = some id → ∃ d, declared[id]? = some d ∧ CoversHour d index ∧
        g.shiftAt index = some d.1 ∧ g.trucksAt index = d.1.trucks) ∧
      (∀ index, g.shiftIdAt index = none → g.shiftAt index = none ∧ g.trucksAt index = 0) ∧
      ∀ shift days id, (g.add shift days).shift? id =
        if id = declared.length then some shift else g.shift? id := by
  intro declared g
  -- all shifts come from one list, whatever they were added by
  have hg : g = { empty.addAll declared with tokens := tokens } := addAll_ofTokens tokens added
  have hshift : ∀ id, g.shift? id = declared[id]?.map Prod.fst := by
    intro id
    rw [hg]
    exact shift?_addAll declared id
  have hsome : ∀ index id, g.shiftIdAt index = some id ↔ IsLastCovering declared index id := by
    intro index id
    rw [hg]
    exact shiftIdAt_addAll_eq_some_iff index declared id
  refine ⟨hsome, ?_, hshift, ?_, ?_, ?_⟩
  · intro index
    rw [hg]
    exact shiftIdAt_addAll_eq_none_iff index declared
  · -- an id is that of a declaration, which `shift?` finds
    intro index id hid
    obtain ⟨d, hd, hcovers⟩ := ((hsome index id).mp hid).covers
    have hlook : g.shift? id = some d.1 := by
      rw [hshift, hd]
      rfl
    refine ⟨d, hd, hcovers, ?_, ?_⟩
    · unfold shiftAt
      rw [hid]
      exact hlook
    · unfold trucksAt trucksOf
      rw [hid, Option.bind_some, hlook]
      rfl
  · intro index hidle
    unfold shiftAt trucksAt
    rw [hidle]
    exact ⟨rfl, rfl⟩
  · -- the next id is the number of declarations so far
    intro shift days id
    have hsize : g.shifts.size = declared.length := by
      rw [hg]
      exact size_shifts_addAll declared
    rw [shift?_add, hsize]

/-- A night that the week begins again in, and a later shift that covers one hour of it. -/
example :
    let tokens := ["block", "7", "shift", "22", "8", "3", "block", "1", "shift", "2", "1", "5"]
    let g := (ofTokens tokens).1
    [165, 166, 167, 0, 1, 2, 3, 5, 6].map g.shiftIdAt =
      [none, some 0, some 0, some 0, some 0, some 1, some 0, some 0, none] := by
  decide +kernel

end Grid

end TruckDepot
