import TruckDepot.Week

/-!
# The hours of the week as a cycle

`nextHour` and `previousHour` undo one another (`previousHour_nextHour`), and a slot made from an
hour of the week means that hour (`Slot.index_ofIndex`).  Hence the hour before the one that follows
a slot is the hour of the slot itself, for every slot whose bytes came from outside
(`Slot.index_previous_next`).  The other way round the slot comes back by its name of that hour
(`Slot.next_ofIndex_previousHour`), which is the slot itself if it has a day of the week and an hour
of the day.
-/

namespace TruckDepot

/-! ### Stepping by one hour -/

theorem weekHours_pos : 0 < weekHours := by
  decide

theorem nextHour_eq (index : Nat) : nextHour index = (index + 1) % weekHours := by
  unfold nextHour
  rw [Nat.mod_add_mod]

theorem previousHour_nextHour (index : Nat) :
    previousHour (nextHour index) = index % weekHours := by
  unfold previousHour nextHour weekHours
  omega

theorem previousHour_mod {i j : Nat} (h : (i + 1) % weekHours = j % weekHours) :
    previousHour j % weekHours = i % weekHours := by
  unfold previousHour weekHours at *
  omega

/-! ### Slots -/

namespace Slot

@[simp] theorem index_ofIndex (index : Nat) : (ofIndex index).index = index % weekHours := by
  have hday : index % weekHours / hoursPerDay + 1 < 256 := by
    unfold weekHours hoursPerDay
    omega
  have hhour : index % weekHours % hoursPerDay < 256 := by
    unfold hoursPerDay
    omega
  unfold Slot.index ofIndex
  dsimp only
  rw [UInt8.toNat_ofNat_of_lt' hday, UInt8.toNat_ofNat_of_lt' hhour]
  unfold weekHours hoursPerDay
  omega

@[simp] theorem index_next (s : Slot) : s.next.index = nextHour s.index := by
  unfold Slot.next
  rw [index_ofIndex, nextHour_eq]

/-- `previousHour` undoes `s.next`: the index is that of `s`, whatever the bytes of `s` are. -/
theorem index_previous_next (s : Slot) :
    (ofIndex (previousHour s.next.index)).index = s.index := by
  rw [index_ofIndex, index_next, previousHour_nextHour, Nat.mod_mod, Nat.mod_eq_of_lt s.index_lt]

/-- The slot after `previousHour s.index` is `s` by its name in the week, `s.wrapped`. -/
theorem next_ofIndex_previousHour (s : Slot) :
    (ofIndex (previousHour s.index)).next = s.wrapped := by
  have hlt := s.index_lt
  have hsame : (previousHour s.index % weekHours + 1) % weekHours = s.index % weekHours := by
    unfold previousHour weekHours at *
    omega
  unfold Slot.next wrapped
  rw [index_ofIndex]
  unfold ofIndex
  rw [hsame]

/-- The slot has a `day` of the week, from 1 to 7, and an `hour` of the day. -/
structure InWeek (s : Slot) : Prop where
  day_pos : 1 ≤ s.day.toNat
  day_le : s.day.toNat ≤ 7
  hour_lt : s.hour.toNat < hoursPerDay

theorem InWeek.wrapped_eq {s : Slot} (h : s.InWeek) : s.wrapped = s := by
  obtain ⟨day, hour⟩ := s
  obtain ⟨hpos, hle, hhour⟩ := h
  dsimp only at hpos hle hhour
  -- with a day from 1 to 7 the index needs no reduction
  have hindex : (Slot.mk day hour).index = hour.toNat + (day.toNat - 1) * hoursPerDay := by
    unfold Slot.index
    dsimp only
    unfold weekHours hoursPerDay at *
    omega
  have hday : (Slot.mk day hour).index % weekHours / hoursPerDay + 1 = day.toNat := by
    rw [hindex]
    unfold weekHours hoursPerDay at *
    omega
  have hhourOfDay : (Slot.mk day hour).index % weekHours % hoursPerDay = hour.toNat := by
    rw [hindex]
    unfold weekHours hoursPerDay at *
    omega
  unfold wrapped ofIndex
  rw [hday, hhourOfDay, UInt8.ofNat_toNat, UInt8.ofNat_toNat]

@[simp] theorem wrapped_wrapped (s : Slot) : s.wrapped.wrapped = s.wrapped := by
  unfold wrapped
  rw [index_ofIndex, Nat.mod_eq_of_lt s.index_lt]

end Slot

end TruckDepot
