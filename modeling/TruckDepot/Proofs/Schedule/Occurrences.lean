import TruckDepot.Proofs.Schedule.Coverage

/-!
# Occurrences of a shift

A shift that is declared for some days begins on each of them and lasts for its duration, unless
another shift cuts it short, covers a part of it or it runs on into its own next occurrence.  Where
the declared shifts are kept apart (`KeptApart`) none of this happens: no two occurrences share an
hour (`KeptApart.eq_of_same_hour`), so a shift comes on only where it is declared to begin, and
stays on for just as long as it is declared to last (`Grid.IsOf.duration_eq`).
-/

namespace TruckDepot

open Reading

/-- The hours of the week at which a declared shift begins, one for each of its days.  Day `0`
counts as day `1`. -/
def beginnings (declared : Declaration) : List Nat :=
  declared.2.map fun day => (hoursPerDay * (day.toNat - 1) + declared.1.start) % weekHours

/-- The hours from `earlier` on until it is `later`, in the cycle of the week. -/
def hoursUntil (earlier later : Nat) : Nat :=
  (later + (weekHours - earlier % weekHours)) % weekHours

/-- An occurrence is over before another one begins (`hoursUntil`), and not just before one of the
same shift, which would go on as one. -/
def KeptApart (declared : List Declaration) : Prop :=
  ∀ p q : Fin declared.length, ∀ b ∈ beginnings declared[p], ∀ b' ∈ beginnings declared[q],
    p ≠ q ∨ b ≠ b' → declared[p].1.duration ≤ hoursUntil b b' ∧
      (p = q → declared[p].1.duration ≠ hoursUntil b b')

instance (declared : List Declaration) : Decidable (KeptApart declared) :=
  inferInstanceAs (Decidable (∀ p q : Fin declared.length, ∀ b ∈ beginnings declared[p],
    ∀ b' ∈ beginnings declared[q], p ≠ q ∨ b ≠ b' → _))

theorem lt_weekHours_of_mem_beginnings {d : Declaration} {b : Nat} (h : b ∈ beginnings d) :
    b < weekHours := by
  obtain ⟨day, -, rfl⟩ := List.mem_map.mp h
  exact Nat.mod_lt _ weekHours_pos

/-- The hours that `d` covers are the `duration` hours from each of its `beginnings`. -/
theorem coversHour_iff_beginnings {d : Declaration} {index : Nat} :
    CoversHour d index ↔
      ∃ b ∈ beginnings d, ∃ k < d.1.duration, (b + k) % weekHours = index % weekHours := by
  unfold CoversHour beginnings
  constructor
  · rintro ⟨day, hday, k, hk, hindex⟩
    refine ⟨_, List.mem_map_of_mem hday, k, hk, ?_⟩
    rw [Nat.mod_add_mod, hindex]
  · rintro ⟨b, hb, k, hk, hindex⟩
    obtain ⟨day, hday, rfl⟩ := List.mem_map.mp hb
    rw [Nat.mod_add_mod] at hindex
    exact ⟨day, hday, k, hk, hindex⟩

/-! ### Shifts that are kept apart -/

namespace KeptApart

variable {declared : List Declaration} (h : KeptApart declared) {d d' : Declaration} {b b' : Nat}
  (hb : b ∈ beginnings d) (hb' : b' ∈ beginnings d')

include h hb hb'

theorem le_hoursUntil {p q : Nat} (hd : declared[p]? = some d) (hd' : declared[q]? = some d')
    (hother : p ≠ q ∨ b ≠ b') :
    d.1.duration ≤ hoursUntil b b' ∧ (p = q → d.1.duration ≠ hoursUntil b b') := by
  obtain ⟨hp, rfl⟩ := List.getElem?_eq_some_iff.mp hd
  obtain ⟨hq, rfl⟩ := List.getElem?_eq_some_iff.mp hd'
  have hapart := h ⟨p, hp⟩ ⟨q, hq⟩ b hb b' hb'
  simp only [ne_eq, Fin.mk.injEq] at hapart
  exact hapart hother

/-- Occurrences `p` and `q` that share an hour are one, and `k = k'` within it. -/
theorem eq_of_same_hour {p q : Nat} (hd : declared[p]? = some d) (hd' : declared[q]? = some d')
    {k k' : Nat} (hk : k < d.1.duration) (hk' : k' < d'.1.duration)
    (hsame : (b + k) % weekHours = (b' + k') % weekHours) : p = q ∧ k = k' := by
  have hlt := lt_weekHours_of_mem_beginnings hb
  have hlt' := lt_weekHours_of_mem_beginnings hb'
  have hday := d.1.duration_le
  have hday' := d'.1.duration_le
  by_cases hother : p ≠ q ∨ b ≠ b'
  · -- the one that is longer under way has not been over when the other began
    have hapart := (h.le_hoursUntil hb hb' hd hd' hother).1
    have hapart' := (h.le_hoursUntil hb' hb hd' hd (hother.imp Ne.symm Ne.symm)).1
    unfold hoursUntil weekHours at *
    omega
  · rw [not_or, not_not, not_not] at hother
    obtain ⟨hpq, rfl⟩ := hother
    refine ⟨hpq, ?_⟩
    unfold weekHours at hsame hlt
    omega

end KeptApart

namespace Grid

/-- The grid looks up `declared`: `shiftIdAt` gives the last one that covers an hour, `shift?` the
one at a position. -/
structure IsOf (g : Grid) (declared : List Declaration) : Prop where
  shiftIdAt_eq_some_iff : ∀ index id, g.shiftIdAt index = some id ↔
    IsLastCovering declared index id
  shift?_eq : ∀ id, g.shift? id = declared[id]?.map Prod.fst

theorem isOf_addAll_ofTokens (tokens : List String) (added : List Declaration) :
    ((ofTokens tokens).1.addAll added).IsOf
      (accepted (groups (tokens.map Word.ofToken)) ++ added) := by
  rw [addAll_ofTokens]
  exact ⟨fun index id => shiftIdAt_addAll_eq_some_iff index _ id, fun id => shift?_addAll _ id⟩

namespace IsOf

variable {g : Grid} {declared : List Declaration} (hg : g.IsOf declared) (h : KeptApart declared)
  {p : ShiftId} {d : Declaration} (hd : declared[p]? = some d)

include hg

theorem exists_of_shiftIdAt {index : Nat} (hp : g.shiftIdAt index = some p) :
    ∃ d, declared[p]? = some d ∧
      ∃ b ∈ beginnings d, ∃ k < d.1.duration, (b + k) % weekHours = index % weekHours := by
  obtain ⟨d, hd, hcovers⟩ := ((hg.shiftIdAt_eq_some_iff index p).mp hp).covers
  exact ⟨d, hd, coversHour_iff_beginnings.mp hcovers⟩

include h hd

/-- A shift is on in all `duration` hours from each of its `beginnings`. -/
theorem shiftIdAt_of_mem_beginnings {b : Nat} (hb : b ∈ beginnings d) {k : Nat}
    (hk : k < d.1.duration) : g.shiftIdAt (b + k) = some p := by
  rw [hg.shiftIdAt_eq_some_iff]
  refine ⟨⟨d, hd, coversHour_iff_beginnings.mpr ⟨b, hb, k, hk, rfl⟩⟩, ?_⟩
  intro later d' hlater hd' hcovers
  obtain ⟨b', hb', k', hk', hsame⟩ := coversHour_iff_beginnings.mp hcovers
  have hone := h.eq_of_same_hour hb hb' hd hd' hk hk' hsame.symm
  omega

/-- From each of its `beginnings` a shift is on for its `duration`, and no longer. -/
theorem isHoursToChange_of_mem_beginnings {b : Nat} (hb : b ∈ beginnings d) :
    g.IsHoursToChange b d.1.duration := by
  have hon {k : Nat} (hk : k < d.1.duration) : g.shiftIdAt (b + k) = some p :=
    hg.shiftIdAt_of_mem_beginnings h hd hb hk
  have hpos := d.1.duration_pos
  have hfirst : g.shiftIdAt b = some p := hon hpos
  refine ⟨hpos, ?_, Or.inl ?_⟩
  · intro k hk
    rw [hon hk, hfirst]
  · rw [hfirst]
    -- were it on in the hour after them, an occurrence of its own would cover that hour
    intro hafter
    obtain ⟨d', hd', b', hb', k', hk', hsame⟩ := hg.exists_of_shiftIdAt hafter
    obtain rfl := Option.some.inj (hd.symm.trans hd')
    have hlt := lt_weekHours_of_mem_beginnings hb
    have hlt' := lt_weekHours_of_mem_beginnings hb'
    have hday := d.1.duration_le
    -- one beginning comes back after a week only, and two are kept apart both ways round
    by_cases hsameBeginning : b = b'
    · subst hsameBeginning
      unfold weekHours at *
      omega
    · have hapart := h.le_hoursUntil hb hb' hd hd (Or.inr hsameBeginning)
      have hapart' := h.le_hoursUntil hb' hb hd hd (Or.inr (Ne.symm hsameBeginning))
      unfold hoursUntil weekHours at *
      omega

omit hd

/-- Where a shift comes on, one of its `beginnings` is. -/
theorem exists_beginning_of_change {index : Nat}
    (hchange : g.shiftIdAt (previousHour index) ≠ g.shiftIdAt index)
    (hp : g.shiftIdAt index = some p) :
    ∃ d, declared[p]? = some d ∧ ∃ b ∈ beginnings d, b % weekHours = index % weekHours := by
  obtain ⟨d, hd, b, hb, k, hk, hindex⟩ := hg.exists_of_shiftIdAt hp
  refine ⟨d, hd, b, hb, ?_⟩
  cases k with
  | zero => exact hindex
  | succ k =>
    -- the shift was on in the hour before, so it did not come on
    have hbefore : g.shiftIdAt (b + k) = some p :=
      hg.shiftIdAt_of_mem_beginnings h hd hb (by omega)
    rw [← Nat.add_assoc] at hindex
    rw [← g.shiftIdAt_congr (previousHour_mod hindex)] at hbefore
    exact absurd (hbefore.trans hp.symm) hchange

theorem duration_eq {index hours : Nat} {shift : Shift}
    (hchange : g.shiftIdAt (previousHour index) ≠ g.shiftIdAt index)
    (hshift : g.shiftAt index = some shift) (hhours : g.IsHoursToChange index hours) :
    shift.duration = hours := by
  obtain ⟨p, hp, hlook⟩ := Option.bind_eq_some_iff.mp hshift
  obtain ⟨d, hd, b, hb, hindex⟩ := hg.exists_beginning_of_change h hchange hp
  rw [hg.shift?_eq, hd] at hlook
  obtain rfl := Option.some.inj hlook
  have hduration := hg.isHoursToChange_of_mem_beginnings h hd hb
  rw [hhours.eq_hoursToChange, hduration.eq_hoursToChange, g.hoursToChange_congr hindex]

end IsOf

end Grid

end TruckDepot
