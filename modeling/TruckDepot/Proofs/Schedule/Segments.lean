import Mathlib.Data.List.Forall2
import Mathlib.Data.Nat.Find
import Mathlib.Order.Bounds.Basic
import TruckDepot.Proofs.Schedule.Change
import TruckDepot.Schedule.Declaration

/-!
# The segments of a schedule

The segments ahead of an hour end exactly where the shift changes (`Grid.segments_eq_changes`): the
first one with the first change there is, and then one with every change within the horizon after
it, however often the week comes round.  The shift is the same in all hours of a segment
(`Grid.shiftIdAt_of_covers`), so the trucks that a load tells for the segment work in each of them.

`Grid.segmentsWithin_eq` is the induction over the horizon.  What it carries from hour to hour is
`Grid.lastChange`, from which the hours of the open segment are counted.
-/

namespace TruckDepot

/-- The hour is one of the `duration` hours before `endIndex`, in the cycle of the week. -/
def Segment.Covers (s : Segment) (hour : Nat) : Prop :=
  ∃ k, 0 < k ∧ k ≤ s.duration ∧ (hour + k) % weekHours = s.endIndex

namespace Grid

variable (g : Grid) (start : Nat)

/-! ### Changes ahead of an hour -/

/-- The hour `start + k` has another shift than the hour before it. -/
def ChangesAfter (k : Nat) : Prop :=
  0 < k ∧ g.shiftIdAt (start + k) ≠ g.shiftIdAt (start + (k - 1))

instance : DecidablePred (g.ChangesAfter start) :=
  fun _ => inferInstanceAs (Decidable (_ ∧ _))

/-- The last change within `hours` hours after `start`, and `0` if there is none. -/
def lastChange (hours : Nat) : Nat :=
  Nat.findGreatest (g.ChangesAfter start) hours

/-- The segment that ends at `start + k`, from the last change before. -/
def segmentUpTo (k : Nat) : Segment :=
  ⟨(start + k) % weekHours, k - g.lastChange start (k - 1)⟩

variable {g start}

theorem changesAfter_succ {k : Nat} :
    g.ChangesAfter start (k + 1) ↔ g.shiftIdAt (start + (k + 1)) ≠ g.shiftIdAt (start + k) :=
  ⟨fun h => h.2, fun h => ⟨k.succ_pos, h⟩⟩

theorem lastChange_le (hours : Nat) : g.lastChange start hours ≤ hours :=
  Nat.findGreatest_le hours

theorem lastChange_succ_of_changes {k : Nat} (h : g.ChangesAfter start (k + 1)) :
    g.lastChange start (k + 1) = k + 1 :=
  Nat.findGreatest_eq h

theorem lastChange_succ_of_not {k : Nat} (h : ¬ g.ChangesAfter start (k + 1)) :
    g.lastChange start (k + 1) = g.lastChange start k :=
  Nat.findGreatest_of_not h

/-- With a change `j` before `k`, `lastChange` is the greatest of them. -/
theorem isGreatest_lastChange {j k : Nat} (hj : g.ChangesAfter start j) (hjk : j < k) :
    IsGreatest {i | i < k ∧ g.ChangesAfter start i} (g.lastChange start (k - 1)) := by
  have hle : g.lastChange start (k - 1) ≤ k - 1 := lastChange_le _
  refine ⟨⟨by omega, Nat.findGreatest_spec (by omega : j ≤ k - 1) hj⟩, ?_⟩
  rintro i ⟨hik, hi⟩
  exact Nat.le_findGreatest (by omega) hi

/-- From `lastChange` on, the shift stays the same. -/
theorem shiftIdAt_lastChange {hours i : Nat} (hi : g.lastChange start hours ≤ i)
    (hle : i ≤ hours) :
    g.shiftIdAt (start + i) = g.shiftIdAt (start + g.lastChange start hours) := by
  induction i, hi using Nat.le_induction with
  | base => rfl
  | succ i hi ih =>
    have hnot : ¬ g.ChangesAfter start (i + 1) :=
      Nat.findGreatest_is_greatest (Nat.lt_succ_of_le hi) hle
    rw [changesAfter_succ, not_not] at hnot
    rw [hnot, ih (by omega)]

theorem not_changesAfter_of_uniform (hg : g.Uniform) (k : Nat) : ¬ g.ChangesAfter start k :=
  fun h => h.2 (hg _ _)

/-- Unless `g` is `Uniform`, `hoursToChange` is the first change. -/
theorem isLeast_hoursToChange (hg : ¬ g.Uniform) (start : Nat) :
    IsLeast {k | g.ChangesAfter start k} (g.hoursToChange start) := by
  have hleft := g.isHoursToChange_hoursToChange start
  have hpos := hleft.pos
  constructor
  · refine ⟨hpos, ?_⟩
    rw [hleft.same (g.hoursToChange start - 1) (by omega)]
    exact hleft.of_not_uniform hg
  · rintro k ⟨hk, hchange⟩
    by_contra hlt
    rw [Nat.not_le] at hlt
    exact hchange ((hleft.same k hlt).trans (hleft.same (k - 1) (by omega)).symm)

/-! ### The segments that end within a horizon -/

/-- **The scan** closes a segment, `segmentUpTo`, at every change after `passed` within
`horizon`. -/
theorem segmentsWithin_eq (g : Grid) (start horizon passed : Nat) :
    g.segmentsWithin horizon ((start + passed) % weekHours)
        (passed - g.lastChange start passed) =
      ((List.range' (passed + 1) horizon).filter (g.ChangesAfter start)).map
        (g.segmentUpTo start) := by
  induction horizon generalizing passed with
  | zero => rfl
  | succ horizon ih =>
    have hnext : nextHour ((start + passed) % weekHours) = (start + (passed + 1)) % weekHours := by
      rw [nextHour_eq, Nat.mod_add_mod, Nat.add_assoc]
    have hle : g.lastChange start passed ≤ passed := lastChange_le passed
    unfold segmentsWithin
    dsimp only
    rw [hnext, shiftIdAt_mod, shiftIdAt_mod, List.range'_succ]
    by_cases hchange : g.ChangesAfter start (passed + 1)
    · -- the segment that was open ends here, and a new one begins
      have hclosed := ih (passed + 1)
      rw [lastChange_succ_of_changes hchange, Nat.sub_self] at hclosed
      rw [if_neg (changesAfter_succ.mp hchange), List.filter_cons_of_pos (by simpa using hchange),
        List.map_cons, hclosed]
      congr 1
      unfold segmentUpTo
      rw [Nat.add_sub_cancel, Nat.sub_add_comm hle]
    · -- the open segment takes in the hour
      have hopen := ih (passed + 1)
      rw [lastChange_succ_of_not hchange, Nat.sub_add_comm hle] at hopen
      rw [if_pos (not_not.mp (mt changesAfter_succ.mpr hchange)),
        List.filter_cons_of_neg (by simpa using hchange), hopen]

theorem segments_of_uniform (hg : g.Uniform) (horizon : Nat) :
    g.segments start horizon = [⟨start % weekHours, weekHours⟩] := by
  have hweek : g.hoursToChange start = weekHours :=
    (IsHoursToChange.eq_hoursToChange
      ⟨weekHours_pos, fun _ _ => hg _ _, Or.inr ⟨rfl, hg⟩⟩).symm
  have hnone : g.lastChange start 0 = 0 := rfl
  have hscan := g.segmentsWithin_eq start horizon 0
  rw [List.filter_eq_nil_iff.mpr (by simp [not_changesAfter_of_uniform hg]), hnone] at hscan
  rw [Nat.add_zero, Nat.sub_zero] at hscan
  unfold segments
  dsimp only
  rw [hweek, Nat.add_mod_right, hscan]
  rfl

/-- The first segment is as long as `hoursToChange`, since no change comes before. -/
theorem segmentUpTo_hoursToChange (hg : ¬ g.Uniform) :
    g.segmentUpTo start (g.hoursToChange start) =
      ⟨(start + g.hoursToChange start) % weekHours, g.hoursToChange start⟩ := by
  have hnone : g.lastChange start (g.hoursToChange start - 1) = 0 := by
    apply Nat.findGreatest_eq_zero_iff.mpr
    intro k hk hle hchange
    have hfirst : g.hoursToChange start ≤ k := (isLeast_hoursToChange hg start).2 hchange
    omega
  unfold segmentUpTo
  rw [hnone, Nat.sub_zero]

theorem segments_of_not_uniform (hg : ¬ g.Uniform) (horizon : Nat) :
    g.segments start horizon =
      g.segmentUpTo start (g.hoursToChange start) ::
        ((List.range' (g.hoursToChange start + 1) horizon).filter (g.ChangesAfter start)).map
          (g.segmentUpTo start) := by
  have hat : g.lastChange start (g.hoursToChange start) = g.hoursToChange start :=
    Nat.findGreatest_eq (isLeast_hoursToChange hg start).1
  have hscan := g.segmentsWithin_eq start horizon (g.hoursToChange start)
  rw [hat, Nat.sub_self] at hscan
  rw [segmentUpTo_hoursToChange hg, ← hscan]
  rfl

/-! ### The hours of a segment -/

/-- An hour of `segmentUpTo start k` has the shift of an hour from `lastChange` up to `k`. -/
theorem exists_of_covers_segmentUpTo {k hour : Nat} (h : (g.segmentUpTo start k).Covers hour) :
    ∃ i, g.lastChange start (k - 1) ≤ i ∧ i < k ∧
      g.shiftIdAt hour = g.shiftIdAt (start + i) := by
  obtain ⟨back, hpos, hback, hend⟩ := h
  change back ≤ k - g.lastChange start (k - 1) at hback
  refine ⟨k - back, by omega, by omega, ?_⟩
  apply shiftIdAt_congr
  change (hour + back) % weekHours = (start + k) % weekHours at hend
  unfold weekHours at hend ⊢
  omega

theorem shiftIdAt_of_covers_segmentUpTo {k hour : Nat}
    (h : (g.segmentUpTo start k).Covers hour) :
    g.shiftIdAt hour = g.shiftIdAt (start + g.lastChange start (k - 1)) := by
  obtain ⟨i, hle, hlt, hi⟩ := exists_of_covers_segmentUpTo h
  rw [hi, shiftIdAt_lastChange hle (by omega)]

theorem mem_segments {horizon : Nat} {segment : Segment}
    (h : segment ∈ g.segments start horizon) :
    g.Uniform ∧ segment = ⟨start % weekHours, weekHours⟩ ∨
      ∃ k, g.ChangesAfter start k ∧ segment = g.segmentUpTo start k := by
  by_cases hg : g.Uniform
  · rw [segments_of_uniform hg, List.mem_singleton] at h
    exact Or.inl ⟨hg, h⟩
  · rw [segments_of_not_uniform hg, List.mem_cons, List.mem_map] at h
    rcases h with h | ⟨k, hk, h⟩
    · exact Or.inr ⟨_, (isLeast_hoursToChange hg start).1, h⟩
    · exact Or.inr ⟨k, by simpa using (List.mem_filter.mp hk).2, h.symm⟩

theorem duration_pos_of_mem_segments {horizon : Nat} {segment : Segment}
    (h : segment ∈ g.segments start horizon) : 0 < segment.duration := by
  rcases mem_segments h with ⟨-, rfl⟩ | ⟨k, hk, rfl⟩
  · exact weekHours_pos
  · have hle : g.lastChange start (k - 1) ≤ k - 1 := lastChange_le _
    have hpos := hk.1
    show 0 < k - g.lastChange start (k - 1)
    omega

/-- All hours that a segment covers have the same shift. -/
theorem shiftIdAt_of_covers {horizon : Nat} {segment : Segment}
    (h : segment ∈ g.segments start horizon) {i j : Nat} (hi : segment.Covers i)
    (hj : segment.Covers j) : g.shiftIdAt i = g.shiftIdAt j := by
  rcases mem_segments h with ⟨hg, -⟩ | ⟨k, -, rfl⟩
  · exact hg i j
  · rw [shiftIdAt_of_covers_segmentUpTo hi, shiftIdAt_of_covers_segmentUpTo hj]

/-- The last hour of a segment is `previousHour` of its end. -/
theorem covers_previousHour {horizon : Nat} {segment : Segment}
    (h : segment ∈ g.segments start horizon) :
    segment.Covers (previousHour segment.endIndex) := by
  have hend : segment.endIndex < weekHours := by
    rcases mem_segments h with ⟨-, rfl⟩ | ⟨k, -, rfl⟩
    · exact Nat.mod_lt _ weekHours_pos
    · exact Nat.mod_lt _ weekHours_pos
  refine ⟨1, Nat.one_pos, duration_pos_of_mem_segments h, ?_⟩
  unfold previousHour weekHours at *
  omega

variable {α : Type} [Quantity α]

/-- `trucksDuring` of a load are the `trucksAt` each hour of its segment. -/
theorem trucksDuring_of_covers {horizon : Nat} {segment : Segment}
    (h : segment ∈ g.segments start horizon) (truckKw : α) {hour : Nat}
    (hhour : segment.Covers hour) :
    (g.loadOf truckKw segment).trucksDuring = g.trucksAt hour := by
  show g.trucksOf (g.shiftIdAt (previousHour segment.endIndex)) = g.trucksOf (g.shiftIdAt hour)
  rw [shiftIdAt_of_covers h (covers_previousHour h) hhour]

variable (g start)

/-- **Segments end exactly where the shift changes.**  `segments` is one of `weekHours` if it never
does, else one up to the `first` change and one for every change within `horizon` after it; none is
empty or mixes shifts, and `trucksDuring` tells the trucks of all its hours. -/
theorem segments_eq_changes (horizon : Nat) (truckKw : α) :
    ((∀ k, ¬ g.ChangesAfter start k) ∧
        g.segments start horizon = [⟨start % weekHours, weekHours⟩] ∨
      ∃ first, IsLeast {k | g.ChangesAfter start k} first ∧
        g.segments start horizon = ⟨(start + first) % weekHours, first⟩ ::
          ((List.range' (first + 1) horizon).filter (g.ChangesAfter start)).map
            (fun k => ⟨(start + k) % weekHours, k - g.lastChange start (k - 1)⟩) ∧
        ∀ k, first < k →
          IsGreatest {j | j < k ∧ g.ChangesAfter start j} (g.lastChange start (k - 1))) ∧
      (∀ segment ∈ g.segments start horizon, 0 < segment.duration ∧
        ∀ i j, segment.Covers i → segment.Covers j → g.shiftIdAt i = g.shiftIdAt j) ∧
      List.Forall₂
        (fun segment load => load.endIndex = segment.endIndex ∧ load.duration = segment.duration ∧
          ∀ hour, segment.Covers hour → load.trucksDuring = g.trucksAt hour)
        (g.segments start horizon) (g.loads truckKw (g.segments start horizon)) := by
  refine ⟨?_, ?_, ?_⟩
  · by_cases hg : g.Uniform
    · exact Or.inl ⟨not_changesAfter_of_uniform hg, segments_of_uniform hg horizon⟩
    · have hleast := isLeast_hoursToChange hg start
      refine Or.inr ⟨_, hleast, ?_, fun k hk => isGreatest_lastChange hleast.1 hk⟩
      rw [segments_of_not_uniform hg, segmentUpTo_hoursToChange hg]
      rfl
  · intro segment h
    exact ⟨duration_pos_of_mem_segments h, fun i j hi hj => shiftIdAt_of_covers h hi hj⟩
  · unfold loads
    rw [List.forall₂_map_right_iff, List.forall₂_same]
    exact fun segment h => ⟨rfl, rfl, fun hour hhour => trucksDuring_of_covers h truckKw hhour⟩

-- a shift on Saturday night that runs past the end of the week, seen from the hours before it
example : (configure ["block", "7", "shift", "20", "8", "3"]).grid.segments 160 200 =
    [⟨164, 4⟩, ⟨4, 8⟩, ⟨164, 160⟩, ⟨4, 8⟩] := by
  decide +kernel

end Grid

end TruckDepot
