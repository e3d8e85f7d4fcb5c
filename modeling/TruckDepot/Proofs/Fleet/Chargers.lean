import Mathlib.Data.Rat.Floor
import Mathlib.Tactic.Linarith
import Mathlib.Tactic.Ring
import TruckDepot.Fleet.Exact
import TruckDepot.Proofs.Fleet.BusiestDay
import TruckDepot.Schedule.Declaration

/-!
# Chargers for the busiest day

Below the largest count, a sized count of chargers stays below the same counts as the least one that
is no less than the configured one and supplies the busiest day (`Grid.sizedChargers_le_iff`).  All
else follows from that: it is that least count, or the largest one where no count is enough, and
sizing it again changes nothing (`Grid.sizedChargers_eq_ceil`).

The busiest day is searched for among the days that begin before the last day of the week.
`Grid.days_supplied` says which days of the week's round are supplied and when all of them are; a
week that works in its last hour alone has days that are not (`Grid.days_not_supplied_lastHour`).
-/

namespace TruckDepot.Grid

variable (g : Grid) (truckKw : Rat) {maxChargeKw : Rat}

/-! ### Supply -/

theorem supply_eq (maxChargeKw : Rat) (chargers : Nat) :
    supply maxChargeKw chargers = chargers * dailySupply maxChargeKw :=
  rfl

theorem dailySupply_eq (maxChargeKw : Rat) : dailySupply maxChargeKw = hoursPerDay * maxChargeKw :=
  mul_comm _ _

theorem maxDailyEnergy_eq : g.maxDailyEnergy truckKw = g.busiestDay * truckKw :=
  rfl

theorem sizedChargers_le_largestCount {chargers : Nat} (h : chargers ≤ largestCount) :
    g.sizedChargers truckKw maxChargeKw chargers ≤ largestCount := by
  unfold sizedChargers
  split_ifs
  · exact min_le_right _ _
  · exact h

variable (hcharge : 0 < maxChargeKw)

include hcharge

theorem dailySupply_pos : 0 < dailySupply maxChargeKw :=
  mul_pos hcharge (by decide +kernel)

theorem supply_mono {n m : Nat} (h : n ≤ m) : supply maxChargeKw n ≤ supply maxChargeKw m :=
  mul_le_mul_of_nonneg_right (Nat.cast_le.mpr h) (dailySupply_pos hcharge).le

theorem le_supply_iff {energy : Rat} {count : Nat} :
    energy ≤ supply maxChargeKw count ↔ ⌈energy / (hoursPerDay * maxChargeKw)⌉₊ ≤ count := by
  rw [supply_eq, Nat.ceil_le, ← dailySupply_eq, div_le_iff₀ (dailySupply_pos hcharge)]

/-! ### Sized counts -/

/-- `missingChargers` are the fewest that supply what is missing. -/
theorem add_missingChargers_le_iff {chargers count : Nat} (hcount : count < largestCount) :
    chargers + g.missingChargers truckKw maxChargeKw chargers ≤ count ↔
      chargers ≤ count ∧ g.maxDailyEnergy truckKw ≤ supply maxChargeKw count := by
  have hmissing (hle : chargers ≤ count) :
      g.missingChargers truckKw maxChargeKw chargers ≤ count - chargers ↔
        g.maxDailyEnergy truckKw ≤ supply maxChargeKw count := by
    unfold missingChargers
    rw [Quantity.ceilUpTo_le_iff (by omega), div_le_iff₀ (dailySupply_pos hcharge),
      Nat.cast_sub hle, sub_mul, ← supply_eq, ← supply_eq, sub_le_sub_iff_right]
  constructor
  · intro h
    have hle : chargers ≤ count := by omega
    exact ⟨hle, (hmissing hle).mp (by omega)⟩
  · rintro ⟨hle, henergy⟩
    have hadded := (hmissing hle).mpr henergy
    omega

/-- Below `largestCount`, `sizedChargers` is at most `count` exactly if `count` is no less than
`chargers` and supplies the busiest day. -/
theorem sizedChargers_le_iff {chargers count : Nat} (hcount : count < largestCount) :
    g.sizedChargers truckKw maxChargeKw chargers ≤ count ↔
      chargers ≤ count ∧ g.maxDailyEnergy truckKw ≤ supply maxChargeKw count := by
  unfold sizedChargers
  split_ifs with hshort
  · rw [min_le_iff, or_iff_left (by omega)]
    exact g.add_missingChargers_le_iff truckKw hcharge hcount
  · constructor
    · intro h
      exact ⟨h, (not_lt.mp hshort).trans (supply_mono hcharge h)⟩
    · exact And.left

variable {chargers : Nat} (hchargers : chargers ≤ largestCount)

include hchargers

/-- Where any count supplies `maxDailyEnergy`, the sized one does. -/
theorem maxDailyEnergy_le_supply_sizedChargers
    (henough : ∃ count ≤ largestCount, g.maxDailyEnergy truckKw ≤ supply maxChargeKw count) :
    chargers ≤ g.sizedChargers truckKw maxChargeKw chargers ∧
      g.maxDailyEnergy truckKw ≤
        supply maxChargeKw (g.sizedChargers truckKw maxChargeKw chargers) := by
  have hle : g.sizedChargers truckKw maxChargeKw chargers ≤ largestCount :=
    g.sizedChargers_le_largestCount truckKw hchargers
  rcases Nat.lt_or_eq_of_le hle with hlt | heq
  · exact (g.sizedChargers_le_iff truckKw hcharge hlt).mp le_rfl
  · obtain ⟨count, hcount, henergy⟩ := henough
    rw [heq]
    exact ⟨hchargers, henergy.trans (supply_mono hcharge hcount)⟩

theorem isLeast_sizedChargers
    (henough : ∃ count ≤ largestCount, g.maxDailyEnergy truckKw ≤ supply maxChargeKw count) :
    IsLeast {count | chargers ≤ count ∧ g.maxDailyEnergy truckKw ≤ supply maxChargeKw count}
      (g.sizedChargers truckKw maxChargeKw chargers) := by
  refine ⟨g.maxDailyEnergy_le_supply_sizedChargers truckKw hcharge hchargers henough, ?_⟩
  intro count hcount
  rcases Nat.lt_or_ge count largestCount with hlt | hge
  · exact (g.sizedChargers_le_iff truckKw hcharge hlt).mpr hcount
  · exact (g.sizedChargers_le_largestCount truckKw hchargers).trans hge

theorem sizedChargers_eq_min :
    g.sizedChargers truckKw maxChargeKw chargers =
      min largestCount
        (max chargers ⌈g.busiestDay * truckKw / (hoursPerDay * maxChargeKw)⌉₊) := by
  refine eq_of_forall_ge_iff fun count => ?_
  rcases Nat.lt_or_ge count largestCount with hlt | hge
  · rw [g.sizedChargers_le_iff truckKw hcharge hlt, min_le_iff, or_iff_right (by omega),
      max_le_iff, ← le_supply_iff hcharge, maxDailyEnergy_eq]
  · exact iff_of_true ((g.sizedChargers_le_largestCount truckKw hchargers).trans hge)
      ((min_le_left _ _).trans hge)

theorem sizedChargers_sizedChargers :
    g.sizedChargers truckKw maxChargeKw (g.sizedChargers truckKw maxChargeKw chargers) =
      g.sizedChargers truckKw maxChargeKw chargers := by
  have hle : g.sizedChargers truckKw maxChargeKw chargers ≤ largestCount :=
    g.sizedChargers_le_largestCount truckKw hchargers
  rw [g.sizedChargers_eq_min truckKw hcharge hle, g.sizedChargers_eq_min truckKw hcharge hchargers]
  omega

omit hcharge hchargers

/-- **Exactly the chargers that are needed are added.**  `busiestDay` is the greatest of its
windows, with all sums below `twoTo 64`; `sizedChargers` is the larger of `chargers` and the work
over what a charger supplies, rounded up, the `IsLeast` count that is enough if any is. -/
theorem sizedChargers_eq_ceil (g : Grid) :
    (∀ hours ≤ hoursPerDay, g.sumOfFirst hours < twoTo 64) ∧
      (∀ start < weekHours - hoursPerDay - 1,
        g.trucksAt start ≤ (g.windowAt start).sum ∧
          (g.windowAt (start + 1)).sum =
            (g.windowAt start).sum - g.trucksAt start + g.trucksAt (start + hoursPerDay) ∧
          (g.windowAt (start + 1)).sum < twoTo 64) ∧
      g.busiestDay = (g.windowAt (weekHours - hoursPerDay - 1)).largest ∧
      IsGreatest {work | ∃ start < weekHours - hoursPerDay,
        g.truckHoursFrom start hoursPerDay = work} g.busiestDay ∧
      ∀ (truckKw maxChargeKw : Rat), 0 < maxChargeKw → ∀ chargers ≤ largestCount,
        let sized := g.sizedChargers truckKw maxChargeKw
        sized chargers = min largestCount
            (max chargers ⌈g.busiestDay * truckKw / (hoursPerDay * maxChargeKw)⌉₊) ∧
          ((∃ count ≤ largestCount, g.maxDailyEnergy truckKw ≤ supply maxChargeKw count) →
            IsLeast {count | chargers ≤ count ∧
              g.maxDailyEnergy truckKw ≤ supply maxChargeKw count} (sized chargers)) ∧
          sized (sized chargers) = sized chargers := by
  refine ⟨?_, ?_, g.busiestDay_eq, g.isGreatest_busiestDay, ?_⟩
  -- the first window, hour by hour
  · intro hours hhours
    rw [g.sumOfFirst_eq (hhours.trans (by decide))]
    exact g.truckHoursFrom_lt_twoTo 0 hhours
  -- every move of the window
  · intro start hstart
    have hsum := g.sum_windowAt (show start + hoursPerDay ≤ weekHours by omega)
    have hnext := g.sum_windowAt (show start + 1 + hoursPerDay ≤ weekHours by omega)
    have hmoved := g.sum_windowAt_succ (show start + hoursPerDay < weekHours by omega)
    refine ⟨?_, hmoved, ?_⟩
    · rw [hsum, ← truckHoursFrom_one]
      exact g.truckHoursFrom_mono start (by decide)
    · rw [hnext]
      exact g.truckHoursFrom_lt_twoTo (start + 1) le_rfl
  · intro truckKw maxChargeKw hcharge chargers hchargers
    exact ⟨g.sizedChargers_eq_min truckKw hcharge hchargers,
      g.isLeast_sizedChargers truckKw hcharge hchargers,
      g.sizedChargers_sizedChargers truckKw hcharge hchargers⟩

/-- A Monday with `largestCount` trucks before noon, and with seven after it. -/
def crowdedMonday : Grid :=
  (ofTokens ["block", "2", "shift", "0", "12", "4294967295", "shift", "12", "12", "7"]).1

theorem sizedChargers_eq_ceil_crowdedMonday :
    (0 : Rat) < 6 ∧ 8 ≤ largestCount ∧
      crowdedMonday.maxDailyEnergy (4 : Rat) ≤ supply 6 1431655768 ∧
      (crowdedMonday.windowAt 24).sum = 51539607624 ∧
      crowdedMonday.trucksAt 24 ≤ (crowdedMonday.windowAt 24).sum ∧
      crowdedMonday.busiestDay = 51539607624 ∧
      IsLeast {count | 8 ≤ count ∧ crowdedMonday.maxDailyEnergy (4 : Rat) ≤ supply 6 count}
        1431655768 ∧
      crowdedMonday.sizedChargers (4 : Rat) 6 1431655768 = 1431655768 := by
  have hcharge : (0 : Rat) < 6 := by norm_num
  have hchargers : 8 ≤ largestCount := by decide
  have hsum : (crowdedMonday.windowAt 24).sum = 51539607624 := by
    rw [crowdedMonday.sum_windowAt (by decide)]
    decide +kernel
  have hbusiest : crowdedMonday.busiestDay = 51539607624 := by decide +kernel
  have henergy : crowdedMonday.maxDailyEnergy (4 : Rat) ≤ supply 6 1431655768 := by
    rw [maxDailyEnergy_eq, hbusiest]
    decide +kernel
  have hsized : crowdedMonday.sizedChargers (4 : Rat) 6 8 = 1431655768 := by
    rw [sizedChargers_eq_min _ _ hcharge hchargers, hbusiest]
    decide +kernel
  obtain ⟨-, hwindow, -, -, hsizes⟩ := crowdedMonday.sizedChargers_eq_ceil
  obtain ⟨-, hleast, hagain⟩ := hsizes 4 6 hcharge 8 hchargers
  rw [hsized] at hleast hagain
  exact ⟨hcharge, hchargers, henergy, hsum, (hwindow 24 (by decide)).1, hbusiest,
    hleast ⟨_, by decide, henergy⟩, hagain⟩

/-! ### All days of the week's round -/

/-- No day that begins on the last day of the week has more work than `busiestDay`. -/
def EndsQuietly (g : Grid) : Prop :=
  ∀ start < weekHours, weekHours - hoursPerDay ≤ start →
    g.truckHoursFrom start hoursPerDay ≤ g.busiestDay

variable {g}

theorem endsQuietly_of_idle_lastDay
    (h : ∀ index < weekHours, weekHours - hoursPerDay ≤ index → g.trucksAt index = 0) :
    g.EndsQuietly := by
  intro start hend hstart
  have hidle : g.truckHoursFrom start (weekHours - start) = 0 :=
    truckHoursFrom_of_idle fun k hk => h (start + k) (by omega) (by omega)
  rw [g.truckHoursFrom_lastDay hstart hend, hidle, Nat.zero_add]
  exact g.truckHoursFrom_beginningOfWeek_le (by omega)

theorem endsQuietly_of_idle_firstDay (hlast : g.trucksAt (weekHours - 1) = 0)
    (h : ∀ index < hoursPerDay, g.trucksAt index = 0) : g.EndsQuietly := by
  intro start hend hstart
  have hle := g.truckHoursFrom_endOfWeek_le hstart hend
  have hidle : g.truckHoursFrom 0 (start + hoursPerDay - weekHours) = 0 := by
    refine truckHoursFrom_of_idle fun k hk => ?_
    rw [Nat.zero_add]
    exact h k (by omega)
  rw [g.truckHoursFrom_lastDay hstart hend, hidle]
  omega

theorem endsQuietly_of_truckHoursFrom_le
    (h : g.truckHoursFrom (weekHours - hoursPerDay) (hoursPerDay + hoursPerDay) ≤ g.busiestDay) :
    g.EndsQuietly := by
  intro start hend hstart
  have hday : hoursPerDay ≤ weekHours := by decide
  have hsplit : hoursPerDay + hoursPerDay =
      (start - (weekHours - hoursPerDay)) + (hoursPerDay + (weekHours - start)) := by omega
  rw [hsplit, truckHoursFrom_add, truckHoursFrom_add, Nat.add_sub_cancel' hstart] at h
  omega

theorem EndsQuietly.truckHoursFrom_le (h : g.EndsQuietly) (start : Nat) :
    g.truckHoursFrom start hoursPerDay ≤ g.busiestDay := by
  have hlt : start % weekHours < weekHours := Nat.mod_lt _ weekHours_pos
  rw [← g.truckHoursFrom_congr (Nat.mod_mod start weekHours)]
  rcases Nat.lt_or_ge (start % weekHours) (weekHours - hoursPerDay) with hsearched | hlast
  · exact g.truckHoursFrom_le_busiestDay hsearched
  · exact h _ hlt hlast

variable (g)

theorem isGreatest_busiestDay_iff :
    IsGreatest (Set.range fun start => g.truckHoursFrom start hoursPerDay) g.busiestDay ↔
      g.EndsQuietly := by
  obtain ⟨⟨best, -, hbest⟩, -⟩ := g.isGreatest_busiestDay
  constructor
  · intro h start _ _
    exact h.2 ⟨start, rfl⟩
  · intro h
    refine ⟨⟨best, hbest⟩, ?_⟩
    rintro work ⟨start, rfl⟩
    exact h.truckHoursFrom_le start

theorem truckHoursFrom_le_two_mul_busiestDay (start : Nat) :
    g.truckHoursFrom start hoursPerDay ≤ 2 * g.busiestDay + g.trucksAt (weekHours - 1) := by
  have hlt : start % weekHours < weekHours := Nat.mod_lt _ weekHours_pos
  rw [← g.truckHoursFrom_congr (Nat.mod_mod start weekHours)]
  rcases Nat.lt_or_ge (start % weekHours) (weekHours - hoursPerDay) with hsearched | hlast
  · have hle := g.truckHoursFrom_le_busiestDay hsearched
    omega
  · have hendOfWeek := g.truckHoursFrom_endOfWeek_le hlast hlt
    have hbeginning := g.truckHoursFrom_beginningOfWeek_le
      (show start % weekHours + hoursPerDay - weekHours ≤ hoursPerDay by omega)
    rw [g.truckHoursFrom_lastDay hlast hlt]
    omega

theorem truckHoursFrom_mul_le_supply {truckKw maxChargeKw : Rat} (hcharge : 0 < maxChargeKw)
    {chargers : Nat} (hchargers : chargers ≤ largestCount)
    (henough : ∃ count ≤ largestCount, g.maxDailyEnergy truckKw ≤ supply maxChargeKw count)
    {start : Nat} (hstart : g.truckHoursFrom start hoursPerDay ≤ g.busiestDay) :
    g.truckHoursFrom start hoursPerDay * truckKw ≤
      supply maxChargeKw (g.sizedChargers truckKw maxChargeKw chargers) := by
  rcases le_total 0 truckKw with htrucks | htrucks
  · calc (g.truckHoursFrom start hoursPerDay : Rat) * truckKw
        ≤ g.busiestDay * truckKw := mul_le_mul_of_nonneg_right (Nat.cast_le.mpr hstart) htrucks
      _ ≤ supply maxChargeKw (g.sizedChargers truckKw maxChargeKw chargers) :=
        (g.maxDailyEnergy_le_supply_sizedChargers truckKw hcharge hchargers henough).2
  · calc (g.truckHoursFrom start hoursPerDay : Rat) * truckKw
        ≤ 0 := mul_nonpos_of_nonneg_of_nonpos (Nat.cast_nonneg _) htrucks
      _ ≤ supply maxChargeKw (g.sizedChargers truckKw maxChargeKw chargers) :=
        mul_nonneg (Nat.cast_nonneg _) (dailySupply_pos hcharge).le

/-- **The days that are supplied.**  Where a count can be enough, `sizedChargers` supplies every day
that begins before the last one, and all if `g.EndsQuietly`, which is when `busiestDay` is the
greatest of all; none has more than `2 * busiestDay` and the last hour's trucks. -/
theorem days_supplied :
    (IsGreatest {work | ∃ start < weekHours - hoursPerDay,
        g.truckHoursFrom start hoursPerDay = work} g.busiestDay) ∧
      (IsGreatest (Set.range fun start => g.truckHoursFrom start hoursPerDay) g.busiestDay ↔
        g.EndsQuietly) ∧
      ((∀ index < weekHours, weekHours - hoursPerDay ≤ index → g.trucksAt index = 0) ∨
          (g.trucksAt (weekHours - 1) = 0 ∧ ∀ index < hoursPerDay, g.trucksAt index = 0) →
        g.EndsQuietly) ∧
      (∀ start, g.truckHoursFrom start hoursPerDay ≤
        2 * g.busiestDay + g.trucksAt (weekHours - 1)) ∧
      ∀ (truckKw maxChargeKw : Rat), 0 < maxChargeKw →
        (∃ count ≤ largestCount, g.maxDailyEnergy truckKw ≤ supply maxChargeKw count) →
        ∀ chargers ≤ largestCount, ∀ start,
          start % weekHours < weekHours - hoursPerDay ∨ g.EndsQuietly →
          g.truckHoursFrom start hoursPerDay * truckKw ≤
            supply maxChargeKw (g.sizedChargers truckKw maxChargeKw chargers) := by
  refine ⟨g.isGreatest_busiestDay, g.isGreatest_busiestDay_iff, ?_,
    g.truckHoursFrom_le_two_mul_busiestDay, ?_⟩
  · rintro (hidle | ⟨hlast, hidle⟩)
    · exact endsQuietly_of_idle_lastDay hidle
    · exact endsQuietly_of_idle_firstDay hlast hidle
  · intro truckKw maxChargeKw hcharge henough chargers hchargers start hstart
    apply g.truckHoursFrom_mul_le_supply hcharge hchargers henough
    rcases hstart with hsearched | hquiet
    · rw [← g.truckHoursFrom_congr (Nat.mod_mod start weekHours)]
      exact g.truckHoursFrom_le_busiestDay hsearched
    · exact hquiet.truckHoursFrom_le start

/-- A Monday's shift of eight trucks, and one of three in the night after Saturday. -/
def lateSaturday : Grid :=
  (ofTokens ["block", "2", "shift", "8", "8", "8", "block", "7", "shift", "20", "8", "3"]).1

theorem days_supplied_lateSaturday :
    lateSaturday.EndsQuietly ∧ (0 : Rat) < 1 ∧ 0 ≤ largestCount ∧
      lateSaturday.maxDailyEnergy (4 : Rat) ≤ supply 1 11 ∧ lateSaturday.busiestDay = 64 ∧
      IsGreatest (Set.range fun start => lateSaturday.truckHoursFrom start hoursPerDay) 64 ∧
      lateSaturday.truckHoursFrom 160 hoursPerDay = 24 ∧
      (lateSaturday.truckHoursFrom 160 hoursPerDay : Rat) * 4 ≤
        supply 1 (lateSaturday.sizedChargers (4 : Rat) 1 0) := by
  have hcharge : (0 : Rat) < 1 := by norm_num
  have hbusiest : lateSaturday.busiestDay = 64 := by decide +kernel
  have hquiet : lateSaturday.EndsQuietly := by
    apply endsQuietly_of_truckHoursFrom_le
    rw [hbusiest]
    decide +kernel
  have henergy : lateSaturday.maxDailyEnergy (4 : Rat) ≤ supply 1 11 := by
    rw [maxDailyEnergy_eq, hbusiest]
    decide +kernel
  obtain ⟨-, hiff, -, -, hsupplied⟩ := lateSaturday.days_supplied
  rw [hbusiest] at hiff
  exact ⟨hquiet, hcharge, Nat.zero_le _, henergy, hbusiest, hiff.mpr hquiet, by decide +kernel,
    hsupplied 4 1 hcharge ⟨11, by decide, henergy⟩ 0 (Nat.zero_le _) 160 (Or.inr hquiet)⟩

/-- A shift of nine hundred trucks in the last hour of the week. -/
def lastHour : Grid :=
  (ofTokens ["block", "7", "shift", "23", "1", "900"]).1

/-- A Monday with `largestCount` trucks. -/
def fullMonday : Grid :=
  (ofTokens ["block", "2", "shift", "0", "24", "4294967295"]).1

/-- The work of `lastHour` is not searched, and eight chargers stay eight, which do not supply it;
for `fullMonday` not even `largestCount` is enough. -/
theorem days_not_supplied_lastHour :
    (lastHour.busiestDay = 0 ∧ lastHour.truckHoursFrom 144 hoursPerDay = 900 ∧
        ¬ IsGreatest (Set.range fun start => lastHour.truckHoursFrom start hoursPerDay)
          lastHour.busiestDay ∧
        lastHour.sizedChargers (4 : Rat) 6 8 = 8 ∧
        supply 6 8 < (lastHour.truckHoursFrom 144 hoursPerDay : Rat) * 4) ∧
      fullMonday.sizedChargers (12 : Rat) 6 8 = largestCount ∧
      supply 6 largestCount < (fullMonday.truckHoursFrom 24 hoursPerDay : Rat) * 12 := by
  have hcharge : (0 : Rat) < 6 := by norm_num
  have hbusiest : lastHour.busiestDay = 0 := by decide +kernel
  have hwork : lastHour.truckHoursFrom 144 hoursPerDay = 900 := by decide +kernel
  have hsized : lastHour.sizedChargers (4 : Rat) 6 8 = 8 := by
    rw [sizedChargers_eq_min _ _ hcharge (by decide), hbusiest]
    decide +kernel
  have hgreatest : ¬ IsGreatest (Set.range fun start => lastHour.truckHoursFrom start hoursPerDay)
      lastHour.busiestDay := by
    intro h
    have hle : lastHour.truckHoursFrom 144 hoursPerDay ≤ lastHour.busiestDay := h.2 ⟨144, rfl⟩
    omega
  have hfull : fullMonday.busiestDay = 24 * largestCount := by decide +kernel
  have hlargest : fullMonday.sizedChargers (12 : Rat) 6 8 = largestCount := by
    rw [sizedChargers_eq_min _ _ hcharge (by decide), hfull]
    decide +kernel
  refine ⟨⟨hbusiest, hwork, hgreatest, hsized, ?_⟩, hlargest, by decide +kernel⟩
  rw [hwork]
  decide +kernel

end TruckDepot.Grid
