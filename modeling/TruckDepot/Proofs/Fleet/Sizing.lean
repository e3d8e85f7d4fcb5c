import Mathlib.Data.List.Fold
import Mathlib.Data.List.MinMax
import TruckDepot.Fleet
import TruckDepot.Proofs.Quantity.Rational
import TruckDepot.Proofs.Schedule.Change

/-!
# Sizing

Where the week has two shifts or more, every shift takes over from another one or hands over to it
(`Grid.exists_mem_handovers`), so the packs are sized for its trucks: there is one for every truck
at work (`Grid.trucksAt_le_sizedBatteries`).  In exact numbers sizing never makes the power of the
chargers negative (`Equipment.chargerCapacity_sizedFor`): no charger is added that takes power away.
-/

namespace TruckDepot

/-! ### Batteries -/

namespace Grid

variable {g : Grid}

/-- The cells of the week show two different ids. -/
def ShowsTwoShifts (g : Grid) : Prop :=
  ∃ i j id other, g.shiftIdAt i = some id ∧ g.shiftIdAt j = some other ∧ id ≠ other

/-- In a list with something else than `a`, some neighbour of an `a` is something else. -/
theorem exists_mem_zip_tail {β : Type} {a b : β} {l : List β} (ha : a ∈ l) (hb : b ∈ l)
    (hne : b ≠ a) : ∃ c, c ≠ a ∧ ((a, c) ∈ l.zip l.tail ∨ (c, a) ∈ l.zip l.tail) := by
  induction l generalizing b with
  | nil => cases ha
  | cons x rest ih =>
    cases rest with
    | nil =>
      rw [List.mem_singleton] at ha hb
      exact absurd (hb.trans ha.symm) hne
    | cons y rest =>
      by_cases hrest : a ∈ y :: rest ∧ ∃ c ∈ y :: rest, c ≠ a
      · obtain ⟨hmem, c, hc, hca⟩ := hrest
        obtain ⟨d, hd, hpair⟩ := ih hmem hc hca
        exact ⟨d, hd, hpair.imp (List.mem_cons_of_mem _) (List.mem_cons_of_mem _)⟩
      · -- all of the rest is `a` or none of it is, so the first two differ
        rcases List.mem_cons.mp ha with rfl | hmem
        · refine ⟨y, ?_, Or.inl List.mem_cons_self⟩
          intro hy
          rcases List.mem_cons.mp hb with rfl | hb
          · exact hne rfl
          · exact hrest ⟨hy ▸ List.mem_cons_self, b, hb, hne⟩
        · have hall : ∀ c ∈ y :: rest, c = a := by
            intro c hc
            by_contra hca
            exact hrest ⟨hmem, c, hc, hca⟩
          have hx : x = b := by
            rcases List.mem_cons.mp hb with h | h
            · exact h.symm
            · exact absurd (hall b h) hne
          refine ⟨x, hx ▸ hne, Or.inr ?_⟩
          rw [← hall y List.mem_cons_self]
          exact List.mem_cons_self

theorem mem_ids {index : Nat} {id : ShiftId} (h : g.shiftIdAt index = some id) :
    id ∈ (List.range weekHours).filterMap g.shiftIdAt := by
  rw [List.mem_filterMap]
  refine ⟨index % weekHours, List.mem_range.mpr (Nat.mod_lt _ weekHours_pos), ?_⟩
  rw [shiftIdAt_mod, h]

/-- In a week that `ShowsTwoShifts`, each shift takes part in a handover. -/
theorem exists_mem_handovers (hg : g.ShowsTwoShifts) {index : Nat} {id : ShiftId}
    (h : g.shiftIdAt index = some id) : ∃ pair ∈ g.handovers, pair.1 = id ∨ pair.2 = id := by
  obtain ⟨i, j, a, b, ha, hb, hne⟩ := hg
  -- one of the two is not the given one
  have hother : ∃ other k, g.shiftIdAt k = some other ∧ other ≠ id := by
    by_cases haid : a = id
    · exact ⟨b, j, hb, fun hbid => hne (haid.trans hbid.symm)⟩
    · exact ⟨a, i, ha, haid⟩
  obtain ⟨other, k, hk, hother⟩ := hother
  obtain ⟨c, hc, hpair⟩ := exists_mem_zip_tail (mem_ids h) (mem_ids hk) hother
  unfold handovers
  rcases hpair with hpair | hpair
  · exact ⟨(id, c), List.mem_filter.mpr ⟨hpair, by simpa using hc.symm⟩, Or.inl rfl⟩
  · exact ⟨(c, id), List.mem_filter.mpr ⟨hpair, by simpa using hc⟩, Or.inr rfl⟩

theorem trucksOf_le_largestCount (g : Grid) (id : Option ShiftId) :
    g.trucksOf id ≤ largestCount := by
  unfold trucksOf
  cases id.bind g.shift? with
  | none => exact Nat.zero_le _
  | some shift => exact shift.trucks_le

variable {α : Type} [Quantity α] (truckKw batteryCapacity : α)

theorem trucksOf_add_le_handoverBatteries (g : Grid) (earlier later : ShiftId) :
    g.trucksOf (some earlier) + g.trucksOf (some later) ≤
      g.handoverBatteries truckKw batteryCapacity (earlier, later) := by
  unfold handoverBatteries
  exact le_max_left _ _

/-- `minBatteries` is enough for every handover, up to `largestCount`. -/
theorem min_handoverBatteries_le_minBatteries {pair : ShiftId × ShiftId}
    (hpair : pair ∈ g.handovers) :
    min (g.handoverBatteries truckKw batteryCapacity pair) largestCount ≤
      g.minBatteries truckKw batteryCapacity := by
  have hneed := List.mem_map_of_mem (f := g.handoverBatteries truckKw batteryCapacity) hpair
  unfold minBatteries
  dsimp only
  rw [List.foldl_eq_foldr]
  exact min_le_min_right _ (List.le_max_of_le' 0 hneed le_rfl)

/-- `minBatteries` covers the trucks of both shifts of every handover. -/
theorem trucksOf_le_minBatteries {pair : ShiftId × ShiftId} (hpair : pair ∈ g.handovers)
    {id : ShiftId} (hid : pair.1 = id ∨ pair.2 = id) :
    g.trucksOf (some id) ≤ g.minBatteries truckKw batteryCapacity := by
  obtain ⟨earlier, later⟩ := pair
  have hboth := g.trucksOf_add_le_handoverBatteries truckKw batteryCapacity earlier later
  have htrucks : g.trucksOf (some id) ≤
      g.handoverBatteries truckKw batteryCapacity (earlier, later) := by
    rcases hid with rfl | rfl
    · exact (Nat.le_add_right _ _).trans hboth
    · exact (Nat.le_add_left _ _).trans hboth
  exact (le_min htrucks (g.trucksOf_le_largestCount _)).trans
    (min_handoverBatteries_le_minBatteries truckKw batteryCapacity hpair)

/-- Once sized, there is a pack for every truck at work, if the week `ShowsTwoShifts` or no hour
needs more than there are. -/
theorem trucksAt_le_sizedBatteries {batteries : Nat}
    (hg : g.ShowsTwoShifts ∨ ∀ i, g.trucksAt i ≤ batteries) (index : Nat) :
    g.trucksAt index ≤ g.sizedBatteries truckKw batteryCapacity batteries := by
  unfold sizedBatteries
  rcases hg with htwo | hfew
  · unfold trucksAt
    cases hid : g.shiftIdAt index with
    | none => exact Nat.zero_le _
    | some id =>
      obtain ⟨pair, hpair, hmem⟩ := exists_mem_handovers htwo hid
      exact le_max_of_le_right (trucksOf_le_minBatteries truckKw batteryCapacity hpair hmem)
  · exact le_max_of_le_left (hfew index)

end Grid

/-! ### Chargers -/

variable (g : Grid) (truckKw : Rat)

/-- Chargers that do not charge, `maxChargeKw ≤ 0`, are not added. -/
theorem Grid.sizedChargers_le {maxChargeKw : Rat} (h : maxChargeKw ≤ 0) (chargers : Nat) :
    g.sizedChargers truckKw maxChargeKw chargers ≤ chargers := by
  unfold sizedChargers
  split_ifs with hshort
  · have hsupply : dailySupply maxChargeKw ≤ 0 :=
      mul_nonpos_of_nonpos_of_nonneg h (Nat.cast_nonneg _)
    -- divided by a supply of nothing or less, what is missing comes to no charger
    have hmissing : g.missingChargers truckKw maxChargeKw chargers = 0 := by
      show min largestCount
        (((g.maxDailyEnergy truckKw - supply maxChargeKw chargers) /
          dailySupply maxChargeKw).ceil.toNat) = 0
      have hquotient : (g.maxDailyEnergy truckKw - supply maxChargeKw chargers) /
          dailySupply maxChargeKw ≤ 0 :=
        div_nonpos_of_nonneg_of_nonpos (sub_nonneg.mpr hshort.le) hsupply
      have hceil : ((g.maxDailyEnergy truckKw - supply maxChargeKw chargers) /
          dailySupply maxChargeKw).ceil ≤ 0 := Rat.ceil_le_iff.mpr hquotient
      omega
    rw [hmissing]
    exact min_le_left _ _
  · exact le_rfl

/-- Sizing keeps `chargerCapacity` from falling below zero. -/
theorem Equipment.chargerCapacity_sizedFor {e : Equipment Rat} (h : 0 ≤ e.chargerCapacity) :
    0 ≤ (e.sizedFor g).chargerCapacity := by
  show 0 ≤ ((g.sizedChargers e.truckKw e.maxChargeKw e.chargers : Nat) : Rat) * e.maxChargeKw
  rcases le_total 0 e.maxChargeKw with hcharge | hcharge
  · exact mul_nonneg (Nat.cast_nonneg _) hcharge
  · have hle := g.sizedChargers_le e.truckKw hcharge e.chargers
    have hcast : ((g.sizedChargers e.truckKw e.maxChargeKw e.chargers : Nat) : Rat) ≤ e.chargers :=
      Nat.cast_le.mpr hle
    exact h.trans (mul_le_mul_of_nonpos_right hcast hcharge)

end TruckDepot
