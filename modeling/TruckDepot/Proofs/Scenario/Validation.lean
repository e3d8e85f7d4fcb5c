import TruckDepot.Proofs.Quantity.Binary32
import TruckDepot.Scenario.Preset
import TruckDepot.Scenario.Validation

/-!
# The limits of a scenario

`Scenario.Keeps` says what it means to keep each limit.  Validation lists limits in their fixed
order, each at most once, and a limit is listed exactly if the scenario is known to be outside of it
(`Scenario.mem_violations_iff`).  For floats that is not the same as not to keep it: where only a
lower limit is checked, what is not a number is let pass (`Scenario.passes_iff`).

`Scenario.keeps_iff_violations_eq_nil` says what an empty list is worth.
`Scenario.violations_unmetered` is a scenario with an empty list that does not keep its limits.
-/

namespace TruckDepot

open Quantity

namespace Scenario

variable {α : Type} [Quantity α]

/-! ### Limits -/

/-- Every limit, in the order of the settings. -/
def limits (s : Scenario α) : List Violation :=
  [.days, .startDay, .startHour, .truckKw, .truckStd, .batteryCapacity, .maxChargeKw,
    .chargeEfficiency, .planningHorizon, .initialSoc, .price,
    .priceCount s.priceList.hourlyPrices.length, .hourlyPrices, .regulationRate]

/-- The scenario is inside of a limit, when `IsPositive` and `IsNonneg` say what passes for positive
and for not negative. -/
def KeepsBy (IsPositive IsNonneg : α → Prop) (s : Scenario α) : Violation → Prop
  | .days => 0 < s.days
  | .startDay => 1 ≤ s.startDay ∧ s.startDay ≤ 7
  | .startHour => s.startHour ≤ 23
  | .truckKw => IsPositive s.equipment.truckKw
  | .truckStd => IsNonneg s.equipment.truckStd
  | .batteryCapacity => IsPositive s.equipment.batteryCapacity
  | .maxChargeKw => IsPositive s.equipment.maxChargeKw
  | .chargeEfficiency =>
    0 < s.equipment.chargeEfficiency ∧ s.equipment.chargeEfficiency ≤ ofNat 1
  | .planningHorizon => 0 < s.equipment.planningHorizon
  | .initialSoc => 0 ≤ s.initialSoc ∧ s.initialSoc ≤ ofNat 1
  | .price => IsNonneg s.priceList.price
  | .priceCount _ =>
    s.priceList.kind = .timeOfUse → s.priceList.hourlyPrices.length = hoursPerDay
  | .hourlyPrices => ∀ price ∈ s.priceList.hourlyPrices, IsNonneg price
  | .regulationRate => s.priceList.kind = .regulation → IsNonneg s.priceList.regulationRate

/-- The scenario keeps a limit: positive is `0 < ·`, not negative `0 ≤ ·`. -/
def Keeps (s : Scenario α) : Violation → Prop :=
  s.KeepsBy (0 < ·) (0 ≤ ·)

/-- The scenario is not known to be outside of a limit: a failed `≤` or `<` is enough. -/
def Passes (s : Scenario α) : Violation → Prop :=
  s.KeepsBy (¬ · ≤ 0) (¬ · < 0)

variable (s : Scenario α)

/-! ### What is listed -/

theorem map_snd_checks : s.checks.map Prod.snd = s.limits :=
  rfl

theorem violations_eq : s.violations = (s.checks.filter Prod.fst).map Prod.snd := by
  unfold violations
  induction s.checks with
  | nil => rfl
  | cons check checks ih =>
    obtain ⟨violated, violation⟩ := check
    cases violated with
    | false => exact ih
    | true => exact congrArg (violation :: ·) ih

/-- `violations` are listed in the order of `limits`. -/
theorem violations_sublist : s.violations.Sublist s.limits := by
  rw [violations_eq, ← map_snd_checks]
  exact List.filter_sublist.map Prod.snd

/-- A check fails exactly if the scenario does not pass (`Passes`) its limit. -/
theorem checks_iff (hzero : ¬ (0 : α) < 0) :
    ∀ check ∈ s.checks, check.1 = true ↔ ¬ s.Passes check.2 := by
  have hlower (p : Prop) [Decidable p] : decide p = true ↔ ¬ ¬ p :=
    decide_eq_true_iff.trans not_not.symm
  have hboth (p q : Prop) [Decidable p] [Decidable q] :
      (!(decide p && decide q)) = true ↔ ¬ (p ∧ q) := by
    rw [← Bool.decide_and, Bool.not_eq_true', decide_eq_false_iff_not]
  unfold checks Passes
  simp only [List.forall_mem_cons, KeepsBy]
  -- one goal for each check, in the order of `limits`
  refine ⟨?days, ?startDay, ?startHour, hlower _, hlower _, hlower _, hlower _, hboth _ _,
    ?planningHorizon, hboth _ _, hlower _, ?priceCount, ?hourlyPrices, ?regulationRate,
    fun _ h => absurd h List.not_mem_nil⟩
  case days => rw [decide_eq_true_iff, Nat.not_lt, Nat.le_zero]
  case startDay =>
    rw [Bool.or_eq_true, decide_eq_true_iff, decide_eq_true_iff, not_and_or, UInt8.not_le,
      UInt8.not_le]
  case startHour => rw [decide_eq_true_iff, UInt8.not_le]
  case planningHorizon => rw [decide_eq_true_iff, Nat.not_lt, Nat.le_zero]
  case priceCount =>
    rw [Bool.and_eq_true, decide_eq_true_iff, bne_iff_ne, Classical.not_imp]
  case hourlyPrices =>
    simp only [List.any_eq_true, decide_eq_true_iff, not_forall, not_not, exists_prop]
  case regulationRate =>
    rw [decide_eq_true_iff, Classical.not_imp, not_not]
    unfold PriceList.paidRegulation
    split_ifs with hkind
    · exact (and_iff_right hkind).symm
    · exact iff_of_false hzero fun h => hkind h.1

theorem mem_violations_iff (hzero : ¬ (0 : α) < 0) (v : Violation) :
    v ∈ s.violations ↔ v ∈ s.limits ∧ ¬ s.Passes v := by
  rw [violations_eq, ← map_snd_checks, List.mem_map, List.mem_map]
  constructor
  · rintro ⟨check, hcheck, rfl⟩
    obtain ⟨hmem, hfails⟩ := List.mem_filter.mp hcheck
    exact ⟨⟨check, hmem, rfl⟩, (s.checks_iff hzero check hmem).mp hfails⟩
  · rintro ⟨⟨check, hmem, rfl⟩, hfails⟩
    exact ⟨check, List.mem_filter.mpr ⟨hmem, (s.checks_iff hzero check hmem).mpr hfails⟩, rfl⟩

/-! ### Quantities with a lower limit alone -/

/-- The quantities of which `checks` tests only a lower limit. -/
def boundedBelow (s : Scenario α) : List α :=
  [s.equipment.truckKw, s.equipment.truckStd, s.equipment.batteryCapacity,
      s.equipment.maxChargeKw, s.priceList.price] ++
    s.priceList.hourlyPrices ++
    if s.priceList.kind = .regulation then [s.priceList.regulationRate] else []

variable {s} {P N P' N' : α → Prop}

/-- Limits are kept by other readings of positive and not negative if `boundedBelow` satisfies
these. -/
theorem KeepsBy.imp (h : ∀ q ∈ s.boundedBelow, (P q → P' q) ∧ (N q → N' q)) {v : Violation}
    (hkeeps : s.KeepsBy P N v) : s.KeepsBy P' N' v := by
  unfold boundedBelow at h
  simp only [List.forall_mem_append, List.forall_mem_cons] at h
  obtain ⟨⟨⟨htruckKw, htruckStd, hcapacity, hchargeKw, hprice, -⟩, hhourly⟩, hrate⟩ := h
  cases v with
  -- the seven limits that such quantities have, and then the others
  | truckKw => exact htruckKw.1 hkeeps
  | truckStd => exact htruckStd.2 hkeeps
  | batteryCapacity => exact hcapacity.1 hkeeps
  | maxChargeKw => exact hchargeKw.1 hkeeps
  | price => exact hprice.2 hkeeps
  | hourlyPrices => exact fun price hmem => (hhourly price hmem).2 (hkeeps price hmem)
  | regulationRate =>
    intro hkind
    rw [if_pos hkind] at hrate
    exact (hrate _ List.mem_cons_self).2 (hkeeps hkind)
  | days => exact hkeeps
  | startDay => exact hkeeps
  | startHour => exact hkeeps
  | chargeEfficiency => exact hkeeps
  | planningHorizon => exact hkeeps
  | initialSoc => exact hkeeps
  | priceCount found => exact hkeeps

/-- Where all `limits` are kept, each of `boundedBelow` is positive or not negative. -/
theorem forall_mem_boundedBelow (h : ∀ v ∈ s.limits, s.KeepsBy P N v) :
    ∀ q ∈ s.boundedBelow, P q ∨ N q := by
  unfold limits at h
  simp only [List.forall_mem_cons, KeepsBy] at h
  obtain ⟨-, -, -, htruckKw, htruckStd, hcapacity, hchargeKw, -, -, -, hprice, -, hhourly, hrate,
    -⟩ := h
  unfold boundedBelow
  simp only [List.forall_mem_append, List.forall_mem_cons]
  refine ⟨⟨⟨.inl htruckKw, .inr htruckStd, .inl hcapacity, .inl hchargeKw, .inr hprice,
    fun _ h => absurd h List.not_mem_nil⟩, fun q hq => .inr (hhourly q hq)⟩, ?_⟩
  split_ifs with hkind
  · intro q hq
    rw [List.mem_singleton.mp hq]
    exact .inr (hrate hkind)
  · exact fun _ h => absurd h List.not_mem_nil

/-! ### Floats -/

section Floats

variable (s : Scenario Float32)

/-- A float passes for positive, or for not negative, if it is so or is NaN. -/
theorem passes_iff (v : Violation) :
    s.Passes v ↔
      s.KeepsBy (fun q => 0 < q ∨ q.isNaN = true) (fun q => 0 ≤ q ∨ q.isNaN = true) v := by
  have hpos : (fun q : Float32 => ¬ q ≤ 0) = fun q => 0 < q ∨ q.isNaN = true :=
    funext fun _ => propext not_le_zero_iff
  have hnonneg : (fun q : Float32 => ¬ q < 0) = fun q => 0 ≤ q ∨ q.isNaN = true :=
    funext fun _ => propext not_lt_zero_iff
  rw [← hpos, ← hnonneg]
  rfl

variable {s}

theorem passes_of_keeps {v : Violation} (h : s.Keeps v) : s.Passes v :=
  (s.passes_iff v).mpr (h.imp fun _ _ => ⟨.inl, .inl⟩)

theorem keeps_of_passes (hnumbers : ∀ q ∈ s.boundedBelow, q.isNaN = false) {v : Violation}
    (h : s.Passes v) : s.Keeps v := by
  refine ((s.passes_iff v).mp h).imp fun q hq => ?_
  have hnumber : ¬ q.isNaN = true := by
    rw [hnumbers q hq]
    exact Bool.false_ne_true
  exact ⟨fun h => h.resolve_right hnumber, fun h => h.resolve_right hnumber⟩

variable (s)

/-- **What an empty list of violations is worth.**  `violations` is a sublist of `limits`, with the
ones that the scenario does not keep, where a quantity of `boundedBelow` may also be NaN; all are
kept if and only if it is empty and none of these is NaN. -/
theorem keeps_iff_violations_eq_nil :
    s.violations.Sublist s.limits ∧ s.limits.Nodup ∧
      s.limits.map Violation.field =
        ["simulation.days", "simulation.start_day", "simulation.start_hour", "fleet.truck_kw",
          "fleet.truck_std", "fleet.battery_capacity", "fleet.max_charge_kw",
          "fleet.charge_efficiency", "fleet.planning_horizon", "fleet.initial_soc", "tariff.price",
          "tariff.hourly_prices", "tariff.hourly_prices", "tariff.regulation_rate"] ∧
      (∀ v, v ∈ s.violations ↔ v ∈ s.limits ∧
        ¬ s.KeepsBy (fun q => 0 < q ∨ q.isNaN = true) (fun q => 0 ≤ q ∨ q.isNaN = true) v) ∧
      ((∀ v ∈ s.limits, s.Keeps v) ↔
        s.violations = [] ∧ ∀ q ∈ s.boundedBelow, q.isNaN = false) ∧
      ((∀ q ∈ s.boundedBelow, q.isNaN = false) →
        ∀ v, v ∈ s.violations ↔ v ∈ s.limits ∧ ¬ s.Keeps v) := by
  have hlisted := s.mem_violations_iff (α := Float32) (by decide)
  -- among numbers, to pass is to keep
  have hnumbers (hn : ∀ q ∈ s.boundedBelow, q.isNaN = false) (v : Violation) :
      v ∈ s.violations ↔ v ∈ s.limits ∧ ¬ s.Keeps v := by
    rw [hlisted, not_congr ⟨keeps_of_passes hn, passes_of_keeps⟩]
  refine ⟨s.violations_sublist, ?_, rfl, ?_, ?_, hnumbers⟩
  · unfold limits
    simp
  · intro v
    rw [hlisted, passes_iff]
  · constructor
    · intro hkeeps
      refine ⟨List.eq_nil_iff_forall_not_mem.mpr fun v hv => ?_, fun q hq => ?_⟩
      · obtain ⟨hlimit, hfails⟩ := (hlisted v).mp hv
        exact hfails (passes_of_keeps (hkeeps v hlimit))
      · exact (forall_mem_boundedBelow hkeeps q hq).elim isNaN_eq_false_of_zero_lt
          isNaN_eq_false_of_zero_le
    · rintro ⟨hnil, hn⟩ v hlimit
      by_contra hbroken
      have hv := (hnumbers hn v).mpr ⟨hlimit, hbroken⟩
      rw [hnil] at hv
      exact List.not_mem_nil hv

/-- A run of no days from no day of the week, with chargers that store nothing and batteries charged
beyond their capacity. -/
def outOfBounds : Scenario Float32 :=
  { baseline with
    days := 0
    startDay := 0
    initialSoc := 1.5
    equipment := { Equipment.default with chargeEfficiency := 0 } }

theorem keeps_iff_violations_eq_nil_outOfBounds :
    (∀ q ∈ outOfBounds.boundedBelow, q.isNaN = false) ∧
      outOfBounds.violations = [.days, .startDay, .chargeEfficiency, .initialSoc] ∧
      ¬ outOfBounds.Keeps .initialSoc ∧ outOfBounds.Keeps .truckKw := by
  have hnumbers : ∀ q ∈ outOfBounds.boundedBelow, q.isNaN = false := by decide +kernel
  have hlisted : outOfBounds.violations =
      [.days, .startDay, .chargeEfficiency, .initialSoc] := by decide +kernel
  obtain ⟨-, -, -, -, -, hbroken⟩ := outOfBounds.keeps_iff_violations_eq_nil
  refine ⟨hnumbers, hlisted, ((hbroken hnumbers _).mp ?_).2, ?_⟩
  · rw [hlisted]
    decide
  · by_contra hkeeps
    have hmem := (hbroken hnumbers _).mpr ⟨by unfold limits; decide, hkeeps⟩
    rw [hlisted] at hmem
    exact absurd hmem (by decide)

/-- A NaN. -/
def unknown : Float32 :=
  Decimal.Binary.notANumber.toFloat32

/-- The small depot, with nothing known of its trucks, its batteries, its chargers and its
prices. -/
def unmetered : Scenario Float32 :=
  { baseline with
    equipment :=
      { Equipment.default with
        truckKw := unknown
        truckStd := unknown
        batteryCapacity := unknown
        maxChargeKw := unknown }
    priceList := ⟨.regulation, unknown, [unknown], unknown⟩ }

/-- Nothing is listed against `unmetered`, which does not keep seven of its limits. -/
theorem violations_unmetered :
    unmetered.violations = [] ∧
      ∀ v ∈ [.truckKw, .truckStd, .batteryCapacity, .maxChargeKw, .price, .hourlyPrices,
        .regulationRate], v ∈ unmetered.limits ∧ ¬ unmetered.Keeps v := by
  have hnan : unknown.isNaN = true := by decide +kernel
  have hpos (h : 0 < unknown) : False :=
    absurd hnan (by rw [isNaN_eq_false_of_zero_lt h]; exact Bool.false_ne_true)
  have hnonneg (h : 0 ≤ unknown) : False :=
    absurd hnan (by rw [isNaN_eq_false_of_zero_le h]; exact Bool.false_ne_true)
  refine ⟨by decide +kernel, ?_⟩
  unfold limits
  simp only [List.forall_mem_cons]
  exact ⟨⟨by decide, hpos⟩, ⟨by decide, hnonneg⟩, ⟨by decide, hpos⟩, ⟨by decide, hpos⟩,
    ⟨by decide, hnonneg⟩, ⟨by decide, fun h => hnonneg (h _ List.mem_cons_self)⟩,
    ⟨by decide, fun h => hnonneg (h rfl)⟩, fun _ h => absurd h List.not_mem_nil⟩

end Floats

end Scenario

end TruckDepot
