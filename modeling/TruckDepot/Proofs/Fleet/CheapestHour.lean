import Mathlib.Logic.Function.Iterate
import TruckDepot.Proofs.Fleet.AnyPolicy
import TruckDepot.Proofs.Fleet.ResumePlan

/-!
# The cheapest hours

Deadline charging uses an hour in full if no hour that is left until the shift changes is cheaper.
It learns from its plan how many hours those are, and whatever a fleet has been through, the first
segment of its plan says so (`Fleet.KeepsPlan.front_ready`).  It then looks at the prices of exactly
these hours: `ChargeContext.cheapestHour_iff` says which hours they are, and
`Fleet.stored_of_isCheapest` and `Fleet.step_congr_prices` what follows for an hour's work.
-/

namespace TruckDepot

open Quantity TruckDepot.Random

variable {α σ : Type} [Quantity α]

/-! ### Prices of the hours ahead -/

namespace Tariff

/-- Of `hours` hours that begin with `slot`, none is cheaper than the first. -/
def IsCheapest (tariff : Tariff α) (slot : Slot) (hours : Nat) : Prop :=
  ∀ k < hours, 0 < k → tariff.usagePrice slot ≤ tariff.usagePrice (Slot.next^[k] slot)

instance (tariff : Tariff α) (slot : Slot) (hours : Nat) :
    Decidable (tariff.IsCheapest slot hours) :=
  inferInstanceAs (Decidable (∀ k < hours, 0 < k → _))

/-- Two tariffs have the same prices for `hours` hours that begin with `slot`. -/
def AgreeFor (tariff tariff' : Tariff α) (slot : Slot) (hours : Nat) : Prop :=
  ∀ k < hours, tariff.usagePrice (Slot.next^[k] slot) = tariff'.usagePrice (Slot.next^[k] slot)

instance [DecidableEq α] (tariff tariff' : Tariff α) (slot : Slot) (hours : Nat) :
    Decidable (tariff.AgreeFor tariff' slot hours) :=
  inferInstanceAs (Decidable (∀ k < hours, _ = _))

theorem AgreeFor.isCheapest_iff {tariff tariff' : Tariff α} {slot : Slot} {hours : Nat}
    (h : tariff.AgreeFor tariff' slot hours) :
    tariff.IsCheapest slot hours ↔ tariff'.IsCheapest slot hours := by
  unfold IsCheapest
  refine forall₃_congr fun k hk hpos => ?_
  have hnow : tariff.usagePrice slot = tariff'.usagePrice slot := h 0 (hpos.trans hk)
  rw [h k hk, hnow]

omit [Quantity α] in
theorem rateStructure_of_isTimeOfUse {tariff : Tariff α} (h : tariff.isTimeOfUse = true) :
    tariff.rateStructure = .timeOfUse :=
  if_pos h

omit [Quantity α] in
theorem rateStructure_congr {tariff tariff' : Tariff α} (h : tariff.isTimeOfUse = true)
    (h' : tariff'.isTimeOfUse = true) : tariff.rateStructure = tariff'.rateStructure := by
  rw [rateStructure_of_isTimeOfUse h, rateStructure_of_isTimeOfUse h']

omit [Quantity α] in
theorem rateStructure_ne_flat {tariff : Tariff α} (h : tariff.isTimeOfUse = true) :
    tariff.rateStructure ≠ .flat := by
  rw [rateStructure_of_isTimeOfUse h]
  nofun

end Tariff

namespace ChargeContext

theorem noneCheaper_iff (price : Slot → α) (now : α) (hours : Nat) (slot : Slot) :
    noneCheaper price now hours slot = true ↔
      ∀ k < hours, now ≤ price (Slot.next^[k + 1] slot) := by
  induction hours generalizing slot with
  | zero => simp [noneCheaper]
  | succ hours ih =>
    unfold noneCheaper
    rw [Bool.and_eq_true, decide_eq_true_iff, ih, Nat.forall_lt_succ_left]
    rfl

/-- `cheapestHour` looks at the hours of the stretch from the second one on. -/
theorem cheapestHour_iff (c : ChargeContext α) (hours : Nat) :
    c.cheapestHour hours = true ↔ c.tariff.IsCheapest c.slot hours := by
  unfold cheapestHour Tariff.IsCheapest
  rw [noneCheaper_iff]
  constructor
  · intro h k hk hpos
    obtain ⟨k, rfl⟩ := Nat.exists_eq_succ_of_ne_zero hpos.ne'
    exact h k (by omega)
  · intro h k hk
    exact h (k + 1) (by omega) k.succ_pos

end ChargeContext

/-! ### Policies -/

namespace ChargingPolicy

variable (policy : ChargingPolicy) {c : ChargeContext α}

/-- In a cheapest hour what is stored is `maxStore`, also without a plan. -/
theorem energyToStore_of_isCheapest (hpriced : c.tariff.isTimeOfUse = true)
    (hcheap : ∀ front ∈ c.plan.head?, c.tariff.IsCheapest c.slot front.duration) :
    policy.energyToStore c = c.maxStore := by
  unfold energyToStore
  split
  · rfl
  · rfl
  · rename_i front rest hplan
    have hfront : c.tariff.IsCheapest c.slot front.duration := hcheap front (by rw [hplan]; rfl)
    rw [hpriced, (c.cheapestHour_iff _).mpr hfront, Bool.and_self, if_pos rfl, ite_self]

theorem energyToStore_congr_tariff {front : PlannedSegment α} {rest : List (PlannedSegment α)}
    (hplan : c.plan = front :: rest) {tariff' : Tariff α}
    (hpriced : c.tariff.isTimeOfUse = tariff'.isTimeOfUse)
    (hagree : c.tariff.AgreeFor tariff' c.slot front.duration) :
    policy.energyToStore c = policy.energyToStore { c with tariff := tariff' } := by
  have hcheap : c.cheapestHour front.duration =
      { c with tariff := tariff' }.cheapestHour front.duration := by
    rw [Bool.eq_iff_iff, ChargeContext.cheapestHour_iff, ChargeContext.cheapestHour_iff]
    exact hagree.isCheapest_iff
  cases policy with
  | early => rfl
  | deadline =>
    unfold energyToStore
    dsimp only
    rw [hplan]
    dsimp only
    rw [hcheap, hpriced]
    rfl

end ChargingPolicy

namespace Fleet

/-! ### Any history -/

variable [NormalSource σ α] {f : Fleet α σ} {slot : Slot} {tariff tariff' : Tariff α}

theorem KeepsPlan.actAny (h : f.KeepsPlan) (action : AnyAction α) :
    (f.actAny action).KeepsPlan := by
  rcases f.actAny_cases action with
    ⟨-, -, policy, regulation, hafter⟩ | ⟨policy, slot, tariff, -, hafter, -⟩
  · rw [hafter]
    exact h
  · -- an hour leaves the plan that it was charged by, whichever policy looked at it
    rw [hafter]
    have hstep := h.act (.work slot tariff)
    unfold KeepsPlan at hstep ⊢
    rw [stepBy_grid, stepBy_equipment]
    rwa [Fleet.act, step_grid, step_equipment, step_planCache] at hstep

theorem KeepsPlan.performAny (h : f.KeepsPlan) (actions : List (AnyAction α)) :
    (f.performAny actions).KeepsPlan := by
  induction actions generalizing f with
  | nil => exact h
  | cons action rest ih => exact ih (h.actAny action)

/-! ### One hour -/

/-- What an hour stores that is used in full: `mostStored`, and never less than nothing. -/
def fullCharge (f : Fleet α σ) (slot : Slot) : α :=
  larger (f.mostStored slot) 0

/-- The first segment of the plan of an hour lasts for `hoursToChange`. -/
theorem KeepsPlan.front_ready (h : f.KeepsPlan) (slot : Slot)
    (hpriced : tariff.rateStructure ≠ .flat) :
    ∃ front rest, (f.ready slot tariff).planCache.plan = front :: rest ∧
      front.duration = f.grid.hoursToChange slot.index := by
  obtain ⟨surplus, hplan⟩ := h.ready slot hpriced
  exact ⟨_, _, hplan.plan, rfl⟩

/-- An hour is used in full if no hour of its plan's first segment is cheaper. -/
theorem stored_of_forall_isCheapest (hpriced : tariff.isTimeOfUse = true)
    (hcheap : ∀ front ∈ (f.ready slot tariff).planCache.plan.head?,
      tariff.IsCheapest slot front.duration) :
    f.stored slot tariff = f.fullCharge slot := by
  unfold stored energyToStore fullCharge
  rw [if_neg (Tariff.rateStructure_ne_flat hpriced),
    ChargingPolicy.energyToStore_of_isCheapest _ hpriced hcheap, maxStore_ready]

theorem stored_of_isCheapest (h : f.KeepsPlan) (hpriced : tariff.isTimeOfUse = true)
    (hcheap : tariff.IsCheapest slot (f.grid.hoursToChange slot.index)) :
    f.stored slot tariff = f.fullCharge slot := by
  obtain ⟨front, rest, hplan, hduration⟩ :=
    h.front_ready slot (Tariff.rateStructure_ne_flat hpriced)
  refine stored_of_forall_isCheapest hpriced fun first hfirst => ?_
  rw [hplan] at hfirst
  obtain rfl : front = first := Option.some.inj hfirst
  rwa [hduration]

theorem ready_congr_tariff (hrate : tariff.rateStructure = tariff'.rateStructure) :
    f.ready slot tariff = f.ready slot tariff' := by
  unfold ready prepare
  rw [hrate]

section Prices

variable (h : f.KeepsPlan) (hpriced : tariff.isTimeOfUse = true)
  (hpriced' : tariff'.isTimeOfUse = true)
  (hagree : tariff.AgreeFor tariff' slot (f.grid.hoursToChange slot.index))

include h hpriced hpriced' hagree

theorem stored_congr_prices : f.stored slot tariff = f.stored slot tariff' := by
  have hflat := Tariff.rateStructure_ne_flat hpriced
  have hflat' := Tariff.rateStructure_ne_flat hpriced'
  obtain ⟨front, rest, hplan, hduration⟩ := h.front_ready slot hflat
  rw [← hduration] at hagree
  unfold stored energyToStore
  rw [if_neg hflat, if_neg hflat',
    ← ready_congr_tariff (Tariff.rateStructure_congr hpriced hpriced'),
    ChargingPolicy.energyToStore_congr_tariff _ hplan (hpriced.trans hpriced'.symm) hagree]
  rfl

/-- Prices that `AgreeFor` the hours until the shift changes make for the same hour. -/
theorem step_congr_prices :
    (f.step slot tariff).1 = (f.step slot tariff').1 ∧
      (f.step slot tariff).2.1 = (f.step slot tariff').2.1 := by
  have hrate := Tariff.rateStructure_congr hpriced hpriced'
  have hstored := stored_congr_prices h hpriced hpriced' hagree
  have hnow : tariff.usagePrice slot = tariff'.usagePrice slot :=
    hagree 0 (f.grid.isHoursToChange_hoursToChange slot.index).pos
  have hfleet : (f.step slot tariff).1 = (f.step slot tariff').1 := by
    rw [step_eq, step_eq, ready_congr_tariff hrate, hstored]
  refine ⟨hfleet, ?_⟩
  rw [record_eq, record_eq, hfleet, hstored, hnow, hrate]

end Prices

/-- **The cheapest hour is used in full, and no price beyond the shift matters.**  With `hours`
until the shift changes, an hour that `IsCheapest` of these stores `fullCharge`, and tariffs that
`AgreeFor` these give the same `step`. -/
theorem step_of_isCheapest (hfresh : f.Fresh) (history : List (AnyAction α)) {hours : Nat}
    (hhours : f.grid.IsHoursToChange slot.index hours) (hpriced : tariff.isTimeOfUse = true) :
    let live := f.performAny history
    (tariff.IsCheapest slot hours →
        (live.step slot tariff).2.1.stored = live.fullCharge slot) ∧
      ∀ tariff', tariff'.isTimeOfUse = true → tariff.AgreeFor tariff' slot hours →
        (live.step slot tariff).1 = (live.step slot tariff').1 ∧
          (live.step slot tariff).2.1 = (live.step slot tariff').2.1 := by
  intro live
  have hplan : live.KeepsPlan := hfresh.keepsPlan.performAny history
  have hleft : hours = live.grid.hoursToChange slot.index := by
    rw [hhours.eq_hoursToChange, performAny_grid]
  rw [hleft]
  constructor
  · intro hcheap
    rw [record_eq]
    exact stored_of_isCheapest hplan hpriced hcheap
  · exact fun tariff' hpriced' hagree => step_congr_prices hplan hpriced hpriced' hagree

/-- `PriceList.dayNightPrices`, but nothing is paid for energy from eight in the morning on. -/
def freeFromEight : Tariff Float32 :=
  (PriceList.timeOfUse (PriceList.dayNightPrices.take 8 ++ List.replicate 16 0)).toTariff

/-- `steadyFleet` after its hours of `steadyMorning`. -/
def steadyMidnight : Fleet Float32 Stream :=
  steadyFleet.performAny (steadyMorning.map .own)

/-- At midnight `steadyFleet` has eight hours to go, of which none is cheaper; what energy costs
after them it does not ask. -/
theorem step_of_isCheapest_steadyFleet :
    steadyFleet.Fresh ∧ steadyFleet.grid.IsHoursToChange (Slot.mk 2 0).index 8 ∧
      dayNight.isTimeOfUse = true ∧ dayNight.IsCheapest ⟨2, 0⟩ 8 ∧
      (steadyMidnight.step ⟨2, 0⟩ dayNight).2.1.stored = steadyMidnight.fullCharge ⟨2, 0⟩ ∧
      freeFromEight.isTimeOfUse = true ∧ dayNight.AgreeFor freeFromEight ⟨2, 0⟩ 8 ∧
      dayNight.usagePrice ⟨2, 8⟩ ≠ freeFromEight.usagePrice ⟨2, 8⟩ ∧
      (steadyMidnight.step ⟨2, 0⟩ dayNight).2.1 =
        (steadyMidnight.step ⟨2, 0⟩ freeFromEight).2.1 := by
  have hfresh : steadyFleet.Fresh := .created _ _ _ _ _
  have hleft : steadyFleet.grid.hoursToChange (Slot.mk 2 0).index = 8 := by decide +kernel
  have hhours : steadyFleet.grid.IsHoursToChange (Slot.mk 2 0).index 8 := by
    rw [← hleft]
    exact steadyFleet.grid.isHoursToChange_hoursToChange _
  have hpriced : dayNight.isTimeOfUse = true := rfl
  have hpriced' : freeFromEight.isTimeOfUse = true := rfl
  have hcheap : dayNight.IsCheapest ⟨2, 0⟩ 8 := by decide +kernel
  have hagree : dayNight.AgreeFor freeFromEight ⟨2, 0⟩ 8 := by decide +kernel
  have hlater : dayNight.usagePrice ⟨2, 8⟩ ≠ freeFromEight.usagePrice ⟨2, 8⟩ := by decide +kernel
  obtain ⟨hfull, hsame⟩ := step_of_isCheapest hfresh (steadyMorning.map .own) hhours hpriced
  unfold steadyMidnight
  exact ⟨hfresh, hhours, hpriced, hcheap, hfull hcheap, hpriced', hagree, hlater,
    (hsame freeFromEight hpriced' hagree).2⟩

end Fleet

end TruckDepot
