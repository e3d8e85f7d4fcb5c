import Mathlib.Algebra.Order.Field.Rat
import TruckDepot.Proofs.Fleet.AnyPolicy
import TruckDepot.Proofs.Fleet.Balance

/-!
# What trucks borrow, in exact numbers

Trucks borrow what they use beyond the energy in their packs, so they borrow no more than they use
unless their packs hold less than nothing.  That can only be when a shift begins while all packs
together are in debt: the swap hands the debt to its trucks (`Fleet.debtAt`), and they pay it back
in their first hour.  After every hour the packs in the trucks hold nothing or more
(`Fleet.energyInUse_stepBy_nonneg`).

`Fleet.borrowed_recordsAny` says so for every history of a fleet and for the figures of its run, and
`Fleet.borrowed_without_use_zeroShift` is a shift that borrows without using anything.
-/

namespace TruckDepot

open Quantity TruckDepot.Random

/-- What the record of an hour may say if its trucks took over `debt` at its start. -/
structure HourRecord.WithDebt (debt : Rat) (r : HourRecord Rat) : Prop where
  debt_nonneg : 0 ≤ debt
  borrowed_nonneg : 0 ≤ r.borrowed
  /-- Trucks borrow no more than they use and owe. -/
  borrowed_le : r.borrowed ≤ r.usage + debt
  /-- Trucks that owe borrow all of it, when their shift begins. -/
  of_debt : 0 < debt → r.borrowed = r.usage + debt ∧ r.shiftChanged = true

theorem HourRecord.WithDebt.short {debt : Rat} {r : HourRecord Rat} (h : r.WithDebt debt)
    (hshort : 0 < r.borrowed) : 0 < r.usage ∨ 0 < debt := by
  have hle := h.borrowed_le
  rcases lt_or_ge 0 r.usage with husage | husage
  · exact Or.inl husage
  · exact Or.inr (by linarith)

namespace Fleet

variable {σ : Type} (f : Fleet Rat σ)

/-! ### Debt -/

/-- The debt that the trucks of `slot` take over: none while their shift goes on or no shift is on,
else what the packs handed to them, with no more than `f.pools.total`, are short of zero. -/
def debtAt (slot : Slot) : Rat :=
  if f.grid.shiftIdAt slot.index = f.currentShift then 0
  else
    match f.grid.shiftIdAt slot.index with
    | none => 0
    | some id =>
      max (-min (ofNat (f.grid.trucksOf (some id)) * f.equipment.batteryCapacity) f.pools.total) 0

theorem debtAt_nonneg (slot : Slot) : 0 ≤ f.debtAt slot := by
  unfold debtAt
  split
  · exact le_rfl
  · split
    · exact le_rfl
    · exact le_max_right _ _

theorem shiftChanged_of_debtAt {slot : Slot} (h : 0 < f.debtAt slot) :
    f.grid.shiftIdAt slot.index ≠ f.currentShift := by
  intro hsame
  unfold debtAt at h
  rw [if_pos hsame] at h
  exact lt_irrefl 0 h

variable {f}

/-- From packs with `0 ≤ energyInUse`, the debt is what the `deployedPools` are short of zero. -/
theorem debtAt_eq (h : 0 ≤ f.pools.energyInUse) (slot : Slot) :
    f.debtAt slot = max (-(f.deployedPools slot.index).energyInUse) 0 := by
  unfold debtAt deployedPools
  split_ifs
  -- while the shift goes on the trucks keep what they hold, which is no debt
  · exact (max_eq_right (neg_nonpos.mpr h)).symm
  · cases f.grid.shiftIdAt slot.index with
    | none =>
      show (0 : Rat) = max (-0) 0
      rw [neg_zero, max_self]
    | some id =>
      show _ = max (-smaller _ f.pools.total) 0
      rw [smaller_eq_min]

variable [NormalSource σ Rat]

/-! ### One hour -/

theorem energyInUse_stepBy_nonneg (policy : ChargeContext Rat → Rat) (slot : Slot)
    (tariff : Tariff Rat) : 0 ≤ (f.stepBy policy slot tariff).1.pools.energyInUse := by
  rw [stepBy_pools]
  -- what the packs were short of has been borrowed, and nothing is stored into packs in use
  show 0 ≤ ((f.deployedPools slot.index).discharge (f.usage slot).1).energyInUse
  rw [Pools.energyInUse_discharge]
  exact le_max_right _ _

theorem withDebt_stepBy (h : 0 ≤ f.pools.energyInUse) (policy : ChargeContext Rat → Rat)
    (slot : Slot) (tariff : Tariff Rat) :
    (f.stepBy policy slot tariff).2.WithDebt (f.debtAt slot) := by
  have husage := f.usage_nonneg slot
  have hdebt := debtAt_eq h slot
  have howed := le_max_left (-(f.deployedPools slot.index).energyInUse) 0
  -- what is borrowed is what the deployed packs are short of the use
  have hborrowed : (f.stepBy policy slot tariff).2.borrowed =
      max ((f.usage slot).1 - (f.deployedPools slot.index).energyInUse) 0 := by
    rw [record_stepBy, record_eq, ← Pools.borrowing_eq]
  have hused : (f.stepBy policy slot tariff).2.usage = (f.usage slot).1 := by
    rw [record_stepBy, record_eq]
  constructor
  · exact f.debtAt_nonneg slot
  · rw [hborrowed]
    exact le_max_right _ _
  · rw [hborrowed, hused]
    refine max_le ?_ (add_nonneg husage (f.debtAt_nonneg slot))
    rw [hdebt]
    linarith
  · intro hpos
    constructor
    · -- packs that are short of nothing are short of all that is used as well
      have hneg : f.debtAt slot = -(f.deployedPools slot.index).energyInUse := by
        rw [hdebt] at hpos ⊢
        exact max_eq_left ((lt_max_iff.mp hpos).resolve_right (lt_irrefl 0)).le
      rw [hborrowed, hused, hneg, ← sub_eq_add_neg]
      exact max_eq_left (by linarith)
    · rw [record_stepBy, record_eq]
      exact bne_iff_ne.mpr (f.shiftChanged_of_debtAt hpos)

/-! ### Any actions -/

variable (f)

/-- The debts that the trucks take over in the hours among some actions, `debtAt` each. -/
def debtsAny (f : Fleet Rat σ) : List (AnyAction Rat) → List Rat
  | [] => []
  | action :: rest => (action.slot?.map f.debtAt).toList ++ (f.actAny action).debtsAny rest

variable {f}

theorem withDebt_recordsAny (h : 0 ≤ f.pools.energyInUse) (actions : List (AnyAction Rat)) :
    List.Forall₂ (fun debt r => r.WithDebt debt) (f.debtsAny actions) (f.recordsAny actions) := by
  -- what every hour passes on is that the packs in the trucks hold nothing or more
  induction actions generalizing f with
  | nil => exact .nil
  | cons action rest ih =>
    unfold debtsAny recordsAny
    rcases f.actAny_cases action with
      ⟨hslot, hrecord, policy, regulation, hafter⟩ | ⟨policy, slot, tariff, hslot, hafter, hrecord⟩
    · rw [hslot, hrecord, hafter]
      exact ih (f := { f with policy := policy, regulation := regulation }) h
    · rw [hslot, hrecord, hafter]
      exact .cons (withDebt_stepBy h policy slot tariff)
        (ih (energyInUse_stepBy_nonneg policy slot tariff))

end Fleet

/-! ### The figures -/

section Figures

variable {debts : List Rat} {records : List (HourRecord Rat)}
  (h : List.Forall₂ (fun debt r => r.WithDebt debt) debts records)

include h

/-- A run borrows no more than its `usage` and the sum of `debts`. -/
theorem Summary.borrowed_le_of_withDebt :
    (ofRecords records).borrowed ≤ (ofRecords records).usage + debts.sum := by
  rw [borrowed_ofRecords, usage_ofRecords]
  -- only hours that borrow count, which is what the maximum with nothing is for
  induction h with
  | nil => exact (add_zero (0 : Rat)).ge
  | cons hr _ ih =>
    have hle := hr.borrowed_le
    rw [List.map_cons, List.sum_cons, List.map_cons, List.sum_cons, List.sum_cons,
      max_eq_left hr.borrowed_nonneg]
    linarith

theorem HourRecord.withDebt_zero_of_forall (hnone : ∀ debt ∈ debts, debt = 0) :
    ∀ r ∈ records, r.WithDebt 0 := by
  induction h with
  | nil => exact fun r hr => absurd hr List.not_mem_nil
  | cons hr _ ih =>
    rw [List.forall_mem_cons] at hnone ⊢
    obtain ⟨rfl, hrest⟩ := hnone
    exact ⟨hr, ih hrest⟩

end Figures

namespace Fleet

variable {σ : Type} [NormalSource σ Rat]

/-- **Trucks borrow no more than they use and owe.**  `figures.borrowed` is at most
`figures.usage + debts.sum`, each record keeps to its debt (`WithDebt`), and without debts
`r.borrowed ≤ r.usage` for every `r`. -/
theorem borrowed_recordsAny (name : String) (e : Equipment Rat) (g : Grid) (pools : Pools Rat)
    (source : σ) (actions : List (AnyAction Rat)) :
    let f := create name e g pools source
    let debts := f.debtsAny actions
    let records := f.recordsAny actions
    let figures := Summary.ofRecords records
    List.Forall₂ (fun debt r => r.WithDebt debt ∧ (0 < r.borrowed → 0 < r.usage ∨ 0 < debt))
        debts records ∧
      figures.shortfalls = (records.countP fun r => 0 < r.borrowed) ∧
      figures.borrowed ≤ figures.usage + debts.sum ∧
      ((∀ debt ∈ debts, debt = 0) →
        figures.borrowed ≤ figures.usage ∧
          ∀ r ∈ records, r.borrowed ≤ r.usage ∧ (0 < r.borrowed → 0 < r.usage)) := by
  intro f debts records figures
  have hrecords : List.Forall₂ (fun debt r => r.WithDebt debt) debts records :=
    withDebt_recordsAny (f := f) le_rfl actions
  have hfigures := Summary.borrowed_le_of_withDebt hrecords
  refine ⟨hrecords.imp fun _ _ hr => ⟨hr, hr.short⟩, Summary.shortfalls_ofRecords records,
    hfigures, ?_⟩
  intro hnone
  have hsum : debts.sum = 0 := List.sum_eq_zero hnone
  constructor
  · rwa [hsum, add_zero] at hfigures
  · intro r hr
    have hdebt := HourRecord.withDebt_zero_of_forall hrecords hnone r hr
    have hle := hdebt.borrowed_le
    rw [add_zero] at hle
    exact ⟨hle, fun hshort => hshort.trans_le hle⟩

/-- A depot with one charger. -/
def oneCharger : Equipment Rat :=
  { Equipment.exact with truckStd := 0, chargers := 1 }

/-- A Monday with a shift of eight trucks, followed by one without any. -/
def zeroShift : Grid :=
  (Grid.configure ["block", "2", "shift", "8", "8", "8", "shift", "16", "8", "0"]).grid

/-- One price at all times, in exact numbers. -/
def onePrice : Tariff Rat :=
  (PriceList.flat (1 / 10)).toTariff

/-- The shift of eight trucks on `zeroShift`, charged in its first hour by a policy of another kind:
nobody owes anything. -/
theorem borrowed_recordsAny_zeroShift :
    let f := create "Dockside" oneCharger zeroShift ⟨0, 0, 10⟩ ([] : List Rat)
    let actions : List (AnyAction Rat) :=
      [.workBy (fun c => c.maxStore / 2) ⟨2, 8⟩ onePrice, .own (.regulate 5),
        .own (.work ⟨2, 9⟩ onePrice)]
    let records := f.recordsAny actions
    let figures := Summary.ofRecords records
    f.debtsAny actions = [0, 0] ∧ figures.borrowed ≤ figures.usage ∧
      ∀ r ∈ records, r.borrowed ≤ r.usage ∧ (0 < r.borrowed → 0 < r.usage) := by
  intro f actions records figures
  have hdebts : f.debtsAny actions = [0, 0] := by decide +kernel
  have hnone : ∀ debt ∈ f.debtsAny actions, debt = 0 := by
    rw [hdebts]
    decide
  obtain ⟨-, -, -, hall⟩ :=
    borrowed_recordsAny "Dockside" oneCharger zeroShift ⟨0, 0, 10⟩ ([] : List Rat) actions
  exact ⟨hdebts, hall hnone⟩

/-- The eight trucks of `zeroShift` start with empty batteries and leave a debt of 20 kWh; the shift
without trucks borrows that much and uses nothing. -/
theorem borrowed_without_use_zeroShift :
    let f := create "Dockside" oneCharger zeroShift ⟨0, 0, 0⟩ ([] : List Rat)
    let actions : List (AnyAction Rat) :=
      [.own (.work ⟨2, 8⟩ onePrice), .own (.work ⟨2, 16⟩ onePrice)]
    let records := f.recordsAny actions
    let figures := Summary.ofRecords records
    (records.map fun r => (r.usage, r.borrowed)) = [(32, 32), (0, 20)] ∧
      ¬ (∀ r ∈ records, r.borrowed ≤ r.usage) ∧
      ¬ figures.borrowed ≤ figures.usage ∧
      ¬ ∀ r ∈ records, 0 < r.borrowed → 0 < r.usage := by
  decide +kernel

end Fleet

end TruckDepot
