import TruckDepot.Proofs.Fleet.Hour
import TruckDepot.Proofs.Fleet.Pools

/-!
# What is stored in an hour

An hour stores the most that it can (`Fleet.mostStored`) or, by its plan and its policy, an even
share of what is missing (`Fleet.shareStored`); `Fleet.stored_cases` says which.  Where no charging
looks at a plan it is the most (`Fleet.stored_of_planFree`).  In exact numbers what is stored is
never less than nothing (`Fleet.stored_nonneg`) and never more than the most
(`Fleet.stored_le_mostStored`).
-/

namespace TruckDepot

open Quantity TruckDepot.Random

/-- Every policy stores `maxStore` or `evenShare` by the first segment of its plan. -/
theorem ChargingPolicy.energyToStore_cases {α : Type} [Quantity α] (policy : ChargingPolicy)
    (c : ChargeContext α) :
    policy.energyToStore c = c.maxStore ∨
      ∃ front rest, c.plan = front :: rest ∧ policy.energyToStore c = evenShare c front := by
  unfold energyToStore
  split
  · exact Or.inl rfl
  · exact Or.inl rfl
  · rename_i front rest hplan
    by_cases hfull : (front.maxSurplus < 0 || c.trucksBorrowing) = true
    · exact Or.inl (if_pos hfull)
    · rw [if_neg hfull]
      by_cases hcheap : (c.tariff.isTimeOfUse && c.cheapestHour front.duration) = true
      · exact Or.inl (if_pos hcheap)
      · exact Or.inr ⟨front, rest, hplan, if_neg hcheap⟩

namespace Fleet

variable {α σ : Type} [Quantity α] [NormalSource σ α] (f : Fleet α σ) (slot : Slot)
  (tariff : Tariff α)

/-- The most that an hour can store: `chargerCapacity`, as far as there is `room` when the trucks
have worked. -/
def mostStored : α :=
  smaller f.equipment.chargerCapacity ((f.worked slot).pools.room f.equipment.totalCapacity)

/-- An even share of what is `missing` for the end of `front` and the reserve, up to
`mostStored`. -/
def shareStored (front : PlannedSegment α) : α :=
  let missing := front.required + f.equipment.reserve - (f.worked slot).pools.energyCharging
  smaller (larger missing 0 / Quantity.ofNat (max front.duration 1)) (f.mostStored slot)

theorem maxStore_ready (plan : List (PlannedSegment α)) :
    ((f.ready slot tariff).chargeContext slot tariff plan).maxStore = f.mostStored slot := by
  show smaller (f.ready slot tariff).equipment.chargerCapacity
    ((f.ready slot tariff).pools.room (f.ready slot tariff).equipment.totalCapacity) = _
  rw [ready_equipment, ready_pools]
  rfl

theorem evenShare_ready (plan : List (PlannedSegment α)) (front : PlannedSegment α) :
    ChargingPolicy.evenShare ((f.ready slot tariff).chargeContext slot tariff plan) front =
      f.shareStored slot front := by
  unfold ChargingPolicy.evenShare
  rw [maxStore_ready]
  show smaller (larger (front.required + (f.ready slot tariff).equipment.reserve -
    (f.ready slot tariff).pools.energyCharging) 0 / _) _ = _
  rw [ready_equipment, ready_pools]
  rfl

variable {f slot tariff}

/-- An hour whose charging looks at no plan stores `mostStored`. -/
theorem stored_of_planFree (h : tariff.rateStructure = .flat ∨ f.policy = .early) :
    f.stored slot tariff = larger (f.mostStored slot) 0 := by
  unfold stored energyToStore
  rw [ready_policy]
  rcases h with hflat | hearly
  · rw [if_pos hflat]
    exact congrArg (larger · 0) (f.maxStore_ready slot tariff [])
  · rw [hearly]
    split_ifs
    · exact congrArg (larger · 0) (f.maxStore_ready slot tariff [])
    · exact congrArg (larger · 0) (f.maxStore_ready slot tariff _)

/-- An hour stores `mostStored`, or `shareStored` by the first segment of its plan. -/
theorem stored_cases (f : Fleet α σ) (slot : Slot) (tariff : Tariff α) :
    f.stored slot tariff = larger (f.mostStored slot) 0 ∨
      ∃ front rest, (f.ready slot tariff).planCache.plan = front :: rest ∧
        f.stored slot tariff = larger (f.shareStored slot front) 0 := by
  by_cases hflat : tariff.rateStructure = .flat
  · exact Or.inl (stored_of_planFree (Or.inl hflat))
  · unfold stored energyToStore
    rw [if_neg hflat]
    rcases (f.ready slot tariff).policy.energyToStore_cases
        ((f.ready slot tariff).chargeContext slot tariff (f.ready slot tariff).planCache.plan)
      with hmost | ⟨front, rest, hplan, hshare⟩
    · rw [hmost, maxStore_ready]
      exact Or.inl rfl
    · rw [hshare, evenShare_ready]
      exact Or.inr ⟨front, rest, hplan, rfl⟩

end Fleet

/-! ### In exact numbers -/

namespace Fleet

variable {σ : Type} [NormalSource σ Rat] {f : Fleet Rat σ} {slot : Slot} {tariff : Tariff Rat}

theorem stored_nonneg : 0 ≤ f.stored slot tariff := by
  unfold stored energyToStore
  dsimp only
  rw [larger_eq_max]
  exact le_max_right _ _

theorem mostStored_eq : f.mostStored slot =
    min f.equipment.chargerCapacity ((f.worked slot).pools.room f.equipment.totalCapacity) :=
  smaller_eq_min _ _

theorem mostStored_nonneg (hpower : 0 ≤ f.equipment.chargerCapacity) : 0 ≤ f.mostStored slot := by
  rw [mostStored_eq]
  exact le_min hpower (Pools.room_nonneg _ _)

theorem shareStored_eq (front : PlannedSegment Rat) : f.shareStored slot front =
    min (max (front.required + f.equipment.reserve - (f.worked slot).pools.energyCharging) 0 /
      (max front.duration 1 : Nat)) (f.mostStored slot) := by
  unfold shareStored
  dsimp only
  rw [smaller_eq_min, larger_eq_max, ofNat_eq_cast]

theorem shareStored_nonneg (hpower : 0 ≤ f.equipment.chargerCapacity)
    (front : PlannedSegment Rat) : 0 ≤ f.shareStored slot front := by
  rw [shareStored_eq]
  exact le_min (div_nonneg (le_max_right _ _) (Nat.cast_nonneg _)) (mostStored_nonneg hpower)

theorem shareStored_le_mostStored (front : PlannedSegment Rat) :
    f.shareStored slot front ≤ f.mostStored slot := by
  rw [shareStored_eq]
  exact min_le_right _ _

theorem stored_le_mostStored (hpower : 0 ≤ f.equipment.chargerCapacity) :
    f.stored slot tariff ≤ f.mostStored slot := by
  rcases f.stored_cases slot tariff with hmost | ⟨front, _, _, hshare⟩
  · rw [hmost, larger_eq_max]
    exact max_le le_rfl (mostStored_nonneg hpower)
  · rw [hshare, larger_eq_max]
    exact max_le (shareStored_le_mostStored front) (mostStored_nonneg hpower)

theorem stored_of_early (hpower : 0 ≤ f.equipment.chargerCapacity) (hearly : f.policy = .early) :
    f.stored slot tariff = f.mostStored slot := by
  rw [stored_of_planFree (Or.inr hearly), larger_eq_max]
  exact max_eq_left (mostStored_nonneg hpower)

end Fleet

end TruckDepot
