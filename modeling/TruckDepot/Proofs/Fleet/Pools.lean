import Mathlib.Tactic.Linarith
import Mathlib.Tactic.Ring
import TruckDepot.Fleet.Pools
import TruckDepot.Proofs.Quantity.Rational

/-!
# What happens to the batteries, in exact numbers

Swapping packs moves energy and makes none (`Pools.total_swap`), working takes out what the trucks
use, out of whatever packs it comes (`Pools.total_discharge`), and charging puts in what is stored
(`Pools.total_store`).

`Pools.Behind` compares the batteries of two fleets with the same packs deployed: one has no more
energy than the other, in the trucks and off them.  Swapping, working and charging the other at full
power all keep it so.
-/

namespace TruckDepot.Pools

open Quantity

variable (p : Pools Rat) (usage : Rat)

/-! ### Working -/

theorem borrowing_eq : p.borrowing usage = max (usage - p.energyInUse) 0 := by
  unfold borrowing
  dsimp only
  split_ifs with hdeficit
  · exact (max_eq_left hdeficit.le).symm
  · exact (max_eq_right (not_lt.mp hdeficit)).symm

@[simp] theorem capacityInUse_discharge {α : Type} [Quantity α] (p : Pools α) (usage : α) :
    (p.discharge usage).capacityInUse = p.capacityInUse := by
  unfold discharge
  dsimp only
  split_ifs
  · rfl
  · rfl

theorem energyInUse_discharge :
    (p.discharge usage).energyInUse = max (p.energyInUse - usage) 0 := by
  unfold discharge
  dsimp only
  split_ifs with hdeficit
  · rw [max_eq_right (by linarith)]
    show p.energyInUse + (usage - p.energyInUse) - usage = 0
    ring
  · exact (max_eq_left (by linarith)).symm

theorem energyCharging_discharge :
    (p.discharge usage).energyCharging = p.energyCharging - p.borrowing usage := by
  unfold discharge borrowing
  dsimp only
  split_ifs
  · rfl
  · exact (sub_zero _).symm

/-! ### Energy in all packs -/

@[simp] theorem total_gather : p.gather.total = p.total := by
  unfold gather total
  show 0 + (p.energyCharging + p.energyInUse) = p.energyInUse + p.energyCharging
  ring

@[simp] theorem total_swap (trucks : Option Nat) (batteryCapacity : Rat) :
    (p.swap trucks batteryCapacity).total = p.total := by
  cases trucks with
  | none => exact p.total_gather
  | some trucks =>
    show smaller _ p.total + (p.total - smaller _ p.total) = p.total
    ring

theorem total_discharge : (p.discharge usage).total = p.total - usage := by
  unfold discharge total
  dsimp only
  split_ifs
  · show p.energyInUse + (usage - p.energyInUse) - usage +
      (p.energyCharging - (usage - p.energyInUse)) = p.energyInUse + p.energyCharging - usage
    ring
  · show p.energyInUse - usage + p.energyCharging = p.energyInUse + p.energyCharging - usage
    ring

theorem total_store (energy : Rat) : (p.store energy).total = p.total + energy :=
  (add_assoc _ _ _).symm

/-! ### Charging -/

theorem room_eq (totalCapacity : Rat) :
    p.room totalCapacity = max (totalCapacity - p.capacityInUse - p.energyCharging) 0 :=
  larger_eq_max _ _

theorem room_nonneg (totalCapacity : Rat) : 0 ≤ p.room totalCapacity := by
  rw [room_eq]
  exact le_max_right _ _

/-! ### Batteries with less energy -/

/-- The same packs are deployed, and `p` has no more energy than `p'`, in the trucks or off them. -/
structure Behind (p p' : Pools Rat) : Prop where
  capacityInUse : p.capacityInUse = p'.capacityInUse
  energyInUse : p.energyInUse ≤ p'.energyInUse
  energyCharging : p.energyCharging ≤ p'.energyCharging

variable {p} {p' : Pools Rat}

theorem Behind.total (h : p.Behind p') : p.total ≤ p'.total :=
  add_le_add h.energyInUse h.energyCharging

theorem behind_gather (h : p.total ≤ p'.total) : p.gather.Behind p'.gather := by
  refine ⟨rfl, le_rfl, ?_⟩
  show p.energyCharging + p.energyInUse ≤ p'.energyCharging + p'.energyInUse
  unfold Pools.total at h
  linarith

/-- With more energy in all packs, there is more in the fullest packs and more in the others. -/
theorem behind_swap (h : p.total ≤ p'.total) (trucks : Option Nat) (batteryCapacity : Rat) :
    (p.swap trucks batteryCapacity).Behind (p'.swap trucks batteryCapacity) := by
  cases trucks with
  | none => exact behind_gather h
  | some trucks =>
    set capacity : Rat := ofNat trucks * batteryCapacity
    refine ⟨rfl, ?_, ?_⟩
    · show smaller capacity p.total ≤ smaller capacity p'.total
      rw [smaller_eq_min, smaller_eq_min]
      exact min_le_min_left _ h
    · show p.total - smaller capacity p.total ≤ p'.total - smaller capacity p'.total
      rw [smaller_eq_min, smaller_eq_min]
      -- the others get what is beyond the capacity in use, if anything is
      rcases le_total capacity p.total with hfull | hshort
      · rw [min_eq_left hfull, min_eq_left (hfull.trans h)]
        linarith
      · rw [min_eq_right hshort]
        have hle := min_le_right capacity p'.total
        linarith

theorem Behind.borrowing (h : p.Behind p') (usage : Rat) :
    p'.borrowing usage ≤ p.borrowing usage := by
  rw [borrowing_eq, borrowing_eq]
  exact max_le_max (sub_le_sub_left h.energyInUse usage) le_rfl

theorem Behind.discharge (h : p.Behind p') (usage : Rat) :
    (p.discharge usage).Behind (p'.discharge usage) := by
  constructor
  · rw [capacityInUse_discharge, capacityInUse_discharge, h.capacityInUse]
  · rw [energyInUse_discharge, energyInUse_discharge]
    exact max_le_max (sub_le_sub_right h.energyInUse usage) le_rfl
  · rw [energyCharging_discharge, energyCharging_discharge]
    exact sub_le_sub h.energyCharging (h.borrowing usage)

/-- Charging `p'` at full power, as far as it has room, keeps `p` behind if that takes no more than
it has room for. -/
theorem Behind.store (h : p.Behind p') {power totalCapacity energy : Rat}
    (henergy : energy ≤ min power (p.room totalCapacity)) :
    (p.store energy).Behind (p'.store (min power (p'.room totalCapacity))) := by
  refine ⟨h.capacityInUse, h.energyInUse, ?_⟩
  show p.energyCharging + energy ≤ p'.energyCharging + min power (p'.room totalCapacity)
  have hcharging := h.energyCharging
  have hby_power : energy ≤ power := henergy.trans (min_le_left _ _)
  have hby_room : energy ≤ p.room totalCapacity := henergy.trans (min_le_right _ _)
  rcases le_total power (p'.room totalCapacity) with hroom | hfull
  · rw [min_eq_left hroom]
    linarith
  · rw [min_eq_right hfull]
    rw [room_eq, h.capacityInUse] at hby_room
    rw [room_eq]
    -- the second batteries end up full, or were full before
    have hreach := le_max_left (totalCapacity - p'.capacityInUse - p'.energyCharging) 0
    have hkeep := le_max_right (totalCapacity - p'.capacityInUse - p'.energyCharging) 0
    rcases le_max_iff.mp hby_room with hby | hby
    · linarith
    · linarith

end TruckDepot.Pools
