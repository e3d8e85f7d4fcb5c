import TruckDepot.Quantity

/-!
# Battery pools

Batteries are not tracked one by one. A fleet knows the nameplate capacity of the packs in its
trucks, the energy in those packs, and the energy in all other packs, which are charging or
waiting. When the trucks use more than there is, a pool goes below zero; the debt is kept. -/

namespace TruckDepot

open Quantity

/-- The pooled state of a fleet's batteries, in kWh. -/
structure Pools (α : Type) where
  /-- Nameplate capacity of the packs in the trucks. -/
  capacityInUse : α
  /-- Energy in the packs in the trucks. -/
  energyInUse : α
  /-- Energy in all other packs. -/
  energyCharging : α
  deriving DecidableEq, Repr

namespace Pools

variable {α : Type} [Quantity α]

/-- Every pack is off the trucks and charged to the same part of its capacity. -/
def charged (totalCapacity part : α) : Pools α :=
  ⟨0, 0, totalCapacity * part⟩

/-- Energy in all packs. -/
def total (p : Pools α) : α :=
  p.energyInUse + p.energyCharging

/-- Takes every pack off the trucks. -/
def gather (p : Pools α) : Pools α :=
  ⟨0, 0, p.energyCharging + p.energyInUse⟩

/-- Swaps the packs at a change of shift. All packs come off the trucks; if a shift begins, its
trucks get one pack each, the fullest there are. -/
def swap (p : Pools α) (trucks : Option Nat) (batteryCapacity : α) : Pools α :=
  match trucks with
  | none => p.gather
  | some trucks =>
    let capacity := ofNat trucks * batteryCapacity
    let inUse := smaller capacity p.total
    ⟨capacity, inUse, p.total - inUse⟩

/-- What the trucks have to borrow from the other packs to use some energy. -/
def borrowing (p : Pools α) (usage : α) : α :=
  let deficit := usage - p.energyInUse
  if 0 < deficit then deficit else 0

/-- Takes the energy that the trucks use out of their packs, after moving over what they borrow. -/
def discharge (p : Pools α) (usage : α) : Pools α :=
  let deficit := usage - p.energyInUse
  if 0 < deficit then
    { p with
      energyInUse := p.energyInUse + deficit - usage
      energyCharging := p.energyCharging - deficit }
  else { p with energyInUse := p.energyInUse - usage }

/-- Energy that the packs off the trucks could still take. -/
def room (p : Pools α) (totalCapacity : α) : α :=
  larger (totalCapacity - p.capacityInUse - p.energyCharging) 0

/-- Puts charged energy into the packs off the trucks. -/
def store (p : Pools α) (energy : α) : Pools α :=
  { p with energyCharging := p.energyCharging + energy }

end Pools

end TruckDepot
