import TruckDepot.Proofs.Fleet.Charging
import TruckDepot.Proofs.Fleet.History
import TruckDepot.Proofs.Schedule.Declaration

/-!
# Saving and going on

A fleet that was saved and restored works on like the one that was never saved, as long as no
charging looks at a plan (`Fleet.hours_restore_saved`): the restored fleet has the same equipment,
schedule, batteries and current shift (`Fleet.alike_restore_saved`), and where the noise has no
deviation nothing else bears on an hour (`Fleet.Alike.step`).
-/

namespace TruckDepot

open Quantity TruckDepot.Random

variable {α σ : Type} [Quantity α] [NormalSource σ α]

/-- With `truckStd ≤ 0` the source of noise does not bear on what the trucks use. -/
theorem sampleUsage_of_le {truckStd : α} (h : truckStd ≤ 0) (truckKw : α) (trucks : Nat)
    (source source' : σ) :
    (sampleUsage truckKw truckStd trucks source).1 =
      (sampleUsage truckKw truckStd trucks source').1 := by
  unfold sampleUsage noise
  simp only [if_pos h]
  split_ifs <;> rfl

namespace Fleet

/-! ### Fleets that work alike -/

/-- The fleets have the same equipment, schedule, batteries and current shift. -/
structure Alike (f f' : Fleet α σ) : Prop where
  equipment : f.equipment = f'.equipment
  grid : f.grid = f'.grid
  pools : f.pools = f'.pools
  currentShift : f.currentShift = f'.currentShift

variable {f f' : Fleet α σ}

omit [NormalSource σ α] in
theorem Alike.deployedPools (h : f.Alike f') (index : Nat) :
    f.deployedPools index = f'.deployedPools index := by
  unfold Fleet.deployedPools
  rw [h.equipment, h.grid, h.pools, h.currentShift]

theorem Alike.usage (h : f.Alike f') (hstd : f.equipment.truckStd ≤ 0) (slot : Slot) :
    (f.usage slot).1 = (f'.usage slot).1 := by
  unfold Fleet.usage
  rw [← h.equipment, ← h.grid]
  exact sampleUsage_of_le hstd _ _ _ _

theorem Alike.worked_pools (h : f.Alike f') (hstd : f.equipment.truckStd ≤ 0) (slot : Slot) :
    (f.worked slot).pools = (f'.worked slot).pools := by
  show (f.deployedPools slot.index).discharge (f.usage slot).1 =
    (f'.deployedPools slot.index).discharge (f'.usage slot).1
  rw [h.deployedPools, h.usage hstd]

section Hour

variable (h : f.Alike f') (hstd : f.equipment.truckStd ≤ 0) {slot : Slot} {tariff : Tariff α}

include h hstd

theorem Alike.mostStored : f.mostStored slot = f'.mostStored slot := by
  unfold Fleet.mostStored
  rw [h.equipment, h.worked_pools hstd]

theorem Alike.stored_of_planFree
    (hfree : tariff.rateStructure = .flat ∨ f.policy = .early ∧ f'.policy = .early) :
    f.stored slot tariff = f'.stored slot tariff := by
  rw [Fleet.stored_of_planFree (hfree.imp_right And.left),
    Fleet.stored_of_planFree (hfree.imp_right And.right), h.mostStored hstd]

variable (hstored : f.stored slot tariff = f'.stored slot tariff)

include hstored

/-- **One hour** that stores the same keeps fleets `Alike`. -/
theorem Alike.step : (f.step slot tariff).1.Alike (f'.step slot tariff).1 := by
  constructor
  · rw [step_equipment, step_equipment, h.equipment]
  · rw [step_grid, step_grid, h.grid]
  · rw [step_pools, step_pools, h.worked_pools hstd, hstored]
  · rw [step_currentShift, step_currentShift, h.grid]

/-- The records of such an hour differ in nothing but `step`. -/
theorem Alike.record :
    (f.step slot tariff).2.1 = { (f'.step slot tariff).2.1 with step := f.steps } := by
  have hpools : (f.step slot tariff).1.pools = (f'.step slot tariff).1.pools :=
    (h.step hstd hstored).pools
  rw [record_eq, record_eq, hpools, hstored, h.usage hstd, h.deployedPools, h.currentShift,
    h.equipment, h.grid]

end Hour

/-! ### Hours without a plan -/

/-- Under two policies, two lists of actions work the same hours under the same tariffs, and none of
them charges by a plan: the tariff is flat, or both policies are `early` by then.  Requests for
regulation may come anywhere. -/
inductive PlanFree :
    ChargingPolicy → ChargingPolicy → List (Action α) → List (Action α) → Prop where
  | nil {policy policy' : ChargingPolicy} : PlanFree policy policy' [] []
  | work {policy policy' : ChargingPolicy} {later later' : List (Action α)} (slot : Slot)
      (tariff : Tariff α)
      (hfree : tariff.rateStructure = .flat ∨ policy = .early ∧ policy' = .early)
      (hlater : PlanFree policy policy' later later') :
      PlanFree policy policy' (.work slot tariff :: later) (.work slot tariff :: later')
  | regulateLeft {policy policy' : ChargingPolicy} {later later' : List (Action α)} (kwh : α)
      (hlater : PlanFree policy policy' later later') :
      PlanFree policy policy' (.regulate kwh :: later) later'
  | regulateRight {policy policy' : ChargingPolicy} {later later' : List (Action α)} (kwh : α)
      (hlater : PlanFree policy policy' later later') :
      PlanFree policy policy' later (.regulate kwh :: later')
  | installLeft {policy policy' : ChargingPolicy} {later later' : List (Action α)}
      (next : ChargingPolicy) (hlater : PlanFree next policy' later later') :
      PlanFree policy policy' (.install next :: later) later'
  | installRight {policy policy' : ChargingPolicy} {later later' : List (Action α)}
      (next : ChargingPolicy) (hlater : PlanFree policy next later later') :
      PlanFree policy policy' later (.install next :: later')

/-- The fleets are `Alike` after an hour and its records are the same, but for `steps` between their
numbers. -/
def AlikeHour (steps : Nat) (hour hour' : Fleet α σ × HourRecord α) : Prop :=
  hour.1.Alike hour'.1 ∧ hour.2 = { hour'.2 with step := hour'.2.step + steps }

/-- **Any hours**: `Alike` fleets go on like that while the actions are `PlanFree`. -/
theorem Alike.hours {steps : Nat} {later later' : List (Action α)} {policy policy' : ChargingPolicy}
    (hfree : PlanFree policy policy' later later') (h : f.Alike f')
    (hstd : f.equipment.truckStd ≤ 0) (hpolicy : f.policy = policy) (hpolicy' : f'.policy = policy')
    (hsteps : f.steps = f'.steps + steps) :
    List.Forall₂ (AlikeHour steps) (f.hours later) (f'.hours later') := by
  -- only the hours change what is alike; the numbers of their steps keep their distance
  induction hfree generalizing f f' with
  | nil => exact .nil
  | work slot tariff hfree _ ih =>
    rw [← hpolicy, ← hpolicy'] at hfree
    have hstored : f.stored slot tariff = f'.stored slot tariff := h.stored_of_planFree hstd hfree
    refine .cons ⟨h.step hstd hstored, ?_⟩ ?_
    · rw [h.record hstd hstored, hsteps]
      rfl
    · refine ih (h.step hstd hstored) ?_ ?_ ?_ ?_
      · rwa [step_equipment]
      · rw [step_policy, hpolicy]
      · rw [step_policy, hpolicy']
      · rw [step_steps, step_steps, hsteps]
        omega
  | regulateLeft kwh _ ih =>
    exact ih ⟨h.equipment, h.grid, h.pools, h.currentShift⟩ hstd hpolicy hpolicy' hsteps
  | regulateRight kwh _ ih =>
    exact ih ⟨h.equipment, h.grid, h.pools, h.currentShift⟩ hstd hpolicy hpolicy' hsteps
  | installLeft next _ ih =>
    exact ih ⟨h.equipment, h.grid, h.pools, h.currentShift⟩ hstd rfl hpolicy' hsteps
  | installRight next _ ih =>
    exact ih ⟨h.equipment, h.grid, h.pools, h.currentShift⟩ hstd hpolicy rfl hsteps

/-! ### Saving and restoring -/

omit [NormalSource σ α] in
theorem restore_saved {slot : Slot} (hslot : f.lastSlot = some slot) (name : String)
    (e : Equipment α) (source : σ) :
    f.saved.restore name e source =
      (create name e (Grid.configure f.grid.tokens).grid f.pools source).resume f.pools
        slot.next := by
  unfold SavedState.restore saved
  rw [hslot]
  rfl

omit [NormalSource σ α] in
/-- A fleet that was `BuiltFrom` its declarations and has worked is `Alike` when it was saved and
restored. -/
theorem alike_restore_saved {e : Equipment α} (hbuilt : f.BuiltFrom e) (hstep : f.IsInStep)
    (name : String) (source : σ) : f.Alike (f.saved.restore name e source) := by
  obtain ⟨slot, hslot, hshift⟩ := hstep
  obtain ⟨tokens, htokens⟩ := hbuilt.grid
  have hgrid : (Grid.configure f.grid.tokens).grid = f.grid := by
    rw [htokens, Grid.configure_tokens]
  rw [restore_saved hslot, hgrid]
  refine ⟨hbuilt.equipment, rfl, rfl, ?_⟩
  -- the hour before the one to go on with is the last hour worked
  show f.currentShift = f.grid.shiftIdAt (Slot.ofIndex (previousHour slot.next.index)).index
  rw [hshift, Slot.index_previous_next]

/-- **Saving and restoring goes unnoticed while no charging looks at a plan.**  After any `history`
with work in it, and with `truckStd ≤ 0`, the restored fleet is `Alike`, and its `hours` are the
same but for their number. -/
theorem hours_restore_saved {e : Equipment α} (hbuilt : f.BuiltFrom e) (hstd : e.truckStd ≤ 0)
    {history : List (Action α)} (hwork : ∃ slot tariff, Action.work slot tariff ∈ history)
    (name : String) (source : σ) {later later' : List (Action α)}
    (hfree : PlanFree (f.perform history).policy
      ((f.perform history).saved.restore name e source).policy later later') :
    (f.perform history).Alike ((f.perform history).saved.restore name e source) ∧
      List.Forall₂ (AlikeHour (f.perform history).steps) ((f.perform history).hours later)
        (((f.perform history).saved.restore name e source).hours later') := by
  have hbuilt' := hbuilt.perform history
  have hstep := f.isInStep_perform hwork
  have halike := alike_restore_saved hbuilt' hstep name source
  refine ⟨halike, halike.hours hfree ?_ rfl rfl ?_⟩
  · rw [hbuilt'.equipment]
    exact hstd
  · -- a restored fleet counts its hours from zero
    obtain ⟨slot, hslot, _⟩ := hstep
    rw [restore_saved hslot]
    exact (Nat.zero_add _).symm

/-- `Equipment.default` with `truckStd` at zero. -/
def steadyEquipment : Equipment Float32 :=
  { Equipment.default with truckStd := 0 }

/-- A half charged fleet with `steadyEquipment` and the default schedule. -/
def steadyFleet : Fleet Float32 Stream :=
  create "Dockside" steadyEquipment (Grid.configure []).grid (.charged 750 0.5) (.ofSeed 7)

/-- The morning of the steady fleet: an hour under prices by the hour, and a request. -/
def steadyMorning : List (Action Float32) :=
  [.work ⟨1, 8⟩ (PriceList.timeOfUse PriceList.dayNightPrices).toTariff, .regulate 5]

/-- The steady fleet later: an hour at one price, then early charging under prices by the hour. -/
def steadyEvening : List (Action Float32) :=
  [.work ⟨1, 9⟩ PriceList.default.toTariff, .install .early,
    .work ⟨1, 10⟩ (PriceList.timeOfUse PriceList.dayNightPrices).toTariff]

theorem hours_restore_saved_steadyFleet :
    steadyFleet.BuiltFrom steadyEquipment ∧ steadyEquipment.truckStd ≤ 0 ∧
      (steadyFleet.perform steadyMorning).Alike
        ((steadyFleet.perform steadyMorning).saved.restore "Quayside" steadyEquipment (.ofSeed 8)) ∧
      List.Forall₂ (AlikeHour (steadyFleet.perform steadyMorning).steps)
        ((steadyFleet.perform steadyMorning).hours steadyEvening)
        (((steadyFleet.perform steadyMorning).saved.restore "Quayside" steadyEquipment
          (.ofSeed 8)).hours steadyEvening) := by
  have hbuilt : steadyFleet.BuiltFrom steadyEquipment := builtFrom_create _ _ _ _ _
  have hstd : steadyEquipment.truckStd ≤ 0 := by decide
  have hflat : PriceList.default.toTariff.rateStructure = .flat := by decide
  refine ⟨hbuilt, hstd, ?_⟩
  refine hours_restore_saved hbuilt hstd ⟨⟨1, 8⟩, _, List.mem_cons_self⟩ "Quayside" (.ofSeed 8) ?_
  exact .work _ _ (Or.inl hflat)
    (.installLeft _ (.installRight _ (.work _ _ (Or.inr ⟨rfl, rfl⟩) .nil)))

end Fleet

end TruckDepot
