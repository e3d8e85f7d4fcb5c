import TruckDepot.Proofs.Fleet.PlanCache
import TruckDepot.Proofs.Fleet.Resume

/-!
# Going on with a plan

A plan is not saved.  In its first priced hour a restored fleet makes a new one, where the fleet
that was never saved may go on with an old one, whose first surplus counts the energy that was on
hand when it was made.  Nothing else tells the two plans apart (`PlanCache.IsPlanOf`), and of a
surplus charging looks at nothing but its sign (`ChargingPolicy.energyToStore_planWith`).

So once both fleets agree on whether their plans can be met, they agree for good: their plans are
twins (`PlanCache.AreTwins`), one more call leaves them twins (`PlanCache.AreTwins.ensure`), and
fleets on twin plans store the same (`Fleet.Alike.stored_of_areTwins`).
`Fleet.runHours_restore_saved` puts this together, and `Fleet.stored_restore_saved_lentMorning` is a
fleet that stores less in its first hour because it was saved.
-/

namespace TruckDepot

open Quantity TruckDepot.Random

variable {α σ : Type} [Quantity α]

/-! ### Twin plans -/

namespace PlanCache

variable {g : Grid} {e : Equipment α} {c c' : PlanCache α} {last : Nat}

/-- Both caches keep the plan of the hour `index`, and they agree on whether it can be met. -/
def AreTwins (c c' : PlanCache α) (g : Grid) (e : Equipment α) (index : Nat) : Prop :=
  ∃ surplus surplus', c.IsPlanOf g e index surplus ∧ c'.IsPlanOf g e index surplus' ∧
    (surplus < 0 ↔ surplus' < 0)

/-- Whether a plan `holds` does not depend on its surplus. -/
theorem IsPlanOf.holds_eq {surplus surplus' : α} (hc : c.IsPlanOf g e last surplus)
    (hc' : c'.IsPlanOf g e last surplus') (index : Nat) (current : Option ShiftId) :
    c.holds index current = c'.holds index current := by
  unfold holds
  rw [hc.lastIndex, hc'.lastIndex, hc.nextShift, hc'.nextShift, hc.plan, hc'.plan]
  rfl

theorem ensure_eq_of_not_holds {index : Nat} {current : Option ShiftId}
    (h : c.holds (index % weekHours) current = false)
    (h' : c'.holds (index % weekHours) current = false) (onHand : α) :
    c.ensure g e index current onHand = c'.ensure g e index current onHand := by
  unfold ensure
  dsimp only
  rw [h, h']
  rfl

theorem AreTwins.ensure (h : c.AreTwins c' g e last) (index : Nat) (onHand : α) :
    (c.ensure g e index (g.shiftIdAt index) onHand).AreTwins
      (c'.ensure g e index (g.shiftIdAt index) onHand) g e index := by
  obtain ⟨surplus, surplus', hc, hc', hsign⟩ := h
  have hsame := hc.holds_eq hc' (index % weekHours) (g.shiftIdAt index)
  cases hholds : c.holds (index % weekHours) (g.shiftIdAt index) with
  -- a new plan depends on the energy on hand, which both calls are given
  | false =>
    have hholds' := hsame.symm.trans hholds
    obtain ⟨fresh, hfresh, _⟩ := isPlanOf_ensure_of_not_holds (g := g) (e := e) hholds' onHand
    rw [ensure_eq_of_not_holds hholds hholds' onHand]
    exact ⟨fresh, fresh, hfresh, hfresh, Iff.rfl⟩
  | true =>
    have hholds' := hsame.symm.trans hholds
    exact ⟨surplus, surplus', hc.ensure_of_holds hholds onHand,
      hc'.ensure_of_holds hholds' onHand, hsign⟩

end PlanCache

/-- Of the surplus of a plan, charging looks at its sign alone. -/
theorem ChargingPolicy.energyToStore_planWith (policy : ChargingPolicy) (c : ChargeContext α)
    (g : Grid) (e : Equipment α) (horizon index : Nat) {surplus surplus' : α}
    (hsign : surplus < 0 ↔ surplus' < 0) :
    policy.energyToStore { c with plan := g.planWith e horizon index surplus } =
      policy.energyToStore { c with plan := g.planWith e horizon index surplus' } := by
  cases policy with
  | early => rfl
  | deadline =>
    unfold energyToStore Grid.planWith
    dsimp only
    rw [decide_eq_decide.mpr hsign]
    rfl

/-! ### Fleets on a plan -/

namespace Fleet

variable [NormalSource σ α] {f f' : Fleet α σ} {slot : Slot} {tariff : Tariff α}

/-- The cache of the fleet is `empty`, or has the plan of some hour (`IsPlanOf`). -/
def KeepsPlan (f : Fleet α σ) : Prop :=
  f.planCache = .empty ∨ ∃ index surplus, f.planCache.IsPlanOf f.grid f.equipment index surplus

/-- The plan that an hour is charged by cannot be met: its first `maxSurplus` is below zero. -/
def seesShortage (f : Fleet α σ) (slot : Slot) (tariff : Tariff α) : Bool :=
  (f.ready slot tariff).planCache.plan.head?.any fun front => front.maxSurplus < 0

omit [NormalSource σ α] in
theorem Fresh.keepsPlan (h : f.Fresh) : f.KeepsPlan :=
  Or.inl h.planCache

/-- In a priced hour a fleet has the plan of the hour. -/
theorem KeepsPlan.ready (h : f.KeepsPlan) (slot : Slot) (hpriced : tariff.rateStructure ≠ .flat) :
    ∃ surplus, (f.ready slot tariff).planCache.IsPlanOf f.grid f.equipment slot.index surplus := by
  rw [ready_planCache _ _ _ hpriced]
  rcases h with hempty | ⟨last, surplus, hplan⟩
  · have hnone : f.planCache.holds (slot.index % weekHours) (f.grid.shiftIdAt slot.index) =
        false := by
      rw [hempty]
      rfl
    obtain ⟨surplus, hfresh, _⟩ := PlanCache.isPlanOf_ensure_of_not_holds (g := f.grid)
      (e := f.equipment) hnone (f.worked slot).pools.energyCharging
    exact ⟨surplus, hfresh⟩
  · obtain ⟨surplus', hkept, _⟩ := hplan.ensure slot.index (f.worked slot).pools.energyCharging
    exact ⟨surplus', hkept⟩

theorem KeepsPlan.act (h : f.KeepsPlan) (action : Action α) : (f.act action).KeepsPlan := by
  cases action with
  | work slot tariff =>
    show (f.step slot tariff).1.KeepsPlan
    unfold KeepsPlan
    rw [step_planCache, step_grid, step_equipment]
    by_cases hflat : tariff.rateStructure = .flat
    · rw [ready_planCache_of_flat _ _ _ hflat]
      exact h
    · exact Or.inr ⟨slot.index, h.ready slot hflat⟩
  | regulate kwh => exact h
  | install policy => exact h

theorem KeepsPlan.perform (h : f.KeepsPlan) (actions : List (Action α)) :
    (f.perform actions).KeepsPlan := by
  induction actions generalizing f with
  | nil => exact h
  | cons action rest ih => exact ih (h.act action)

theorem seesShortage_eq {surplus : α}
    (h : (f.ready slot tariff).planCache.IsPlanOf f.grid f.equipment slot.index surplus) :
    f.seesShortage slot tariff = decide (surplus < 0) := by
  unfold seesShortage
  rw [h.plan]
  rfl

/-! ### Fleets on twin plans -/

theorem Alike.stored_of_areTwins (h : f.Alike f') (hstd : f.equipment.truckStd ≤ 0)
    (hpolicy : f.policy = f'.policy) (hpriced : tariff.rateStructure ≠ .flat)
    (htwins : (f.ready slot tariff).planCache.AreTwins (f'.ready slot tariff).planCache f.grid
      f.equipment slot.index) : f.stored slot tariff = f'.stored slot tariff := by
  obtain ⟨surplus, surplus', hplan, hplan', hsign⟩ := htwins
  unfold Fleet.stored energyToStore chargeContext
  rw [if_neg hpriced, if_neg hpriced, ready_policy, ready_policy, ready_equipment, ready_equipment,
    ready_pools, ready_pools, hplan.plan, hplan'.plan, hpolicy, h.equipment, h.worked_pools hstd]
  exact congrArg (larger · 0)
    (f'.policy.energyToStore_planWith ⟨slot, f'.equipment, (f'.worked slot).pools, [], tariff⟩ _ _
      _ _ hsign)

/-- The fleets are `Alike`, charge by the same policy and keep twin plans. -/
structure OnTwinPlans (f f' : Fleet α σ) : Prop extends f.Alike f' where
  policy : f.policy = f'.policy
  plans : ∃ index, f.planCache.AreTwins f'.planCache f.grid f.equipment index

theorem Alike.onTwinPlans_step (h : f.Alike f') (hstd : f.equipment.truckStd ≤ 0)
    (hpolicy : f.policy = f'.policy) (hstored : f.stored slot tariff = f'.stored slot tariff)
    {index : Nat} (htwins : (f.ready slot tariff).planCache.AreTwins
      (f'.ready slot tariff).planCache f.grid f.equipment index) :
    (f.step slot tariff).1.OnTwinPlans (f'.step slot tariff).1 := by
  refine ⟨h.step hstd hstored, ?_, index, ?_⟩
  · rw [step_policy, step_policy, hpolicy]
  · rw [step_planCache, step_planCache, step_grid, step_equipment]
    exact htwins

theorem OnTwinPlans.step (h : f.OnTwinPlans f') (hstd : f.equipment.truckStd ≤ 0) (slot : Slot)
    (tariff : Tariff α) :
    f.stored slot tariff = f'.stored slot tariff ∧
      (f.step slot tariff).1.OnTwinPlans (f'.step slot tariff).1 := by
  have halike := h.toAlike
  obtain ⟨last, htwins⟩ := h.plans
  by_cases hflat : tariff.rateStructure = .flat
  -- at one price all the time no plan is looked at and none is made
  · have hstored : f.stored slot tariff = f'.stored slot tariff :=
      halike.stored_of_planFree hstd (Or.inl hflat)
    have hready : (f.ready slot tariff).planCache.AreTwins (f'.ready slot tariff).planCache f.grid
        f.equipment last := by
      rw [ready_planCache_of_flat _ _ _ hflat, ready_planCache_of_flat _ _ _ hflat]
      exact htwins
    exact ⟨hstored, halike.onTwinPlans_step hstd h.policy hstored hready⟩
  · have hready : (f.ready slot tariff).planCache.AreTwins (f'.ready slot tariff).planCache f.grid
        f.equipment slot.index := by
      rw [ready_planCache _ _ _ hflat, ready_planCache _ _ _ hflat, ← halike.grid,
        ← halike.equipment, ← halike.worked_pools hstd]
      exact htwins.ensure slot.index _
    have hstored := halike.stored_of_areTwins hstd h.policy hflat hready
    exact ⟨hstored, halike.onTwinPlans_step hstd h.policy hstored hready⟩

/-- The records differ in nothing but the number of the hour, by `steps`. -/
def AlikeRecord (steps : Nat) (r r' : HourRecord α) : Prop :=
  r = { r' with step := r'.step + steps }

theorem Alike.alikeRecord_step (h : f.Alike f') (hstd : f.equipment.truckStd ≤ 0)
    (hstored : f.stored slot tariff = f'.stored slot tariff) {steps : Nat}
    (hsteps : f.steps = f'.steps + steps) :
    AlikeRecord steps (f.step slot tariff).2.1 (f'.step slot tariff).2.1 := by
  unfold AlikeRecord
  rw [h.record hstd hstored, hsteps]
  rfl

theorem OnTwinPlans.runHours (h : f.OnTwinPlans f') (hstd : f.equipment.truckStd ≤ 0) {steps : Nat}
    (hsteps : f.steps = f'.steps + steps) (hours : List (Slot × Tariff α)) :
    List.Forall₂ (AlikeRecord steps) (f.runHours hours).2.1 (f'.runHours hours).2.1 := by
  induction hours generalizing f f' with
  | nil => exact .nil
  | cons hour rest ih =>
    obtain ⟨slot, tariff⟩ := hour
    obtain ⟨hstored, hnext⟩ := h.step hstd slot tariff
    rw [records_cons, records_cons]
    refine .cons (h.toAlike.alikeRecord_step hstd hstored hsteps) (ih hnext ?_ ?_)
    · rwa [step_equipment]
    · rw [step_steps, step_steps, hsteps]
      omega

/-! ### The first priced hour -/

section FirstHour

variable (h : f.Alike f') (hstd : f.equipment.truckStd ≤ 0) (hpriced : tariff.rateStructure ≠ .flat)

include h hpriced

theorem Alike.areTwins_ready (hplan : f.KeepsPlan) (hplan' : f'.KeepsPlan)
    (hsame : f.seesShortage slot tariff = f'.seesShortage slot tariff) :
    (f.ready slot tariff).planCache.AreTwins (f'.ready slot tariff).planCache f.grid f.equipment
      slot.index := by
  obtain ⟨surplus, hready⟩ := hplan.ready slot hpriced
  obtain ⟨surplus', hready'⟩ := hplan'.ready slot hpriced
  rw [seesShortage_eq hready, seesShortage_eq hready', decide_eq_decide] at hsame
  rw [← h.grid, ← h.equipment] at hready'
  exact ⟨surplus, surplus', hready, hready', hsame⟩

include hstd

theorem Alike.seesShortage_of_not_holds
    (hfresh : f.planCache.holds slot.index (f.grid.shiftIdAt slot.index) = false)
    (hfresh' : f'.planCache.holds slot.index (f.grid.shiftIdAt slot.index) = false) :
    f.seesShortage slot tariff = f'.seesShortage slot tariff := by
  have hindex : slot.index % weekHours = slot.index := Nat.mod_eq_of_lt slot.index_lt
  rw [← hindex, Grid.shiftIdAt_mod] at hfresh hfresh'
  unfold seesShortage
  rw [ready_planCache _ _ _ hpriced, ready_planCache _ _ _ hpriced, ← h.grid, ← h.equipment,
    ← h.worked_pools hstd, PlanCache.ensure_eq_of_not_holds hfresh hfresh']

theorem Alike.runHours (hpolicy : f.policy = f'.policy) (hplan : f.KeepsPlan)
    (hplan' : f'.KeepsPlan) {steps : Nat} (hsteps : f.steps = f'.steps + steps)
    (hsame : f.seesShortage slot tariff = f'.seesShortage slot tariff)
    (hours : List (Slot × Tariff α)) :
    List.Forall₂ (AlikeRecord steps) (f.runHours ((slot, tariff) :: hours)).2.1
      (f'.runHours ((slot, tariff) :: hours)).2.1 := by
  have htwins := h.areTwins_ready hpriced hplan hplan' hsame
  have hstored := h.stored_of_areTwins hstd hpolicy hpriced htwins
  have hnext := h.onTwinPlans_step hstd hpolicy hstored htwins
  rw [records_cons, records_cons]
  refine .cons (h.alikeRecord_step hstd hstored hsteps) (hnext.runHours ?_ ?_ hours)
  · rwa [step_equipment]
  · rw [step_steps, step_steps, hsteps]
    omega

end FirstHour

/-! ### Saving and restoring -/

omit [NormalSource σ α] in
/-- A fleet that is `Fresh` and `BuiltFrom` the equipment `e`. -/
structure Begun (e : Equipment α) (f : Fleet α σ) : Prop extends f.BuiltFrom e where
  fresh : f.Fresh

omit [NormalSource σ α] in
theorem begun_create (name : String) (e : Equipment α) (tokens : List String) (pools : Pools α)
    (source : σ) : Begun e (create name e (Grid.configure tokens).grid pools source) :=
  ⟨builtFrom_create name e tokens pools source, .created name e _ pools source⟩

omit [NormalSource σ α] in
theorem begun_restore (s : SavedState α) (name : String) (e : Equipment α) (source : σ) :
    Begun e (s.restore name e source) :=
  ⟨builtFrom_restore s name e source, .restored s name e source⟩

omit [NormalSource σ α] in
/-- A fleet that has worked is restored with deadline charging, no plan, and no hours counted. -/
theorem start_restore_saved (h : f.IsInStep) (name : String) (e : Equipment α) (source : σ) :
    (f.saved.restore name e source).policy = .deadline ∧
      (f.saved.restore name e source).planCache = .empty ∧
      (f.saved.restore name e source).steps = 0 := by
  obtain ⟨slot, hslot, _⟩ := h
  rw [restore_saved hslot]
  exact ⟨rfl, rfl, rfl⟩

/-- **A restored fleet goes on like the live one if both plans agree in sign.**  If `live` and
`resumed` agree on `seesShortage` in the first priced hour, all records are `AlikeRecord`; they do
where no plan `holds`, and `borrowed` and `energyInUse` agree in any case. -/
theorem runHours_restore_saved {e : Equipment α} (hbegun : Begun e f) (hstd : e.truckStd ≤ 0)
    {history : List (Action α)} (hwork : ∃ slot tariff, Action.work slot tariff ∈ history)
    (hpolicy : (f.perform history).policy = .deadline) (name : String) (source : σ) (slot : Slot)
    (hpriced : tariff.rateStructure ≠ .flat) (hours : List (Slot × Tariff α)) :
    let live := f.perform history
    let resumed := live.saved.restore name e source
    (live.seesShortage slot tariff = resumed.seesShortage slot tariff →
        List.Forall₂ (AlikeRecord live.steps) (live.runHours ((slot, tariff) :: hours)).2.1
          (resumed.runHours ((slot, tariff) :: hours)).2.1) ∧
      (live.planCache.holds slot.index (live.grid.shiftIdAt slot.index) = false →
        live.seesShortage slot tariff = resumed.seesShortage slot tariff) ∧
      (live.step slot tariff).2.1.borrowed = (resumed.step slot tariff).2.1.borrowed ∧
      (live.step slot tariff).2.1.energyInUse = (resumed.step slot tariff).2.1.energyInUse := by
  intro live resumed
  have hbuilt : live.BuiltFrom e := hbegun.toBuiltFrom.perform history
  have hstep : live.IsInStep := f.isInStep_perform hwork
  have hplan : live.KeepsPlan := hbegun.fresh.keepsPlan.perform history
  have hplan' : resumed.KeepsPlan := (Fresh.restored live.saved name e source).keepsPlan
  have halike : live.Alike resumed := alike_restore_saved hbuilt hstep name source
  have hsteady : live.equipment.truckStd ≤ 0 := by
    rw [hbuilt.equipment]
    exact hstd
  obtain ⟨hdeadline, hempty, hcount⟩ := start_restore_saved hstep name e source
  refine ⟨?_, ?_, ?_, ?_⟩
  · have hsteps : live.steps = resumed.steps + live.steps := by
      rw [hcount, Nat.zero_add]
    exact fun hsame => halike.runHours hsteady hpriced (hpolicy.trans hdeadline.symm) hplan hplan'
      hsteps hsame hours
  · intro hfresh
    refine halike.seesShortage_of_not_holds hsteady hpriced hfresh ?_
    rw [hempty]
    rfl
  -- what the trucks do comes before any charging
  · rw [record_eq, record_eq, halike.usage hsteady, halike.deployedPools]
  · rw [record_eq, record_eq, step_pools, step_pools, halike.worked_pools hsteady]
    rfl

/-- Prices that are low at night and high in the afternoon. -/
def dayNight : Tariff Float32 :=
  (PriceList.timeOfUse PriceList.dayNightPrices).toTariff

/-- `steadyFleet` at nine, with the plan that it made at eight. -/
def steadyNine : Fleet Float32 Stream :=
  steadyFleet.perform steadyMorning

/-- `steadyNine`, saved and restored. -/
def restoredNine : Fleet Float32 Stream :=
  steadyNine.saved.restore "Quayside" steadyEquipment (.ofSeed 8)

/-- The hours of `steadyNine` from ten on. -/
def steadyForenoon : List (Slot × Tariff Float32) :=
  [(⟨1, 10⟩, dayNight), (⟨1, 11⟩, PriceList.default.toTariff)]

/-- In the middle of a shift the plan of `steadyNine` still holds, with a surplus of 144 kWh, and
`restoredNine` makes one with 150 kWh: neither plan is short, and the hours from nine on are the
same. -/
theorem runHours_restore_saved_steadyFleet :
    steadyEquipment.truckStd ≤ 0 ∧ steadyNine.policy = .deadline ∧
      dayNight.rateStructure ≠ .flat ∧
      steadyNine.planCache.holds (Slot.mk 1 9).index
        (steadyNine.grid.shiftIdAt (Slot.mk 1 9).index) = true ∧
      steadyNine.seesShortage ⟨1, 9⟩ dayNight = false ∧
      restoredNine.seesShortage ⟨1, 9⟩ dayNight = false ∧
      List.Forall₂ (AlikeRecord steadyNine.steps)
        (steadyNine.runHours ((⟨1, 9⟩, dayNight) :: steadyForenoon)).2.1
        (restoredNine.runHours ((⟨1, 9⟩, dayNight) :: steadyForenoon)).2.1 := by
  have hbegun : Begun steadyEquipment steadyFleet := begun_create _ _ _ _ _
  have hstd : steadyEquipment.truckStd ≤ 0 := by decide
  have hwork : ∃ slot tariff, Action.work slot tariff ∈ steadyMorning :=
    ⟨⟨1, 8⟩, _, List.mem_cons_self⟩
  have hpriced : dayNight.rateStructure ≠ .flat := by decide
  -- evaluated together, since all four look at the same two fleets
  obtain ⟨hpolicy, hholds, hlive, hrestored⟩ : steadyNine.policy = .deadline ∧
      steadyNine.planCache.holds (Slot.mk 1 9).index
        (steadyNine.grid.shiftIdAt (Slot.mk 1 9).index) = true ∧
      steadyNine.seesShortage ⟨1, 9⟩ dayNight = false ∧
      restoredNine.seesShortage ⟨1, 9⟩ dayNight = false := by
    decide +kernel
  obtain ⟨hgo, -⟩ := runHours_restore_saved hbegun hstd hwork hpolicy "Quayside" (.ofSeed 8) ⟨1, 9⟩
    hpriced steadyForenoon
  have hagree := hlive.trans hrestored.symm
  refine ⟨hstd, hpolicy, hpriced, hholds, hlive, hrestored, ?_⟩
  unfold restoredNine steadyNine at hagree ⊢
  exact hgo hagree

/-- `Equipment.default` with `truckStd` at zero, and hardly more packs than a shift of ten needs. -/
def thirteenPacks : Equipment Float32 :=
  { Equipment.default with truckStd := 0, batteries := 13 }

/-- A Monday with ten trucks from eight to eleven and two after that. -/
def tenThenTwo : Grid :=
  (Grid.configure ["block", "2", "shift", "8", "3", "10", "shift", "11", "12", "2"]).grid

/-- One price, and a payment for regulation. -/
def paidRegulation : Tariff Float32 :=
  (PriceList.regulation 0.1 0.02).toTariff

/-- A fleet on `tenThenTwo`, mostly charged, when it has worked from eight to nine. -/
def lentMorning : Fleet Float32 Stream :=
  (create "Dockside" thirteenPacks tenThenTwo ⟨0, 0, 530⟩ (.ofSeed 1)).perform
    [.work ⟨2, 8⟩ paidRegulation]

/-- `lentMorning`, saved at nine and restored. -/
def restoredMorning : Fleet Float32 Stream :=
  lentMorning.saved.restore "Dockside" thirteenPacks (.ofSeed 1)

theorem thirteenPacks_sizedFor : thirteenPacks.sizedFor tenThenTwo = thirteenPacks := by
  decide +kernel

theorem create_thirteenPacks (pools : Pools Float32) :
    create "Dockside" thirteenPacks tenThenTwo pools (Stream.ofSeed 1) =
      ⟨"Dockside", thirteenPacks, tenThenTwo, pools.gather, .ofSeed 1, none, .empty, .deadline, 0,
        none, 0⟩ := by
  unfold create
  rw [thirteenPacks_sizedFor]

theorem restoredMorning_eq : restoredMorning =
    (create "Dockside" thirteenPacks tenThenTwo lentMorning.pools (.ofSeed 1)).resume
      lentMorning.pools ⟨2, 9⟩ := by
  have hslot : lentMorning.lastSlot = some ⟨2, 8⟩ := by decide +kernel
  -- working leaves the schedule alone, which is read again from its own tokens
  have hgrid : (Grid.configure lentMorning.grid.tokens).grid = tenThenTwo := by
    unfold lentMorning
    rw [perform_grid]
    show (Grid.configure tenThenTwo.tokens).grid = tenThenTwo
    unfold tenThenTwo
    rw [Grid.configure_tokens]
  have hnext : (Slot.mk 2 8).next = ⟨2, 9⟩ := by decide
  unfold restoredMorning
  rw [restore_saved hslot, hgrid, hnext]

/-- At eight the plan for eleven cannot be met, and by nine it could be: `restoredMorning` sees so
and stores its share of 33 kWh, while `lentMorning` goes on with its old plan and stores 48 kWh. -/
theorem stored_restore_saved_lentMorning :
    lentMorning.policy = .deadline ∧ thirteenPacks.truckStd ≤ 0 ∧
      (lentMorning.step ⟨2, 9⟩ paidRegulation).2.1.stored = 48 ∧
      (restoredMorning.step ⟨2, 9⟩ paidRegulation).2.1.stored = 33 ∧
      (lentMorning.step ⟨2, 9⟩ paidRegulation).2.1.energyCharging ≠
        (restoredMorning.step ⟨2, 9⟩ paidRegulation).2.1.energyCharging := by
  rw [restoredMorning_eq, create_thirteenPacks]
  unfold lentMorning
  rw [create_thirteenPacks]
  decide +kernel

end Fleet

end TruckDepot
