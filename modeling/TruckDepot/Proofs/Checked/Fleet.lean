import TruckDepot.Proofs.Checked.Plan
import TruckDepot.Proofs.Checked.Sizing
import TruckDepot.Proofs.Fleet.Deployment

/-!
# A fleet whose lookups can fail

An hour's work looks up the shift of the hour: for the packs to swap, for the trucks that work, and
for what is noted down.  With the lookups that can fail an hour by any policy is the same hour on a
sound grid (`Checked.stepBy_eq`).  A fleet keeps its grid, or is restored with one that is read from
declarations, so that all that is done with it goes through (`Checked.afterDeeds_eq`).

`Grid.lookups_succeed` puts together what cannot fail on a grid that was built.
-/

namespace TruckDepot

open TruckDepot.Random

namespace Checked

variable {α σ : Type} [Quantity α]

/-! ### Setting up -/

/-- Puts back saved batteries as they were, as `Fleet.resume` does. -/
def resume (f : Fleet α σ) (pools : Pools α) (resumeAt : Slot) : Except Fault (Fleet α σ) := do
  let last := Slot.ofIndex (previousHour resumeAt.index)
  let on ← shiftIdAt f.grid last.index
  return { f with pools := pools, currentShift := on, lastSlot := some last, planCache := .empty }

/-- A fleet that has not worked yet (`Fleet.create`), and its `creationEvents`. -/
def create (name : String) (e : Equipment α) (g : Grid) (pools : Pools α) (source : σ) :
    Except Fault (Fleet α σ × List (Event α)) := do
  let (batteries, batteryEvents) ← sizedBatteries g e.truckKw e.batteryCapacity e.batteries
  let (chargers, chargerEvents) ← sizedChargers g e.truckKw e.maxChargeKw e.chargers
  let fleet : Fleet α σ :=
    { name := name
      equipment := { e with batteries := batteries, chargers := chargers }
      grid := g
      pools := pools.gather
      source := source
      currentShift := none
      planCache := .empty
      policy := .deadline
      steps := 0
      lastSlot := none
      regulation := 0 }
  return (fleet, batteryEvents ++ chargerEvents ++
    [.fleetInitialized name batteries chargers fleet.pools.energyCharging])

/-- A fleet that goes on from a saved state, as after `SavedState.restore`, and what is noted
down. -/
def restore (s : SavedState α) (name : String) (e : Equipment α) (source : σ) :
    Except Fault (Fleet α σ × List (Event α)) := do
  let configured := Grid.configure s.tokens
  let (fleet, events) ← create name e configured.grid s.pools source
  match s.resumeAt with
  | none => return (fleet, configured.events ++ events ++ [])
  | some slot =>
    let resumed ← resume fleet s.pools slot
    return (resumed, configured.events ++ events ++ [.fleetRestored name slot])

omit [Quantity α] in
theorem resume_eq (f : Fleet α σ) (pools : Pools α) (resumeAt : Slot) :
    resume f pools resumeAt = .ok (f.resume pools resumeAt) := by
  unfold resume
  dsimp only
  rw [shiftIdAt_eq]
  rfl

theorem create_eq {g : Grid} (hg : g.IsSound) (name : String) (e : Equipment α) (pools : Pools α)
    (source : σ) : create name e g pools source =
      .ok (Fleet.create name e g pools source, Fleet.creationEvents name e g pools) := by
  unfold create
  rw [sizedBatteries_eq hg, ok_bind]
  dsimp only
  rw [sizedChargers_eq hg]
  rfl

/-- `restore` succeeds: whatever tokens were saved, the grid that is read from them is sound. -/
theorem restore_eq (s : SavedState α) (name : String) (e : Equipment α) (source : σ) :
    restore s name e source = .ok (s.restore name e source, s.restoreEvents name e) := by
  have hg : (Grid.configure s.tokens).grid.IsSound := (Grid.Built.configure s.tokens).isSound
  unfold restore SavedState.restore SavedState.restoreEvents
  dsimp only
  rw [create_eq hg, ok_bind]
  dsimp only
  cases s.resumeAt with
  | none => rfl
  | some slot =>
    dsimp only
    rw [resume_eq]
    rfl

/-! ### One hour -/

/-- Swaps the batteries if another shift is on in the hour, as `Fleet.deploy` does, and what is
noted down. -/
def deploy (f : Fleet α σ) (slot : Slot) : Except Fault (Fleet α σ × List (Event α)) := do
  let on ← shiftIdAt f.grid slot.index
  if on = f.currentShift then return (f, [])
  else
    let trucks := (← shiftOf f.grid on).map Shift.trucks
    let pools := f.pools.swap trucks f.equipment.batteryCapacity
    let named ← shiftOf f.grid on
    return ({ f with pools := pools, currentShift := on },
      [.shiftChanged f.name slot named pools.energyInUse])

/-- Makes sure of an energy plan under a tariff that asks for one, as `Fleet.prepare` does. -/
def prepare (f : Fleet α σ) (index : Nat) (tariff : Tariff α) : Except Fault (Fleet α σ) := do
  if tariff.rateStructure = .flat then return f
  else
    let planCache ←
      ensure f.planCache f.grid f.equipment index f.currentShift f.pools.energyCharging
    return { f with planCache := planCache }

/-- One hour's work by a policy of any kind (`Fleet.stepBy`): the fleet after it, its record, and
what is noted down. -/
def stepBy [NormalSource σ α] (f : Fleet α σ) (policy : ChargeContext α → α) (slot : Slot)
    (tariff : Tariff α) : Except Fault (Fleet α σ × HourRecord α × List (Event α)) := do
  let on ← shiftIdAt f.grid slot.index
  let (deployed, changeEvents) ← deploy f slot
  let trucks ← trucksOf f.grid on
  let (usage, source) := sampleUsage f.equipment.truckKw f.equipment.truckStd trucks f.source
  let borrowed := deployed.pools.borrowing usage
  let worked := { deployed with pools := deployed.pools.discharge usage, source := source }
  let ready ← prepare worked slot.index tariff
  let chosen :=
    if tariff.rateStructure = .flat then
      ChargingPolicy.early.energyToStore (ready.chargeContext slot tariff [])
    else policy (ready.chargeContext slot tariff ready.planCache.plan)
  let stored := Quantity.larger chosen 0
  let pools := ready.pools.store stored
  let drawn := stored / f.equipment.chargeEfficiency
  let price := tariff.usagePrice slot
  let record : HourRecord α :=
    { step := f.steps
      slot := slot
      trucks := trucks
      shiftChanged := on != f.currentShift
      usage := usage
      borrowed := borrowed
      capacityInUse := pools.capacityInUse
      energyInUse := pools.energyInUse
      energyCharging := pools.energyCharging
      stored := stored
      drawn := drawn
      price := price
      cost := drawn * price
      rateStructure := tariff.rateStructure }
  let shortEvents : List (Event α) :=
    if 0 < borrowed then [.ranShort f.name slot borrowed worked.pools.energyCharging] else []
  let regulationEvents : List (Event α) :=
    if tariff.rateStructure = .regulation && !Quantity.isZero f.regulation then
      [.regulationNotActedOn f.name f.regulation (f.regulation * tariff.regulationRate)]
    else []
  return ({ ready with pools := pools, steps := f.steps + 1, lastSlot := some slot }, record,
    changeEvents ++ shortEvents ++ regulationEvents)

/-- The packs that are deployed are those of the shift that is looked up. -/
theorem map_trucks_shiftAt {g : Grid} (hg : g.IsSound) (index : Nat) :
    (g.shiftAt index).map Shift.trucks =
      (g.shiftIdAt index).map fun id => g.trucksOf (some id) := by
  unfold Grid.shiftAt Grid.trucksOf
  cases hid : g.shiftIdAt index with
  | none => rfl
  | some id =>
    obtain ⟨found, hfound, -⟩ := exists_shift_eq (hg index id hid)
    rw [Option.map_some, Option.bind_some, hfound]
    rfl

section Hour

variable {f : Fleet α σ} (hf : f.grid.IsSound)

include hf

theorem deploy_eq (slot : Slot) : deploy f slot =
    .ok (f.deploy slot.index,
      if f.grid.shiftIdAt slot.index = f.currentShift then []
      else
        [.shiftChanged f.name slot (f.grid.shiftAt slot.index)
          (f.deploy slot.index).pools.energyInUse]) := by
  unfold deploy Fleet.deploy
  rw [shiftIdAt_eq, ok_bind]
  dsimp only
  rw [← map_trucks_shiftAt hf]
  split_ifs
  · rfl
  · rw [shiftOf_eq hf]
    rfl

theorem prepare_eq (index : Nat) (tariff : Tariff α) :
    prepare f index tariff = .ok (f.prepare index tariff) := by
  unfold prepare Fleet.prepare
  split_ifs
  · rfl
  · rw [ensure_eq hf]
    rfl

/-- `stepBy` succeeds on a sound grid, with the events of `Fleet.step`, which do not depend on what
is stored. -/
theorem stepBy_eq [NormalSource σ α] (policy : ChargeContext α → α) (slot : Slot)
    (tariff : Tariff α) : stepBy f policy slot tariff =
      .ok ((f.stepBy policy slot tariff).1, (f.stepBy policy slot tariff).2,
        (f.step slot tariff).2.2) := by
  have hready : prepare (f.worked slot) slot.index tariff = .ok (f.ready slot tariff) :=
    prepare_eq (f := f.worked slot) hf slot.index tariff
  unfold stepBy
  rw [shiftIdAt_eq, ok_bind, deploy_eq hf, ok_bind, Fleet.events_eq, Fleet.deploy_eq]
  dsimp only
  rw [trucksOf_eq hf, ok_bind]
  show (prepare (f.worked slot) slot.index tariff >>= _) = _
  rw [hready, ok_bind]
  unfold Fleet.stepBy Fleet.storedBy
  rw [Fleet.record_eq, Fleet.step_pools]
  dsimp only
  rw [Fleet.ready_pools]
  rfl

end Hour

/-! ### Everything that is done -/

/-- The fleet after something was done with it. It is restored with the equipment `e`. -/
def afterDeed [NormalSource σ α] (e : Equipment α) (f : Fleet α σ) :
    Fleet.Deed α σ → Except Fault (Fleet α σ)
  | .act (.own (.work slot tariff)) => do
    return (← stepBy f f.policy.energyToStore slot tariff).1
  | .act (.own (.regulate kwh)) => return f.regulate kwh
  | .act (.own (.install policy)) => return f.withPolicy policy
  | .act (.workBy policy slot tariff) => do
    return (← stepBy f policy slot tariff).1
  | .reload name source => do
    return (← restore f.saved name e source).1

/-- The fleet after all that was done with it, as `Fleet.afterDeeds` is. -/
def afterDeeds [NormalSource σ α] (e : Equipment α) (f : Fleet α σ)
    (deeds : List (Fleet.Deed α σ)) : Except Fault (Fleet α σ) :=
  deeds.foldlM (afterDeed e) f

end Checked

section Deeds

variable {α σ : Type} [Quantity α] [NormalSource σ α] {f : Fleet α σ}

/-- A fleet keeps its grid or goes on with one that is read from declarations: both are `Built`. -/
theorem Fleet.built_afterDeed (hf : f.grid.Built) (e : Equipment α) (deed : Deed α σ) :
    (f.afterDeed e deed).grid.Built := by
  cases deed with
  | act action =>
    have hgrid : (f.afterDeed e (.act action)).grid = f.grid := f.actAny_grid action
    rw [hgrid]
    exact hf
  | reload name source =>
    have hgrid : (f.afterDeed e (.reload name source)).grid =
        (Grid.configure f.saved.tokens).grid := restore_grid f.saved name e source
    rw [hgrid]
    exact .configure f.saved.tokens

theorem Checked.afterDeed_eq (hf : f.grid.Built) (e : Equipment α) (deed : Fleet.Deed α σ) :
    afterDeed e f deed = .ok (f.afterDeed e deed) := by
  unfold afterDeed Fleet.afterDeed
  cases deed with
  | act action =>
    cases action with
    | own action =>
      cases action with
      | work slot tariff =>
        dsimp only
        rw [stepBy_eq hf.isSound, f.stepBy_policy]
        rfl
      | regulate kwh => rfl
      | install policy => rfl
    | workBy policy slot tariff =>
      dsimp only
      rw [stepBy_eq hf.isSound]
      rfl
  | reload name source =>
    dsimp only
    rw [restore_eq]
    rfl

theorem Checked.afterDeeds_eq (hf : f.grid.Built) (e : Equipment α)
    (deeds : List (Fleet.Deed α σ)) :
    afterDeeds e f deeds = .ok (f.afterDeeds e deeds) ∧ (f.afterDeeds e deeds).grid.Built := by
  induction deeds generalizing f with
  | nil => exact ⟨rfl, hf⟩
  | cons deed rest ih =>
    obtain ⟨hrest, hbuilt⟩ := ih (Fleet.built_afterDeed hf e deed)
    refine ⟨?_, hbuilt⟩
    unfold afterDeeds at hrest ⊢
    rw [List.foldlM_cons, afterDeed_eq hf, ok_bind, hrest]
    rfl

end Deeds

/-! ### Grids that were built -/

namespace Grid

/-- Whatever looks something up on the grid `g` comes to its result, which is that of the pure
function. -/
structure Succeeds (α σ : Type) [Quantity α] [NormalSource σ α] (g : Grid) : Prop where
  /-- What is asked of an hour. -/
  query index : Checked.shiftIdAt g index = .ok (g.shiftIdAt index) ∧
    Checked.shiftAt g index = .ok (g.shiftAt index) ∧
    Checked.trucksAt g index = .ok (g.trucksAt index)
  /-- The least count of batteries, and a count that is raised to it. -/
  batteries (truckKw batteryCapacity : α) count :
    Checked.minBatteries g truckKw batteryCapacity = .ok (g.minBatteries truckKw batteryCapacity) ∧
    Checked.sizedBatteries g truckKw batteryCapacity count =
      .ok (g.sizedBatteries truckKw batteryCapacity count,
        g.batteryEvents truckKw batteryCapacity count)
  /-- The busiest day, and a count of chargers that is raised for it. -/
  chargers (truckKw maxChargeKw : α) count : Checked.busiestDay g = .ok g.busiestDay ∧
    Checked.sizedChargers g truckKw maxChargeKw count =
      .ok (g.sizedChargers truckKw maxChargeKw count,
        g.chargerEvents truckKw maxChargeKw count)
  /-- A plan, from any hour and as far ahead as may be. -/
  project (e : Equipment α) start horizon onHand :
    Checked.project g e start horizon onHand = .ok (g.project e start horizon onHand)
  /-- A new fleet. -/
  create name (e : Equipment α) pools (source : σ) : Checked.create name e g pools source =
    .ok (Fleet.create name e g pools source, Fleet.creationEvents name e g pools)
  /-- A fleet that is put back to any hour. -/
  resume (f : Fleet α σ) (hf : f.grid = g) pools slot :
    Checked.resume f pools slot = .ok (f.resume pools slot)
  /-- An hour of work in whatever state a fleet is, by whatever policy. -/
  stepBy (f : Fleet α σ) (hf : f.grid = g) policy slot tariff :
    Checked.stepBy f policy slot tariff = .ok ((f.stepBy policy slot tariff).1,
      (f.stepBy policy slot tariff).2, (f.step slot tariff).2.2)

variable {g : Grid}

theorem IsSound.succeeds (hg : g.IsSound) (α σ : Type) [Quantity α] [NormalSource σ α] :
    g.Succeeds α σ where
  query index := ⟨Checked.shiftIdAt_eq g index, Checked.shiftAt_eq hg index,
    Checked.trucksAt_eq hg index⟩
  batteries truckKw batteryCapacity count :=
    ⟨Checked.minBatteries_eq hg truckKw batteryCapacity,
      Checked.sizedBatteries_eq hg truckKw batteryCapacity count⟩
  chargers truckKw maxChargeKw count :=
    ⟨Checked.busiestDay_eq hg, Checked.sizedChargers_eq hg truckKw maxChargeKw count⟩
  project := Checked.project_eq hg
  create := Checked.create_eq hg
  resume f _ := Checked.resume_eq f
  stepBy f hf := Checked.stepBy_eq (f := f) (hf ▸ hg)

/-- **No lookup goes out of bounds.**  On a `Built` grid, `Checked.shiftIdAt`, `Checked.ensure`,
`Checked.stepBy` and the rest never fail (`Succeeds`), before or after any `deeds`; ids are below
`g.shifts.size`, and `addAll` keeps what they stand for. -/
theorem lookups_succeed (α σ : Type) [Quantity α] [NormalSource σ α] {g : Grid} (hg : g.Built) :
    (∀ index id, g.shiftIdAt index = some id → id < g.shifts.size) ∧
      (∀ shift ∈ g.shifts, shift.start ≤ 23 ∧ 1 ≤ shift.duration ∧ shift.duration ≤ 24) ∧
      (∀ id shift, Checked.shift g id = .ok shift →
        ∀ added, Checked.shift (g.addAll added) id = .ok shift) ∧
      (∀ shift days, Checked.add g shift days = .ok (g.add shift days) ∧
        Checked.shift (g.add shift days) g.shifts.size = .ok shift) ∧
      g.Succeeds α σ ∧
      ∀ f : Fleet α σ, f.grid = g → ∀ e deeds,
        Checked.afterDeeds e f deeds = .ok (f.afterDeeds e deeds) ∧
          (f.afterDeeds e deeds).grid.Succeeds α σ := by
  refine ⟨hg.isSound, ?_, ?_, ?_, hg.isSound.succeeds α σ, ?_⟩
  · exact fun shift _ => ⟨Nat.le_of_lt_succ shift.start_lt, shift.duration_pos, shift.duration_le⟩
  · intro id shift hshift added
    rw [Checked.shift_eq_ok_iff] at hshift ⊢
    exact shift?_addAll_of_eq_some hshift added
  · intro shift days
    refine ⟨Checked.add_eq g shift days, ?_⟩
    rw [Checked.shift_eq_ok_iff]
    exact Array.getElem?_push_size
  · rintro f rfl e deeds
    obtain ⟨hafter, hbuilt⟩ := Checked.afterDeeds_eq hg e deeds
    exact ⟨hafter, hbuilt.isSound.succeeds α σ⟩

/-- `Grid.default` with a late shift of four trucks on Saturday, on day 0, which counts as Sunday,
and on day 255. -/
def lateDock : Grid :=
  Grid.default.add { start := 22, duration := 4, trucks := 4, trucks_le := by decide } [7, 0, 255]

/-- The late shift of `lateDock` on Saturday runs into the week after. -/
theorem lookups_succeed_lateDock :
    lateDock.Built ∧
      (∀ index id, lateDock.shiftIdAt index = some id → id < 4) ∧
      Checked.trucksAt lateDock 169 = .ok 4 ∧
      Checked.minBatteries lateDock Equipment.default.truckKw Equipment.default.batteryCapacity =
        .ok 14 ∧
      ∀ deeds : List (Fleet.Deed Float32 Stream), ∃ after,
        Checked.afterDeeds .default
          (Fleet.create "Dockside" .default lateDock (.charged 750 0.5) (Stream.ofSeed 7)) deeds =
            .ok after := by
  have hbuilt : lateDock.Built := Built.default.add _ _
  obtain ⟨hids, -, -, -, hsucceeds, hdeeds⟩ := lookups_succeed Float32 Stream hbuilt
  refine ⟨hbuilt, hids, ?_, ?_, ?_⟩
  · rw [(hsucceeds.query 169).2.2]
    decide +kernel
  · rw [(hsucceeds.batteries _ _ 0).1]
    decide +kernel
  · exact fun deeds => ⟨_, (hdeeds _ rfl .default deeds).1⟩

end Grid

end TruckDepot
