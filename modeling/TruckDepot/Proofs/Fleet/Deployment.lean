import Mathlib.Data.List.Induction
import TruckDepot.Proofs.Fleet.AnyPolicy
import TruckDepot.Proofs.Fleet.Pools
import TruckDepot.Proofs.Fleet.Resume

/-!
# The packs that are deployed

The packs in the trucks are always those of the shift at the last hour worked.  Batteries are
swapped only when the shift is another one than before, so this has to hold through everything that
is done with a fleet, and a fleet that is restored has to know the shift that its packs were
deployed for.  `Fleet.IsDeployed` is what is kept, `Fleet.IsDeployed.workedBy` that an hour keeps it
from any shift to any other, and `Fleet.IsDeployed.reload` that saving and restoring keeps it.

`Fleet.isDeployed_afterDeeds` is the invariant of a fleet's life, and `Fleet.deployed_afterDeeds`
what it says of the next hour.
-/

namespace TruckDepot

open Quantity TruckDepot.Random

variable {α σ : Type} [Quantity α]

/-! ### Capacity of a shift -/

/-- The nameplate capacity of the packs that are deployed for `shift`; none while no shift is on. -/
def Grid.capacityOf (g : Grid) (batteryCapacity : α) (shift : Option ShiftId) : α :=
  if shift = none then 0 else ofNat (g.trucksOf shift) * batteryCapacity

theorem Pools.capacityInUse_swap (p : Pools α) (g : Grid) (batteryCapacity : α)
    (shift : Option ShiftId) :
    (p.swap (shift.map fun id => g.trucksOf (some id)) batteryCapacity).capacityInUse =
      g.capacityOf batteryCapacity shift := by
  cases shift with
  | none => rfl
  | some id => rfl

namespace Fleet

/-! ### A fleet's life -/

/-- Something that is done with a fleet, which may be saved and restored as well. -/
inductive Deed (α σ : Type) where
  /-- It works by some policy, or something else is done with it. -/
  | act (action : AnyAction α)
  /-- It is saved and restored, under a name and with a source of noise. -/
  | reload (name : String) (source : σ)

/-- The `slot` that is worked, if one is. -/
def Deed.slot? : Deed α σ → Option Slot
  | .act action => action.slot?
  | .reload _ _ => none

/-- The last of the `slot?` of some deeds, if any hour is worked. -/
def lastSlotOf (deeds : List (Deed α σ)) : Option Slot :=
  (deeds.filterMap Deed.slot?).getLast?

variable [NormalSource σ α]

/-- The fleet after something was done with it.  It is restored with the equipment `e`. -/
def afterDeed (e : Equipment α) (f : Fleet α σ) : Deed α σ → Fleet α σ
  | .act action => f.actAny action
  | .reload name source => f.saved.restore name e source

/-- The fleet after every one of `deeds`, restored with the equipment `e`. -/
def afterDeeds (e : Equipment α) (f : Fleet α σ) (deeds : List (Deed α σ)) : Fleet α σ :=
  deeds.foldl (afterDeed e) f

omit [Quantity α] [NormalSource σ α] in
theorem lastSlotOf_concat (deeds : List (Deed α σ)) (deed : Deed α σ) :
    lastSlotOf (deeds ++ [deed]) = deed.slot?.or (lastSlotOf deeds) := by
  unfold lastSlotOf
  rw [List.filterMap_append, List.getLast?_append]
  cases hslot : deed.slot? with
  | none => simp [hslot]
  | some slot => simp [hslot]

/-! ### The invariant -/

/-- A fleet with the equipment `e` on the schedule `g` has the packs deployed for the shift of the
hour `last` that it worked, and none if it never worked. -/
structure IsDeployed (f : Fleet α σ) (e : Equipment α) (g : Grid) (last : Option Slot) : Prop where
  grid : f.grid = g
  equipment : f.equipment = e.sizedFor g
  /-- A fleet that was restored knows the hour, but not the bytes that it was given for it. -/
  lastSlot : f.lastSlot.map Slot.index = last.map Slot.index
  currentShift : f.currentShift = last.bind fun slot => g.shiftIdAt slot.index
  capacityInUse : f.pools.capacityInUse = g.capacityOf e.batteryCapacity f.currentShift

omit [NormalSource σ α] in
theorem isDeployed_create (name : String) (e : Equipment α) (g : Grid) (pools : Pools α)
    (source : σ) : (create name e g pools source).IsDeployed e g none :=
  ⟨rfl, rfl, rfl, rfl, rfl⟩

variable {f : Fleet α σ} {e : Equipment α} {g : Grid} {last : Option Slot}

theorem IsDeployed.capacityInUse_worked (h : f.IsDeployed e g last) (slot : Slot) :
    (f.worked slot).pools.capacityInUse =
      g.capacityOf e.batteryCapacity (g.shiftIdAt slot.index) := by
  have hcapacity : f.equipment.batteryCapacity = e.batteryCapacity := by
    rw [h.equipment]
    rfl
  show ((f.deployedPools slot.index).discharge (f.usage slot).1).capacityInUse = _
  rw [Pools.capacityInUse_discharge]
  unfold deployedPools
  rw [h.grid, hcapacity]
  split_ifs with hsame
  -- where the shift goes on, its packs have been in the trucks before
  · rw [h.capacityInUse, hsame]
  · exact f.pools.capacityInUse_swap g e.batteryCapacity _

theorem IsDeployed.workedBy (h : f.IsDeployed e g last) (policy : ChargeContext α → α)
    (slot : Slot) (tariff : Tariff α) :
    (f.stepBy policy slot tariff).1.IsDeployed e g (some slot) := by
  have hshift : (f.stepBy policy slot tariff).1.currentShift = g.shiftIdAt slot.index := by
    rw [stepBy_currentShift, h.grid]
  constructor
  · rw [stepBy_grid, h.grid]
  · rw [stepBy_equipment, h.equipment]
  · rfl
  · exact hshift
  · rw [stepBy_pools, hshift]
    exact h.capacityInUse_worked slot

theorem IsDeployed.act (h : f.IsDeployed e g last) (action : AnyAction α) :
    (f.actAny action).IsDeployed e g (action.slot?.or last) := by
  rcases f.actAny_cases action with
    ⟨hslot, -, policy, regulation, hafter⟩ | ⟨policy, slot, tariff, hslot, hafter, -⟩
  · rw [hslot, hafter]
    exact ⟨h.grid, h.equipment, h.lastSlot, h.currentShift, h.capacityInUse⟩
  · rw [hslot, hafter]
    exact h.workedBy policy slot tariff

omit [NormalSource σ α] in
theorem IsDeployed.eq_create (h : f.IsDeployed e g last) (hnever : f.lastSlot = none)
    (hread : (Grid.configure g.tokens).grid = g) (name : String) (source : σ) :
    last = none ∧ f.saved.restore name e source = create name e g f.pools source := by
  have hindex := h.lastSlot
  rw [hnever] at hindex
  refine ⟨Option.map_eq_none_iff.mp hindex.symm, ?_⟩
  unfold SavedState.restore saved
  rw [hnever, h.grid, hread]
  rfl

omit [NormalSource σ α] in
/-- `restore` keeps `IsDeployed`: the schedule is read again from its own tokens, and the hour
before `resumeAt` is the last one worked. -/
theorem IsDeployed.reload (h : f.IsDeployed e g last)
    (hread : (Grid.configure g.tokens).grid = g) (name : String) (source : σ) :
    (f.saved.restore name e source).IsDeployed e g last := by
  cases hslot : f.lastSlot with
  | none =>
    obtain ⟨hlast, hnew⟩ := h.eq_create hslot hread name source
    rw [hnew, hlast]
    exact isDeployed_create name e g f.pools source
  | some slot =>
    -- `slot` and `lastSlot` are one hour of the week, maybe by different bytes
    have hindices := h.lastSlot
    rw [hslot] at hindices
    obtain ⟨lastSlot, hlast, hindex⟩ := Option.map_eq_some_iff.mp hindices.symm
    have hprevious := slot.index_previous_next
    have hshift : f.currentShift = g.shiftIdAt slot.index := by
      rw [h.currentShift, hlast, ← hindex]
      rfl
    rw [restore_saved hslot, h.grid, hread, hlast]
    constructor
    · rfl
    · rfl
    · show some (Slot.ofIndex (previousHour slot.next.index)).index = some lastSlot.index
      rw [hprevious, hindex]
    · show g.shiftIdAt (Slot.ofIndex (previousHour slot.next.index)).index =
        g.shiftIdAt lastSlot.index
      rw [hprevious, hindex]
    · show f.pools.capacityInUse = g.capacityOf e.batteryCapacity
        (g.shiftIdAt (Slot.ofIndex (previousHour slot.next.index)).index)
      rw [hprevious, h.capacityInUse, hshift]

/-! ### Everything that is done -/

/-- **Any deeds** keep a new fleet `IsDeployed`, if it is never restored or its schedule can be read
again. -/
theorem isDeployed_afterDeeds (name : String) (e : Equipment α) (g : Grid) (pools : Pools α)
    (source : σ) {deeds : List (Deed α σ)}
    (hgrid : (∀ name source, Deed.reload name source ∉ deeds) ∨
      ∃ tokens, g = (Grid.configure tokens).grid) :
    ((create name e g pools source).afterDeeds e deeds).IsDeployed e g (lastSlotOf deeds) := by
  induction deeds using List.reverseRecOn with
  | nil => exact isDeployed_create name e g pools source
  | append_singleton deeds deed ih =>
    have hbefore := ih (hgrid.imp_left fun hnone name source hmem =>
      hnone name source (List.mem_append_left _ hmem))
    unfold afterDeeds at hbefore ⊢
    rw [List.foldl_append, lastSlotOf_concat]
    cases deed with
    | act action => exact hbefore.act action
    | reload name' source' =>
      have hread : (Grid.configure g.tokens).grid = g := by
        rcases hgrid with hnone | ⟨tokens, rfl⟩
        · exact absurd (List.mem_append_right _ List.mem_cons_self) (hnone name' source')
        · exact Grid.configure_tokens tokens
      exact hbefore.reload hread name' source'

/-- **The packs that are deployed are those of the schedule.**  After any `deeds` and an hour,
`currentShift` is the `shift` of that hour and `capacityInUse` is `trucksAt` times
`batteryCapacity`; `shiftChanged` if and only if `lastSlotOf deeds` had another shift. -/
theorem deployed_afterDeeds (name : String) (e : Equipment α) (g : Grid) (pools : Pools α)
    (source : σ) {deeds : List (Deed α σ)}
    (hgrid : (∀ name source, Deed.reload name source ∉ deeds) ∨
      ∃ tokens, g = (Grid.configure tokens).grid)
    {action : AnyAction α} {slot : Slot} (hslot : action.slot? = some slot) :
    let f := (create name e g pools source).afterDeeds e deeds
    let shift := g.shiftIdAt slot.index
    let capacity := if shift = none then 0 else ofNat (g.trucksAt slot.index) * e.batteryCapacity
    (f.actAny action).currentShift = shift ∧
      (f.actAny action).pools.capacityInUse = capacity ∧
      ∃ r, f.record? action = some r ∧ r.trucks = g.trucksAt slot.index ∧
        r.capacityInUse = capacity ∧
        (r.shiftChanged = true ↔
          shift ≠ (lastSlotOf deeds).bind fun last => g.shiftIdAt last.index) := by
  intro f shift capacity
  have hf : f.IsDeployed e g (lastSlotOf deeds) := isDeployed_afterDeeds name e g pools source hgrid
  rcases f.actAny_cases action with ⟨hnone, -, -⟩ | ⟨policy, slot', tariff, hslot', hafter, hrecord⟩
  · rw [hnone] at hslot
    cases hslot
  -- the action is an hour by some policy
  obtain rfl : slot' = slot := Option.some.inj (hslot'.symm.trans hslot)
  have hworked : (f.worked slot').pools.capacityInUse = capacity := hf.capacityInUse_worked slot'
  refine ⟨?_, ?_, _, hrecord, ?_, ?_, ?_⟩
  · rw [hafter, stepBy_currentShift, hf.grid]
  · rw [hafter, stepBy_pools]
    exact hworked
  · rw [record_stepBy, record_eq, hf.grid]
  · rw [record_stepBy, record_eq, step_pools]
    exact hworked
  · rw [record_stepBy, record_eq, hf.grid, hf.currentShift]
    exact bne_iff_ne

/-- Three trucks in the nights after Saturday and Sunday. -/
def nightDock : Grid :=
  (Grid.configure ["block", "1", "7", "shift", "22", "4", "3"]).grid

/-- An hour of a Saturday night, and a `reload` after it; the fleet that is restored will charge
early. -/
def saturdayNight : List (Deed Float32 Stream) :=
  [.act (.own (.work ⟨7, 23⟩ PriceList.default.toTariff)), .reload "Quayside" (.ofSeed 8),
    .act (.own (.install .early))]

/-- On `nightDock`, one o'clock after Saturday is Sunday morning, in the same shift. -/
theorem deployed_afterDeeds_nightDock :
    let f := (create "Dockside" .default nightDock (.charged 750 0.5) (Stream.ofSeed 7)).afterDeeds
      .default saturdayNight
    let action : AnyAction Float32 :=
      .workBy (fun c => c.maxStore / 2) ⟨8, 1⟩ PriceList.default.toTariff
    (∃ tokens, nightDock = (Grid.configure tokens).grid) ∧ action.slot? = some ⟨8, 1⟩ ∧
      (f.actAny action).currentShift = some 0 ∧ (f.actAny action).pools.capacityInUse = 150 ∧
      ∃ r, f.record? action = some r ∧ r.trucks = 3 ∧ r.capacityInUse = 150 ∧
        r.shiftChanged = false := by
  intro f action
  have hgrid : ∃ tokens, nightDock = (Grid.configure tokens).grid := ⟨_, rfl⟩
  have hslot : action.slot? = some ⟨8, 1⟩ := rfl
  have hlast : lastSlotOf saturdayNight = some ⟨7, 23⟩ := rfl
  have hshift : nightDock.shiftIdAt (Slot.mk 8 1).index = some 0 := by decide +kernel
  have hbefore : nightDock.shiftIdAt (Slot.mk 7 23).index = some 0 := by decide +kernel
  have htrucks : nightDock.trucksAt (Slot.mk 8 1).index = 3 := by decide +kernel
  have hcapacity : ofNat 3 * Equipment.default.batteryCapacity = 150 := by decide +kernel
  obtain ⟨hcurrent, hpacks, r, hr, hworking, hnoted, hchanged⟩ := deployed_afterDeeds "Dockside"
    .default nightDock (.charged 750 0.5) (Stream.ofSeed 7) (Or.inr hgrid) hslot
  rw [hshift, htrucks, if_neg nofun, hcapacity] at hpacks hnoted
  rw [hshift, hlast, Option.bind_some, hbefore, ne_self_iff_false, iff_false,
    Bool.not_eq_true] at hchanged
  rw [hshift] at hcurrent
  rw [htrucks] at hworking
  exact ⟨hgrid, hslot, hcurrent, hpacks, r, hr, hworking, hnoted, hchanged⟩

end Fleet

end TruckDepot
