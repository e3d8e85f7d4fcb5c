import TruckDepot.Proofs.Fleet.AnyPolicy

/-!
# Work does not depend on charging

Which trucks work, when batteries are swapped and how much energy is used follow from the schedule,
the trucks' use of energy and the source of noise alone.  `Grid.workLog` works hours on nothing but
these, and `Fleet.works_performAny` says that it is what every fleet does, by whatever policies and
under whatever tariffs.  Two fleets that differ in their batteries and chargers, in how they are
billed and in how they charge therefore use the same energy in the same hours and leave the same
noise behind (`Fleet.works_recordsAny_eq`).
-/

namespace TruckDepot

open TruckDepot.Random

/-! ### Work -/

/-- What is seen of the trucks in an hour. -/
structure Work (α : Type) where
  /-- Trucks working. -/
  trucks : Nat
  /-- Batteries were swapped at the start of the hour. -/
  shiftChanged : Bool
  /-- Energy that the trucks used. -/
  usage : α
  deriving DecidableEq, Repr

/-- What the record of an hour tells of the trucks. -/
def HourRecord.work {α : Type} (r : HourRecord α) : Work α :=
  ⟨r.trucks, r.shiftChanged, r.usage⟩

variable {α σ : Type} [Quantity α] [NormalSource σ α]

/-- The work of some hours, one after the other, and the source of noise after them: `sampleUsage`
and `shiftIdAt`, and nothing of batteries, chargers or tariffs. -/
def Grid.workLog (g : Grid) (truckKw truckStd : α) (current : Option ShiftId) (source : σ) :
    List Slot → List (Work α) × σ
  | [] => ([], source)
  | slot :: slots =>
    let hour := sampleUsage truckKw truckStd (g.trucksAt slot.index) source
    let later := g.workLog truckKw truckStd (g.shiftIdAt slot.index) hour.2 slots
    (⟨g.trucksAt slot.index, g.shiftIdAt slot.index != current, hour.1⟩ :: later.1, later.2)

theorem sampleUsage_zero (truckKw truckStd : α) (source : σ) :
    sampleUsage truckKw truckStd 0 source = (0, source) :=
  if_pos rfl

namespace Fleet

variable (f : Fleet α σ)

/-! ### One hour -/

theorem work_stepBy (policy : ChargeContext α → α) (slot : Slot) (tariff : Tariff α) :
    (f.stepBy policy slot tariff).2.work =
      ⟨f.grid.trucksAt slot.index, f.grid.shiftIdAt slot.index != f.currentShift,
        (f.usage slot).1⟩ := by
  rw [record_stepBy, record_eq]
  rfl

theorem source_actAny_of_idle {action : AnyAction α} {slot : Slot}
    (hslot : action.slot? = some slot) (hidle : f.grid.trucksAt slot.index = 0) :
    (f.actAny action).source = f.source := by
  rcases f.actAny_cases action with ⟨hnone, -, -⟩ | ⟨policy, slot', tariff, hslot', hafter, -⟩
  · rw [hnone] at hslot
    cases hslot
  · obtain rfl : slot' = slot := Option.some.inj (hslot'.symm.trans hslot)
    rw [hafter, stepBy_source]
    unfold usage
    rw [hidle, sampleUsage_zero]

/-! ### Any actions -/

/-- **The work of a fleet**, and the noise that it leaves, are those of `workLog` on its
schedule. -/
theorem works_performAny (actions : List (AnyAction α)) :
    f.grid.workLog f.equipment.truckKw f.equipment.truckStd f.currentShift f.source
        (actions.filterMap AnyAction.slot?) =
      ((f.recordsAny actions).map HourRecord.work, (f.performAny actions).source) := by
  -- an hour passes on the shift and the source of noise, and anything else leaves them as they were
  induction actions generalizing f with
  | nil => rfl
  | cons action rest ih =>
    rw [performAny_cons, List.filterMap_cons]
    unfold recordsAny
    rcases f.actAny_cases action with
      ⟨hslot, hrecord, policy, regulation, hafter⟩ | ⟨policy, slot, tariff, hslot, hafter, hrecord⟩
    · have hrest := ih (f.actAny action)
      rw [hafter] at hrest
      rw [hslot, hrecord, hafter]
      exact hrest
    · have hrest := ih (f.actAny action)
      rw [hafter, stepBy_grid, stepBy_equipment, stepBy_currentShift, stepBy_source] at hrest
      rw [hslot, hrecord, hafter, Option.toList_some, List.singleton_append, List.map_cons,
        work_stepBy]
      show (_ :: (f.grid.workLog _ _ (f.grid.shiftIdAt slot.index) (f.usage slot).2 _).1,
        (f.grid.workLog _ _ (f.grid.shiftIdAt slot.index) (f.usage slot).2 _).2) = _
      rw [hrest]
      rfl

/-- **Charging does not bear on work.**  Fleets that agree in `g`, `truckKw`, `truckStd` and
`source` have the same `HourRecord.work` in the same hours and leave the same `source`, of which an
hour without trucks draws nothing. -/
theorem works_recordsAny_eq (name name' : String) {e e' : Equipment α}
    (hkw : e.truckKw = e'.truckKw) (hstd : e.truckStd = e'.truckStd) (g : Grid)
    (pools pools' : Pools α) (source : σ) {actions actions' : List (AnyAction α)}
    (hslots : actions.filterMap AnyAction.slot? = actions'.filterMap AnyAction.slot?) :
    let f := create name e g pools source
    let f' := create name' e' g pools' source
    (f.recordsAny actions).map HourRecord.work = (f'.recordsAny actions').map HourRecord.work ∧
      (f.performAny actions).source = (f'.performAny actions').source ∧
      ∀ action slot, action.slot? = some slot → g.trucksAt slot.index = 0 →
        ((f.performAny actions).actAny action).source = (f.performAny actions).source := by
  intro f f'
  have hwork := f.works_performAny actions
  have hwork' := f'.works_performAny actions'
  -- both logs start on the same schedule with no shift yet, so they are one
  have hsame : f.grid.workLog f.equipment.truckKw f.equipment.truckStd f.currentShift f.source
      (actions.filterMap AnyAction.slot?) =
      f'.grid.workLog f'.equipment.truckKw f'.equipment.truckStd f'.currentShift f'.source
        (actions'.filterMap AnyAction.slot?) := by
    show g.workLog e.truckKw e.truckStd none source _ =
      g.workLog e'.truckKw e'.truckStd none source _
    rw [hkw, hstd, hslots]
  rw [hwork, hwork'] at hsame
  obtain ⟨hworks, hsource⟩ := Prod.mk.inj hsame
  refine ⟨hworks, hsource, ?_⟩
  intro action slot hslot hidle
  have hgrid : (f.performAny actions).grid = g := f.performAny_grid actions
  refine source_actAny_of_idle _ hslot ?_
  rw [hgrid]
  exact hidle

/-- A depot with few packs, but large ones, and with strong chargers. -/
def fewLargePacks : Equipment Float32 :=
  { Equipment.default with
    batteryCapacity := 120
    batteries := 4
    chargers := 2
    maxChargeKw := 22
    chargeEfficiency := 0.8
    planningHorizon := 12 }

/-- A Sunday with a shift of three trucks and then one without any. -/
def quietNoon : Grid :=
  (Grid.configure ["block", "1", "shift", "8", "4", "3", "shift", "12", "4", "0"]).grid

/-- Hours of that Sunday at one price. -/
def plainSunday : List (AnyAction Float32) :=
  [.own (.work ⟨1, 8⟩ PriceList.default.toTariff), .own (.work ⟨1, 13⟩ PriceList.default.toTariff),
    .own (.work ⟨1, 9⟩ PriceList.default.toTariff)]

/-- The same hours under prices by the hour, half of what can be stored at first and all of it
later, with a request in between. -/
def busySunday : List (AnyAction Float32) :=
  let tariff := (PriceList.timeOfUse PriceList.dayNightPrices).toTariff
  [.workBy (fun c => c.maxStore / 2) ⟨1, 8⟩ tariff, .own (.regulate 5), .own (.work ⟨1, 13⟩ tariff),
    .own (.install .early), .own (.work ⟨1, 9⟩ tariff)]

theorem works_recordsAny_eq_quietNoon :
    let f : Fleet Float32 Stream :=
      create "Dockside" .default quietNoon (.charged 750 0.5) (.ofSeed 7)
    let f' : Fleet Float32 Stream :=
      create "Quayside" fewLargePacks quietNoon ⟨0, 10, -40⟩ (.ofSeed 7)
    Equipment.default.truckKw = fewLargePacks.truckKw ∧
      Equipment.default.truckStd = fewLargePacks.truckStd ∧
      plainSunday.filterMap AnyAction.slot? = busySunday.filterMap AnyAction.slot? ∧
      quietNoon.trucksAt (Slot.mk 1 14).index = 0 ∧
      (f.recordsAny plainSunday).map HourRecord.work =
        (f'.recordsAny busySunday).map HourRecord.work ∧
      (f.performAny plainSunday).source = (f'.performAny busySunday).source ∧
      ((f.performAny plainSunday).actAny
        (.own (.work ⟨1, 14⟩ PriceList.default.toTariff))).source =
          (f.performAny plainSunday).source := by
  intro f f'
  have hkw : Equipment.default.truckKw = fewLargePacks.truckKw := rfl
  have hstd : Equipment.default.truckStd = fewLargePacks.truckStd := rfl
  have hslots : plainSunday.filterMap AnyAction.slot? = busySunday.filterMap AnyAction.slot? := rfl
  have hidle : quietNoon.trucksAt (Slot.mk 1 14).index = 0 := by decide +kernel
  obtain ⟨hworks, hsource, hquiet⟩ := works_recordsAny_eq "Dockside" "Quayside" hkw hstd quietNoon
    (.charged 750 0.5) ⟨0, 10, -40⟩ (Stream.ofSeed 7) hslots
  exact ⟨hkw, hstd, hslots, hidle, hworks, hsource, hquiet _ ⟨1, 14⟩ rfl hidle⟩

end Fleet

end TruckDepot
