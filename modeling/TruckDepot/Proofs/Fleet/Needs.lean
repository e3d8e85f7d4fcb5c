import Mathlib.Algebra.BigOperators.Group.List.Basic
import Mathlib.Data.List.Infix
import Mathlib.Order.Bounds.Basic
import Mathlib.Tactic.Linarith
import Mathlib.Tactic.Ring
import TruckDepot.Fleet.Exact
import TruckDepot.Proofs.Fleet.Plan
import TruckDepot.Proofs.Quantity.Rational

/-!
# What has to be on hand

What a plan requires at the end of a segment is exactly what has to be on hand there
(`Equipment.required_needs`): the energy of the shift that follows, and the most that any number of
the segments after it fall short by (`Equipment.isGreatest_carried`).  With that much the shifts
behind can all be served, and with less they cannot (`Equipment.canServe_iff`).

The surplus of the first segment tells whether the plan can be met, save where the segment can
charge exactly what it requires (`Equipment.maxSurplus_front_neg_iff`).
-/

namespace TruckDepot.Equipment

open Quantity

variable (e : Equipment Rat)

/-! ### The shortage that is carried back -/

/-- What the shift after a segment takes beyond what is `available` in it; below zero where more
is. -/
def shortfall (load : SegmentLoad Rat) : Rat :=
  load.needed - e.available load

/-- The sums of `shortfall` over the first of `loads`, for any number of them. -/
def shortfallSums (loads : List (SegmentLoad Rat)) : Set Rat :=
  {x | ∃ first, first <+: loads ∧ (first.map e.shortfall).sum = x}

/-- The shortage that `loads` carry back to the segment before them. -/
def carried (loads : List (SegmentLoad Rat)) : Rat :=
  (loads.foldr e.addSegment ([], 0)).2

variable (load : SegmentLoad Rat) (later : List (SegmentLoad Rat))

theorem carried_cons :
    e.carried (load :: later) = max (e.shortfall load + e.carried later) 0 := by
  have hbalance : -e.balance load (e.carried later) = e.shortfall load + e.carried later := by
    unfold balance shortfall
    ring
  show larger (-e.balance load (e.carried later)) 0 = _
  rw [larger_eq_max, hbalance]

theorem carried_nonneg (loads : List (SegmentLoad Rat)) : 0 ≤ e.carried loads := by
  cases loads with
  | nil => exact le_rfl
  | cons load later =>
    rw [carried_cons]
    exact le_max_right _ _

theorem isGreatest_carried (loads : List (SegmentLoad Rat)) :
    IsGreatest (e.shortfallSums loads) (e.carried loads) := by
  induction loads with
  | nil =>
    refine ⟨⟨[], List.nil_prefix, rfl⟩, ?_⟩
    rintro x ⟨first, hfirst, rfl⟩
    rw [List.prefix_nil.mp hfirst]
    exact le_rfl
  | cons load later ih =>
    obtain ⟨⟨worst, hworst, hsum⟩, hgreatest⟩ := ih
    rw [carried_cons]
    constructor
    · -- the clamp at zero stands for taking no segment at all
      rcases le_total (e.shortfall load + e.carried later) 0 with h | h
      · rw [max_eq_right h]
        exact ⟨[], List.nil_prefix, rfl⟩
      · rw [max_eq_left h]
        refine ⟨load :: worst, List.prefix_cons_inj load |>.mpr hworst, ?_⟩
        rw [List.map_cons, List.sum_cons, hsum]
    · rintro x ⟨first, hfirst, rfl⟩
      rcases List.prefix_cons_iff.mp hfirst with rfl | ⟨rest, rfl, hrest⟩
      · exact le_max_right _ _
      · have hle : (rest.map e.shortfall).sum ≤ e.carried later := hgreatest ⟨rest, hrest, rfl⟩
        rw [List.map_cons, List.sum_cons]
        exact le_max_of_le_left (by linarith)

/-! ### Serving the shifts to come -/

/-- A pool with some energy can serve the shifts after `loads`: in every segment it is charged with
no more than is `available`, and at its end it has what the following shift takes. -/
def CanServe : List (SegmentLoad Rat) → Rat → Prop
  | [], _ => True
  | load :: later, energy =>
    ∃ charged, 0 ≤ charged ∧ charged ≤ e.available load ∧ 0 ≤ energy + charged - load.needed ∧
      CanServe later (energy + charged - load.needed)

theorem canServe_iff {loads : List (SegmentLoad Rat)}
    (havailable : ∀ load ∈ loads, 0 ≤ e.available load) {energy : Rat} (henergy : 0 ≤ energy) :
    e.CanServe loads energy ↔ e.carried loads ≤ energy := by
  induction loads generalizing energy with
  | nil => exact ⟨fun _ => henergy, fun _ => trivial⟩
  | cons load later ih =>
    have hload := havailable load List.mem_cons_self
    have hlater := fun l hl => havailable l (List.mem_cons_of_mem _ hl)
    rw [carried_cons, max_le_iff]
    unfold CanServe shortfall
    constructor
    · -- however much is charged, what is left has to cover the rest
      rintro ⟨charged, -, hcharged, hleft, hserve⟩
      have hcarried := (ih hlater hleft).mp hserve
      exact ⟨by linarith, henergy⟩
    · -- charging all that can be charged serves best
      rintro ⟨hshort, -⟩
      have hnonneg := e.carried_nonneg later
      have hleft : 0 ≤ energy + e.available load - load.needed := by linarith
      exact ⟨e.available load, hload, le_rfl, hleft, (ih hlater hleft).mpr (by linarith)⟩

/-! ### The plan, segment by segment -/

/-- A segment of the plan, in front of a `shortage` that is carried back to it. -/
def plannedBefore (shortage : Rat) : PlannedSegment Rat :=
  { endIndex := load.endIndex
    duration := load.duration
    energyNeeded := load.needed
    required := load.needed + shortage
    maxSurplus := larger (e.balance load shortage) 0 }

theorem required_plannedBefore (shortage : Rat) :
    (e.plannedBefore load shortage).required = load.needed + shortage :=
  rfl

theorem maxSurplus_plannedBefore (shortage : Rat) :
    (e.plannedBefore load shortage).maxSurplus =
      max (e.available load - (e.plannedBefore load shortage).required) 0 := by
  show larger (e.available load - load.needed - shortage) 0 = _
  rw [larger_eq_max, sub_sub, required_plannedBefore]

theorem needs_cons (onHand : Rat) :
    e.needs (load :: later) onHand =
      credit onHand (e.carried (load :: later)) (e.plannedBefore load (e.carried later)) ::
        (later.foldr e.addSegment ([], 0)).1 :=
  rfl

theorem length_foldr_addSegment (loads : List (SegmentLoad Rat)) :
    (loads.foldr e.addSegment ([], 0)).1.length = loads.length := by
  induction loads with
  | nil => rfl
  | cons load later ih =>
    rw [List.length_cons, ← ih]
    rfl

theorem getElem?_foldr_addSegment {loads : List (SegmentLoad Rat)} {i : Nat}
    {load : SegmentLoad Rat} (hload : loads[i]? = some load) :
    (loads.foldr e.addSegment ([], 0)).1[i]? =
      some (e.plannedBefore load (e.carried (loads.drop (i + 1)))) := by
  induction loads generalizing i with
  | nil => cases hload
  | cons first later ih =>
    cases i with
    | zero =>
      obtain rfl := Option.some.inj hload
      rfl
    | succ i => exact ih hload

/-- Every segment is `plannedBefore` what the segments after it carry back; only the first surplus
depends on `onHand`. -/
theorem getElem?_needs {loads : List (SegmentLoad Rat)} (onHand : Rat) {i : Nat}
    {load : SegmentLoad Rat} (hload : loads[i]? = some load) :
    ∃ surplus, (e.needs loads onHand)[i]? =
        some { e.plannedBefore load (e.carried (loads.drop (i + 1))) with maxSurplus := surplus } ∧
      (0 < i → surplus = (e.plannedBefore load (e.carried (loads.drop (i + 1)))).maxSurplus) := by
  cases loads with
  | nil => cases hload
  | cons first later =>
    rw [needs_cons]
    cases i with
    | zero =>
      obtain rfl := Option.some.inj hload
      obtain ⟨surplus, hcredit⟩ := credit_eq onHand (e.carried (first :: later))
        (e.plannedBefore first (e.carried later))
      refine ⟨surplus, congrArg some hcredit, ?_⟩
      intro h
      exact absurd h (lt_irrefl 0)
    | succ i => exact ⟨_, e.getElem?_foldr_addSegment hload, fun _ => rfl⟩

theorem length_needs (loads : List (SegmentLoad Rat)) (onHand : Rat) :
    (e.needs loads onHand).length = loads.length := by
  cases loads with
  | nil => rfl
  | cons load later =>
    rw [needs_cons, List.length_cons, List.length_cons, length_foldr_addSegment]

/-- **A plan says what has to be on hand.**  `required` is `load.needed` and the greatest of the
`shortfallSums` behind it, and `maxSurplus` is what is `available` beyond; with `energy` all that
follows can be served if and only if `planned.required ≤ energy`. -/
theorem required_needs {loads : List (SegmentLoad Rat)}
    (havailable : ∀ load ∈ loads, 0 ≤ e.available load) (onHand : Rat) {i : Nat}
    {load : SegmentLoad Rat} (hload : loads[i]? = some load) :
    (e.needs loads onHand).length = loads.length ∧
      ∃ planned, (e.needs loads onHand)[i]? = some planned ∧
        planned.energyNeeded = load.needed ∧
        (∃ worst, IsGreatest (e.shortfallSums (loads.drop (i + 1))) worst ∧
          planned.required = load.needed + worst) ∧
        (0 < i → planned.maxSurplus = max (e.available load - planned.required) 0) ∧
        ∀ energy, 0 ≤ energy - load.needed ∧
            e.CanServe (loads.drop (i + 1)) (energy - load.needed) ↔
          planned.required ≤ energy := by
  set later := loads.drop (i + 1) with hlater
  obtain ⟨surplus, hplanned, hsurplus⟩ := e.getElem?_needs onHand hload
  refine ⟨e.length_needs loads onHand, _, hplanned, rfl, ?_, ?_, ?_⟩
  · exact ⟨e.carried later, e.isGreatest_carried later, rfl⟩
  · intro hi
    show surplus = _
    rw [hsurplus hi, maxSurplus_plannedBefore]
  · intro energy
    show _ ↔ load.needed + e.carried later ≤ energy
    -- once the following shift is served, `later` has to be with what is left
    have hcharge : ∀ l ∈ later, 0 ≤ e.available l :=
      fun l hl => havailable l (List.mem_of_mem_drop hl)
    have hnonneg := e.carried_nonneg later
    constructor
    · rintro ⟨hleft, hserve⟩
      have hcarried := (e.canServe_iff hcharge hleft).mp hserve
      linarith
    · intro hrequired
      have hleft : 0 ≤ energy - load.needed := by linarith
      exact ⟨hleft, (e.canServe_iff hcharge hleft).mpr (by linarith)⟩

/-- `Equipment.exact` with one charger. -/
def oneCharger : Equipment Rat :=
  { Equipment.exact with chargers := 1 }

/-- A spare night, and three segments that cannot charge what the shift after them takes. -/
def strainedDays : List (SegmentLoad Rat) :=
  [⟨32, 20, 0, 40⟩, ⟨40, 8, 8, 96⟩, ⟨56, 16, 6, 192⟩, ⟨64, 8, 3, 100⟩]

theorem required_needs_strainedDays :
    (∀ load ∈ strainedDays, 0 ≤ oneCharger.available load) ∧
      ∃ planned, (oneCharger.needs strainedDays 100)[1]? = some planned ∧
        planned.required = 244 ∧ planned.maxSurplus = 0 ∧
        IsGreatest (oneCharger.shortfallSums (strainedDays.drop 2)) 148 ∧
        oneCharger.CanServe (strainedDays.drop 2) (244 - 96) ∧
        ¬ oneCharger.CanServe (strainedDays.drop 2) (243 - 96) := by
  have havailable : ∀ load ∈ strainedDays, 0 ≤ oneCharger.available load := by decide +kernel
  have hload : strainedDays[1]? = some ⟨40, 8, 8, 96⟩ := rfl
  have hsecond : (oneCharger.needs strainedDays 100)[1]? = some ⟨40, 8, 96, 244, 0⟩ := by
    decide +kernel
  obtain ⟨-, planned, hplanned, -, ⟨worst, hworst, hrequired⟩, -, hserve⟩ :=
    oneCharger.required_needs havailable 100 hload
  obtain rfl : ⟨40, 8, 96, 244, 0⟩ = planned := Option.some.inj (hsecond.symm.trans hplanned)
  obtain rfl : 148 = worst := by linarith
  refine ⟨havailable, _, hplanned, rfl, rfl, hworst, ((hserve 244).mpr le_rfl).2, ?_⟩
  intro h
  exact absurd ((hserve 243).mp ⟨by norm_num, h⟩) (by norm_num)

/-! ### The first segment -/

theorem required_credit (onHand shortage : Rat) (first : PlannedSegment Rat) :
    (credit onHand shortage first).required = first.required := by
  obtain ⟨surplus, hcredit⟩ := credit_eq onHand shortage first
  rw [hcredit]

/-- The first surplus is `onHand` and what is `available` less what is required, and `0` where the
charging alone is just what is required. -/
theorem maxSurplus_credit (onHand : Rat) :
    (credit onHand (e.carried (load :: later))
        (e.plannedBefore load (e.carried later))).maxSurplus =
      if e.available load = load.needed + e.carried later then 0
      else onHand + e.available load - (load.needed + e.carried later) := by
  have hsurplus := e.maxSurplus_plannedBefore load (e.carried later)
  have hcarried := e.carried_cons load later
  rw [required_plannedBefore] at hsurplus
  rw [show e.shortfall load + e.carried later =
    load.needed + e.carried later - e.available load by unfold shortfall; ring] at hcarried
  unfold credit
  rcases lt_trichotomy (e.available load) (load.needed + e.carried later) with
    hshort | hexact | hspare
  · rw [max_eq_right (by linarith)] at hsurplus
    rw [max_eq_left (by linarith)] at hcarried
    rw [if_neg hsurplus.not_gt, if_pos (by linarith), if_neg hshort.ne, hcarried]
    ring
  · -- neither a surplus nor a shortage is left to put the energy on hand to
    rw [hexact, sub_self, max_self] at hsurplus hcarried
    rw [if_neg hsurplus.not_gt, if_neg hcarried.not_gt, if_pos hexact, hsurplus]
  · rw [max_eq_left (by linarith)] at hsurplus
    rw [if_pos (by linarith), if_neg hspare.ne', hsurplus]
    ring

/-- **The first surplus tells whether a plan can be met**: it is below zero exactly if `onHand` and
what is `available` are less than `required`, unless what is `available` alone is just that, where
it is zero. -/
theorem maxSurplus_front_neg_iff (onHand : Rat) :
    ∃ front rest, e.needs (load :: later) onHand = front :: rest ∧
      (front.maxSurplus < 0 ↔ e.available load ≠ front.required ∧
        onHand + e.available load < front.required) ∧
      (e.available load = front.required → front.maxSurplus = 0) := by
  refine ⟨_, _, e.needs_cons load later onHand, ?_⟩
  rw [maxSurplus_credit, required_credit, required_plannedBefore]
  split_ifs with hexact
  · exact ⟨iff_of_false (lt_irrefl 0) fun h => h.1 hexact, fun _ => rfl⟩
  · refine ⟨?_, fun h => absurd h hexact⟩
    rw [sub_neg]
    exact ⟨fun h => ⟨hexact, h⟩, fun h => h.2⟩

/-- `Equipment.exact` with two chargers. -/
def twoChargers : Equipment Rat :=
  { Equipment.exact with chargers := 2 }

/-- A segment in which two chargers supply just what the shift after it takes. -/
def balancedNight : SegmentLoad Rat :=
  ⟨0, 16, 0, 192⟩

/-- With a debt on hand the plan for `balancedNight` cannot be met, but its surplus is zero. -/
theorem maxSurplus_front_balancedNight :
    0 ≤ twoChargers.maxChargeKw ∧ ∃ front, twoChargers.needs [balancedNight] (-50) = [front] ∧
      -50 + twoChargers.available balancedNight < front.required ∧ ¬ front.maxSurplus < 0 :=
  ⟨by decide +kernel, ⟨0, 16, 192, 192, 0⟩, by decide +kernel⟩

end TruckDepot.Equipment
