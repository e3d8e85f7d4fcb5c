import TruckDepot.Proofs.Fleet.Needs
import TruckDepot.Schedule.Declaration

/-!
# Looking further ahead

A plan that looks further ahead goes on where the other one stops (`Grid.segments_prefix`).  What
the shifts behind the nearer horizon fall short by can only come on top (`Equipment.carried_mono`),
so in every segment that both plans have the farther one requires no less and leaves no more over
(`Equipment.needs_mono`), and it does not overlook a shortage at the front
(`Equipment.maxSurplus_front_neg_mono`).  `Grid.project_mono` is the comparison of two plans for one
schedule.
-/

namespace TruckDepot

/-! ### More of the schedule -/

theorem Grid.segmentsWithin_prefix (g : Grid) {near far : Nat} (h : near ≤ far)
    (index elapsed : Nat) :
    g.segmentsWithin near index elapsed <+: g.segmentsWithin far index elapsed := by
  induction near generalizing far index elapsed with
  | zero => exact List.nil_prefix
  | succ near ih =>
    obtain ⟨far, rfl⟩ := Nat.exists_eq_add_of_le' (Nat.one_le_of_lt h)
    have hle : near ≤ far := Nat.le_of_succ_le_succ h
    unfold segmentsWithin
    dsimp only
    split_ifs
    · exact ih hle _ _
    · exact (List.prefix_cons_inj _).mpr (ih hle _ _)

theorem Grid.segments_prefix (g : Grid) (start : Nat) {near far : Nat} (h : near ≤ far) :
    g.segments start near <+: g.segments start far := by
  unfold segments
  exact (List.prefix_cons_inj _).mpr (g.segmentsWithin_prefix h _ 0)

/-! ### More segments -/

namespace Equipment

variable (e : Equipment Rat) {loads more : List (SegmentLoad Rat)} (h : loads <+: more)

include h

/-- With `more` segments behind, no less is `carried` back. -/
theorem carried_mono : e.carried loads ≤ e.carried more := by
  obtain ⟨⟨worst, hworst, hsum⟩, -⟩ := e.isGreatest_carried loads
  exact (e.isGreatest_carried more).2 ⟨worst, hworst.trans h, hsum⟩

/-- With `more` segments behind, a planned segment stays the same, is `required` no less and, behind
the first, has a `maxSurplus` no larger. -/
theorem needs_mono (onHand : Rat) {i : Nat} {planned : PlannedSegment Rat}
    (hplanned : (e.needs loads onHand)[i]? = some planned) :
    ∃ farther, (e.needs more onHand)[i]? = some farther ∧
      farther.endIndex = planned.endIndex ∧ farther.duration = planned.duration ∧
      farther.energyNeeded = planned.energyNeeded ∧ planned.required ≤ farther.required ∧
      (0 < i → farther.maxSurplus ≤ planned.maxSurplus) := by
  have hlength : i < loads.length := by
    rw [← e.length_needs loads onHand]
    exact (List.getElem?_eq_some_iff.mp hplanned).1
  have hload : loads[i]? = some loads[i] := List.getElem?_eq_getElem hlength
  have hmore : more[i]? = some loads[i] := List.prefix_iff_getElem?.mp h i hlength
  have hbehind : e.carried (loads.drop (i + 1)) ≤ e.carried (more.drop (i + 1)) :=
    e.carried_mono (h.drop (i + 1))
  obtain ⟨surplus, hnear, hsurplus⟩ := e.getElem?_needs onHand hload
  obtain ⟨surplus', hfar, hsurplus'⟩ := e.getElem?_needs onHand hmore
  obtain rfl := Option.some.inj (hplanned.symm.trans hnear)
  refine ⟨_, hfar, rfl, rfl, rfl, add_le_add_right hbehind _, fun hi => ?_⟩
  show surplus' ≤ surplus
  rw [hsurplus hi, hsurplus' hi, maxSurplus_plannedBefore, maxSurplus_plannedBefore,
    required_plannedBefore, required_plannedBefore]
  exact max_le_max (by linarith) le_rfl

/-- From `0 ≤ onHand`, a shortage at the front is still one with `more` segments behind. -/
theorem maxSurplus_front_neg_mono {onHand : Rat} (honHand : 0 ≤ onHand)
    {planned farther : PlannedSegment Rat} (hplanned : (e.needs loads onHand)[0]? = some planned)
    (hfarther : (e.needs more onHand)[0]? = some farther) (hshort : planned.maxSurplus < 0) :
    farther.maxSurplus < 0 := by
  have hrequired : planned.required ≤ farther.required := by
    obtain ⟨_, hmore, -, -, -, hle, -⟩ := e.needs_mono h onHand hplanned
    obtain rfl := Option.some.inj (hfarther.symm.trans hmore)
    exact hle
  cases loads with
  | nil => cases hplanned
  | cons load later =>
    -- both plans begin with the same load, and each says when it is short
    obtain ⟨rest, rfl, -⟩ := List.cons_prefix_iff.mp h
    obtain ⟨_, _, hfront, hneg, -⟩ := e.maxSurplus_front_neg_iff load later onHand
    obtain ⟨_, _, hfront', hneg', -⟩ := e.maxSurplus_front_neg_iff load rest onHand
    rw [hfront] at hplanned
    rw [hfront'] at hfarther
    obtain rfl := Option.some.inj hplanned
    obtain rfl := Option.some.inj hfarther
    have hunmet := (hneg.mp hshort).2
    exact hneg'.mpr ⟨ne_of_lt (by linarith), by linarith⟩

end Equipment

/-! ### Two plans for one schedule -/

/-- **A plan that looks further ahead extends the other one and asks for no less.**  From `near` to
`far`, `segments` is extended, `required` is no less, `maxSurplus` behind the front no more, and a
shortage at the front is kept if `0 ≤ onHand`. -/
theorem Grid.project_mono (g : Grid) (e : Equipment Rat) (start : Nat) {near far : Nat}
    (h : near ≤ far) (onHand : Rat) :
    g.segments start near <+: g.segments start far ∧
      ∀ i planned, (g.project e start near onHand)[i]? = some planned →
        ∃ farther, (g.project e start far onHand)[i]? = some farther ∧
          farther.endIndex = planned.endIndex ∧ farther.duration = planned.duration ∧
          farther.energyNeeded = planned.energyNeeded ∧ planned.required ≤ farther.required ∧
          (0 < i → farther.maxSurplus ≤ planned.maxSurplus) ∧
          (i = 0 → 0 ≤ onHand → planned.maxSurplus < 0 → farther.maxSurplus < 0) := by
  have hsegments := g.segments_prefix start h
  have hloads : g.loads e.truckKw (g.segments start near) <+:
      g.loads e.truckKw (g.segments start far) := hsegments.map _
  refine ⟨hsegments, fun i planned hplanned => ?_⟩
  obtain ⟨farther, hfarther, hend, hduration, hneeded, hrequired, hsurplus⟩ :=
    e.needs_mono hloads onHand hplanned
  refine ⟨farther, hfarther, hend, hduration, hneeded, hrequired, hsurplus, ?_⟩
  rintro rfl honHand hshort
  exact e.maxSurplus_front_neg_mono hloads honHand hplanned hfarther hshort

/-- One charger before a Monday evening: a plan of eight hours is short, and so is one of a day. -/
theorem Grid.project_mono_mondayEvening :
    let near := Grid.default.project Equipment.oneCharger 32 8 30
    let far := Grid.default.project Equipment.oneCharger 32 24 30
    8 ≤ 24 ∧ near[0]? = some ⟨40, 8, 192, 240, -162⟩ ∧ near[1]? = some ⟨48, 8, 96, 96, 0⟩ ∧
      (0 : Rat) ≤ 30 ∧ (-162 : Rat) < 0 ∧
      (∃ front, far[0]? = some front ∧ 240 ≤ front.required ∧ front.maxSurplus < 0) ∧
      0 < 1 ∧ ∃ second, far[1]? = some second ∧ 96 ≤ second.required ∧ second.maxSurplus ≤ 0 := by
  have hfront : (Grid.default.project Equipment.oneCharger 32 8 30)[0]? =
      some ⟨40, 8, 192, 240, -162⟩ := by decide +kernel
  have hsecond : (Grid.default.project Equipment.oneCharger 32 8 30)[1]? =
      some ⟨48, 8, 96, 96, 0⟩ := by decide +kernel
  obtain ⟨-, hcommon⟩ :=
    Grid.default.project_mono Equipment.oneCharger 32 (by decide : 8 ≤ 24) 30
  obtain ⟨front, hfar, -, -, -, hrequired, -, hshort⟩ := hcommon 0 _ hfront
  obtain ⟨second, hfar', -, -, -, hrequired', hsurplus, -⟩ := hcommon 1 _ hsecond
  exact ⟨by decide, hfront, hsecond, by norm_num, by norm_num,
    ⟨front, hfar, hrequired, hshort rfl (by norm_num) (by norm_num)⟩, by decide,
    second, hfar', hrequired', hsurplus (by decide)⟩

end TruckDepot
