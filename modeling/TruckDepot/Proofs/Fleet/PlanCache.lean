import Mathlib.Data.List.Induction
import TruckDepot.Fleet.PlanCache
import TruckDepot.Proofs.Fleet.Plan

/-!
# A kept plan is the plan of the hour

Whatever calls a cache has seen, in whatever order, the plan that it gives for an hour is the plan
that would be made afresh for that hour, but for the surplus of the first segment, which may be the
one of an earlier call (`PlanCache.plan_ensure_after`).

A cache decides from the last hour and the next shift alone whether its plan still holds.
`PlanCache.IsPlanOf` is what it keeps, and `IsPlanOf.ensure` says that one more call keeps it: a
plan that holds is the plan of the hour before, in a shift that goes on, and there an hour that
passes takes an hour off the first segment and changes nothing else (`tickFirst_planWith`).
-/

namespace TruckDepot.PlanCache

variable {α : Type} [Quantity α] {g : Grid} {e : Equipment α}

/-! ### One call -/

/-- While the shift goes on, `tickFirst` turns `planWith` of an hour into that of the next one. -/
theorem tickFirst_planWith {index : Nat} (h : g.shiftIdAt (index + 1) = g.shiftIdAt index)
    (hg : ¬ g.Uniform) (horizon : Nat) (surplus : α) :
    tickFirst (g.planWith e horizon index surplus) =
      g.planWith e horizon (nextHour index) surplus := by
  have hhours := Grid.hoursToChange_nextHour h hg
  unfold Grid.planWith tickFirst PlannedSegment.tick
  dsimp only
  rw [Grid.nextChange_nextHour h hg, ← hhours, Nat.add_sub_cancel]

/-- The cache keeps the plan of the hour `index`, with `surplus` in its first segment. -/
structure IsPlanOf (c : PlanCache α) (g : Grid) (e : Equipment α) (index : Nat) (surplus : α) :
    Prop where
  /-- The hour is the one of the last call. -/
  lastIndex : c.lastIndex = some (index % weekHours)
  /-- The next shift is the one that begins at the next change. -/
  nextShift : c.nextShift = g.shiftIdAt (g.nextChange index)
  /-- The plan is the one of the hour. -/
  plan : c.plan = g.planWith e e.planningHorizon index surplus

/-- Where the plan does not hold, `ensure` makes a new one, whatever was kept. -/
theorem isPlanOf_ensure_of_not_holds {c : PlanCache α} {index : Nat} {current : Option ShiftId}
    (h : c.holds (index % weekHours) current = false) (onHand : α) :
    ∃ surplus, (c.ensure g e index current onHand).IsPlanOf g e index surplus ∧
      g.project e index e.planningHorizon onHand =
        g.planWith e e.planningHorizon index surplus := by
  obtain ⟨surplus, hplan⟩ := g.project_eq_planWith e index e.planningHorizon onHand
  have hmod := g.project_congr e e.planningHorizon onHand (Nat.mod_mod index weekHours)
  refine ⟨surplus, ?_, hplan⟩
  unfold ensure
  dsimp only
  rw [h, hmod, hplan]
  exact ⟨rfl, rfl, rfl⟩

/-- A plan that holds is the plan of the hour before, in a shift that goes on. -/
theorem IsPlanOf.of_holds {c : PlanCache α} {last : Nat} {surplus : α}
    (hc : c.IsPlanOf g e last surplus) {index : Nat}
    (h : c.holds (index % weekHours) (g.shiftIdAt index) = true) :
    nextHour last = index % weekHours ∧ g.shiftIdAt (last + 1) = g.shiftIdAt last ∧
      ¬ g.Uniform := by
  unfold holds at h
  rw [hc.lastIndex, hc.nextShift] at h
  simp only [Option.any_some, Bool.and_eq_true, beq_iff_eq, bne_iff_ne] at h
  obtain ⟨⟨hnext, _⟩, hshift⟩ := h
  have hlast : nextHour last = index % weekHours := by
    rw [← hnext, nextHour_eq, nextHour_eq, Nat.mod_add_mod]
  refine ⟨hlast, Grid.shiftIdAt_succ_of_nextChange ?_⟩
  rwa [hlast, Grid.shiftIdAt_mod]

/-- A plan that holds is kept, an hour on, with its `surplus`. -/
theorem IsPlanOf.ensure_of_holds {c : PlanCache α} {last : Nat} {surplus : α}
    (hc : c.IsPlanOf g e last surplus) {index : Nat}
    (h : c.holds (index % weekHours) (g.shiftIdAt index) = true) (onHand : α) :
    (c.ensure g e index (g.shiftIdAt index) onHand).IsPlanOf g e index surplus := by
  obtain ⟨hlast, hsame, hg⟩ := hc.of_holds h
  unfold PlanCache.ensure
  dsimp only
  rw [h, hc.plan, tickFirst_planWith hsame hg, hlast]
  refine ⟨rfl, ?_, ?_⟩
  · show c.nextShift = _
    rw [hc.nextShift, ← Grid.nextChange_nextHour hsame hg, hlast,
      g.nextChange_congr (Nat.mod_mod _ _)]
  · exact g.planWith_congr e e.planningHorizon surplus (Nat.mod_mod _ _)

/-- **One more call** keeps the plan of its hour, with the same surplus or that of a new plan. -/
theorem IsPlanOf.ensure {c : PlanCache α} {last : Nat} {surplus : α}
    (hc : c.IsPlanOf g e last surplus) (index : Nat) (onHand : α) :
    ∃ surplus', (c.ensure g e index (g.shiftIdAt index) onHand).IsPlanOf g e index surplus' ∧
      (surplus' = surplus ∨ g.project e index e.planningHorizon onHand =
        g.planWith e e.planningHorizon index surplus') := by
  cases hholds : c.holds (index % weekHours) (g.shiftIdAt index) with
  | false =>
    obtain ⟨surplus', hplan, hfresh⟩ := isPlanOf_ensure_of_not_holds hholds onHand
    exact ⟨surplus', hplan, Or.inr hfresh⟩
  | true => exact ⟨surplus, hc.ensure_of_holds hholds onHand, Or.inl rfl⟩

/-! ### Any calls -/

/-- A call on a plan cache. -/
inductive Call (α : Type) where
  /-- A plan is asked for, at an hour and with some energy on hand. -/
  | ensure (index : Nat) (onHand : α)
  /-- The plan is dropped. -/
  | invalidate
  deriving DecidableEq, Repr

/-- The cache after a call; `ensure` is passed the shift of its hour. -/
def call (g : Grid) (e : Equipment α) (c : PlanCache α) : Call α → PlanCache α
  | .ensure index onHand => c.ensure g e index (g.shiftIdAt index) onHand
  | .invalidate => .empty

/-- The cache after some `calls`, in order. -/
def after (g : Grid) (e : Equipment α) (calls : List (Call α)) : PlanCache α :=
  calls.foldl (call g e) .empty

/-- One of `calls` would make a fresh plan with `surplus` in its first segment. -/
def IsSurplusOf (g : Grid) (e : Equipment α) (calls : List (Call α)) (surplus : α) : Prop :=
  ∃ index onHand, Call.ensure index onHand ∈ calls ∧
    g.project e index e.planningHorizon onHand = g.planWith e e.planningHorizon index surplus

theorem IsSurplusOf.append {calls : List (Call α)} {surplus : α}
    (h : IsSurplusOf g e calls surplus) (call : Call α) :
    IsSurplusOf g e (calls ++ [call]) surplus := by
  obtain ⟨index, onHand, hmem, hfresh⟩ := h
  exact ⟨index, onHand, List.mem_append_left _ hmem, hfresh⟩

/-- What a cache is after `calls`: empty, or with the plan of an hour and a surplus that one of them
computed. -/
def KeptBy (c : PlanCache α) (g : Grid) (e : Equipment α) (calls : List (Call α)) : Prop :=
  c = .empty ∨ ∃ index surplus, c.IsPlanOf g e index surplus ∧ IsSurplusOf g e calls surplus

theorem KeptBy.ensure {c : PlanCache α} {calls : List (Call α)} (h : c.KeptBy g e calls)
    (index : Nat) (onHand : α) :
    ∃ surplus, (c.ensure g e index (g.shiftIdAt index) onHand).IsPlanOf g e index surplus ∧
      IsSurplusOf g e (calls ++ [.ensure index onHand]) surplus := by
  have hmem : Call.ensure index onHand ∈ calls ++ [.ensure index onHand] := by
    simp
  rcases h with rfl | ⟨last, surplus, hc, hsurplus⟩
  · have hempty : PlanCache.holds (α := α) .empty (index % weekHours) (g.shiftIdAt index) = false :=
      rfl
    obtain ⟨surplus, hplan, hfresh⟩ := isPlanOf_ensure_of_not_holds hempty onHand
    exact ⟨surplus, hplan, index, onHand, hmem, hfresh⟩
  · obtain ⟨surplus', hplan, hold | hfresh⟩ := hc.ensure index onHand
    · exact ⟨surplus', hplan, by rw [hold]; exact hsurplus.append _⟩
    · exact ⟨surplus', hplan, index, onHand, hmem, hfresh⟩

theorem keptBy_after (g : Grid) (e : Equipment α) (calls : List (Call α)) :
    (after g e calls).KeptBy g e calls := by
  induction calls using List.reverseRecOn with
  | nil => exact Or.inl rfl
  | append_singleton calls last ih =>
    unfold after
    rw [List.foldl_append, List.foldl_cons, List.foldl_nil]
    cases last with
    | ensure index onHand =>
      obtain ⟨surplus, hplan, hsurplus⟩ := ih.ensure index onHand
      exact Or.inr ⟨index, surplus, hplan, hsurplus⟩
    | invalidate => exact Or.inl rfl

/-- **A kept plan is the plan of the hour.**  After any `calls`, the plan of `ensure` is that of a
fresh `project` but for the first `maxSurplus`, which some call has seen; its first segment lasts
until the shift changes (`IsHoursToChange`). -/
theorem plan_ensure_after (g : Grid) (e : Equipment α) (calls : List (Call α)) (index : Nat)
    (onHand : α) :
    ∃ kept fresh rest,
      ((after g e calls).ensure g e index (g.shiftIdAt index) onHand).plan = kept :: rest ∧
      g.project e index e.planningHorizon onHand = fresh :: rest ∧
      kept.endIndex = fresh.endIndex ∧ kept.duration = fresh.duration ∧
      kept.energyNeeded = fresh.energyNeeded ∧ kept.required = fresh.required ∧
      (∃ i energy, Call.ensure i energy ∈ calls ++ [.ensure index onHand] ∧
        (g.project e i e.planningHorizon energy).head?.map (·.maxSurplus) =
          some kept.maxSurplus) ∧
      g.IsHoursToChange index kept.duration := by
  -- both plans are `planWith` of the hour, with two surpluses
  obtain ⟨surplus, hplan, i, energy, hmem, hcall⟩ := (keptBy_after g e calls).ensure index onHand
  obtain ⟨surplus', hfresh⟩ := g.project_eq_planWith e index e.planningHorizon onHand
  refine ⟨_, _, _, hplan.plan, hfresh, rfl, rfl, rfl, rfl, ⟨i, energy, hmem, ?_⟩, ?_⟩
  · rw [hcall]
    rfl
  · exact g.isHoursToChange_hoursToChange index

end TruckDepot.PlanCache
