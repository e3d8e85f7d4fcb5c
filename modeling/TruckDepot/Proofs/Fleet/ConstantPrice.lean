import TruckDepot.Proofs.Fleet.CheapestHour

/-!
# One price by the hour

Prices by the hour that are always the same come to a flat price.  The fleet makes plans under the
one and none under the other, but if no hour is ever cheaper, charging by a plan stores the most
that it can, whatever the plan says (`Fleet.stored_of_constant`), and a plan is nothing that the
batteries could notice (`Fleet.step_of_constant`).  `Fleet.hours_atOnePrice` is the comparison of
any number of hours.
-/

namespace TruckDepot

open Quantity TruckDepot.Random

/-! ### Comparing a float with itself -/

open Float.Model in
theorem unpackedFloat_le_self {x : UnpackedFloat} (h : x.isNaN = false) : x.le x = true := by
  unfold UnpackedFloat.le
  cases x with
  | notANumber => cases h
  | infinity sign => cases sign <;> rfl
  | zero sign => rfl
  | finite sign mantissa exponent hpos =>
    have hself : (compare exponent exponent).then (compare mantissa mantissa) = .eq := by
      rw [Std.ReflOrd.compare_self, Std.ReflOrd.compare_self]
      rfl
    cases sign with
    | positive => exact congrArg Ordering.isLE hself
    | negative => exact congrArg (fun order => order.swap.isLE) hself

/-- Every float but a NaN is `≤` itself. -/
theorem le_self_of_isNaN_eq_false {x : Float32} (h : x.isNaN = false) : x ≤ x :=
  decide_eq_true (unpackedFloat_le_self h)

namespace Fleet

/-! ### One hour -/

section Hour

variable {α σ : Type} [Quantity α] [NormalSource σ α] (f : Fleet α σ) (c : PlanCache α)
  (slot : Slot) {tariff flat : Tariff α} {price : α}

theorem stored_of_constant (hself : price ≤ price) (hpriced : tariff.isTimeOfUse = true)
    (hconstant : ∀ slot, tariff.usagePrice slot = price) :
    f.stored slot tariff = f.fullCharge slot := by
  refine stored_of_forall_isCheapest hpriced fun front _ k _ _ => ?_
  rw [hconstant, hconstant]
  exact hself

/-- An hour under a constant price by the hour, and the same hour under a flat one: the fleets
differ in `planCache` alone, the records in `rateStructure`. -/
theorem step_of_constant (hself : price ≤ price) (hpriced : tariff.isTimeOfUse = true)
    (hconstant : ∀ slot, tariff.usagePrice slot = price) (hflat : flat.rateStructure = .flat)
    (hprice : flat.usagePrice slot = price) :
    ({ f with planCache := c }.step slot flat).1 =
        { (f.step slot tariff).1 with planCache := c } ∧
      ({ f with planCache := c }.step slot flat).2.1 =
        { (f.step slot tariff).2.1 with rateStructure := .flat } := by
  have hstored : { f with planCache := c }.stored slot flat = f.stored slot tariff := by
    rw [stored_of_planFree (Or.inl hflat), f.stored_of_constant slot hself hpriced hconstant]
    rfl
  -- before charging the fleets differ in the plan, which the second leaves alone
  have hready : { f with planCache := c }.ready slot flat =
      { f.ready slot tariff with planCache := c } := by
    obtain ⟨c', hplan⟩ := f.ready_eq slot tariff
    rw [hplan]
    unfold ready prepare
    rw [if_pos hflat]
    rfl
  have hafter : ({ f with planCache := c }.step slot flat).1 =
      { (f.step slot tariff).1 with planCache := c } := by
    rw [step_eq, step_eq, hready, hstored]
  refine ⟨hafter, ?_⟩
  rw [record_eq, record_eq, hafter, hstored, hconstant, hprice, hflat]
  rfl

end Hour

/-! ### Many hours -/

/-- An hour under prices by the hour that are always `price`, and the same under a flat tariff at
`price`; or anything else that is done with both fleets. -/
inductive AtOnePrice : Action Float32 → Action Float32 → Prop where
  | work (slot : Slot) {tariff flat : Tariff Float32} (price : Float32)
      (hnumber : price.isNaN = false) (hpriced : tariff.isTimeOfUse = true)
      (hconstant : ∀ slot, tariff.usagePrice slot = price) (hflat : flat.rateStructure = .flat)
      (hprice : flat.usagePrice slot = price) :
      AtOnePrice (.work slot tariff) (.work slot flat)
  | regulate (kwh : Float32) : AtOnePrice (.regulate kwh) (.regulate kwh)
  | install (policy : ChargingPolicy) : AtOnePrice (.install policy) (.install policy)

variable {σ : Type} [NormalSource σ Float32]

/-- Two hours leave the same fleet but for its `planCache`, and the same record but for
`rateStructure`. -/
def SameButPlan (c : PlanCache Float32) (hour flatHour : Fleet Float32 σ × HourRecord Float32) :
    Prop :=
  flatHour.1 = { hour.1 with planCache := c } ∧
    flatHour.2 = { hour.2 with rateStructure := .flat }

/-- **A price by the hour that never changes is a flat price.**  Hour by hour the fleets are the
same but that the second keeps its plan, `f.planCache`, and the records but for `rateStructure`. -/
theorem hours_atOnePrice (f : Fleet Float32 σ) {actions flat : List (Action Float32)}
    (hsame : List.Forall₂ AtOnePrice actions flat) :
    List.Forall₂ (SameButPlan f.planCache) (f.hours actions) (f.hours flat) := by
  -- the fleets differ in their plans from the first hour on
  suffices h : ∀ c : PlanCache Float32, List.Forall₂ (SameButPlan c) (f.hours actions)
      ({ f with planCache := c }.hours flat) from h f.planCache
  intro c
  induction hsame generalizing f with
  | nil => exact .nil
  | cons hfirst hrest ih =>
    cases hfirst with
    | work slot price hnumber hpriced hconstant hflat hprice =>
      obtain ⟨hafter, hrecord⟩ := f.step_of_constant c slot (le_self_of_isNaN_eq_false hnumber)
        hpriced hconstant hflat hprice
      unfold hours
      refine .cons ⟨hafter, hrecord⟩ ?_
      rw [hafter]
      exact ih _
    | regulate kwh => exact ih (f.regulate kwh)
    | install policy => exact ih (f.withPolicy policy)

/-- Prices by the hour of which none is written down, so that `price` stands in for all. -/
def alwaysAt (price : Float32) : Tariff Float32 :=
  PriceList.toTariff ⟨.timeOfUse, price, [], 0⟩

/-- Two hours of `steadyFleet`, at the default price and at a lower one. -/
theorem hours_atOnePrice_steadyFleet :
    List.Forall₂ AtOnePrice [.work ⟨2, 8⟩ (alwaysAt 0.12), .work ⟨2, 9⟩ (alwaysAt 0.06)]
        [.work ⟨2, 8⟩ (PriceList.flat 0.12).toTariff, .work ⟨2, 9⟩ (PriceList.flat 0.06).toTariff] ∧
      List.Forall₂ (SameButPlan steadyFleet.planCache)
        (steadyFleet.hours [.work ⟨2, 8⟩ (alwaysAt 0.12), .work ⟨2, 9⟩ (alwaysAt 0.06)])
        (steadyFleet.hours [.work ⟨2, 8⟩ (PriceList.flat 0.12).toTariff,
          .work ⟨2, 9⟩ (PriceList.flat 0.06).toTariff]) := by
  have hsame : List.Forall₂ AtOnePrice
      [.work ⟨2, 8⟩ (alwaysAt 0.12), .work ⟨2, 9⟩ (alwaysAt 0.06)]
      [.work ⟨2, 8⟩ (PriceList.flat 0.12).toTariff, .work ⟨2, 9⟩ (PriceList.flat 0.06).toTariff] :=
    .cons (.work _ 0.12 (by decide) rfl (fun _ => rfl) rfl rfl)
      (.cons (.work _ 0.06 (by decide) rfl (fun _ => rfl) rfl rfl) .nil)
  exact ⟨hsame, hours_atOnePrice steadyFleet hsame⟩

end Fleet

end TruckDepot
