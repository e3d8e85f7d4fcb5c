import TruckDepot.Quantity.Binary32
import TruckDepot.Week

/-!
# Tariffs

What a fleet has to know of the tariff it is billed under: whether prices depend on the hour,
whether regulation capacity is paid for, and the prices themselves. `PriceList` is a tariff that
is written down. -/

namespace TruckDepot

/-- How a tariff prices energy. -/
inductive RateStructure where
  /-- One price at all times. -/
  | flat
  /-- The price depends on the hour of day. -/
  | timeOfUse
  /-- Regulation capacity is paid for. -/
  | regulation
  deriving DecidableEq, Repr

/-- The name of a rate structure. -/
def RateStructure.name : RateStructure → String
  | .flat => "flat"
  | .timeOfUse => "time_of_use"
  | .regulation => "regulation"

/-- A tariff as a fleet sees it. -/
structure Tariff (α : Type) where
  /-- Prices depend on the hour of day. -/
  isTimeOfUse : Bool
  /-- Regulation capacity is paid for. -/
  hasRegulationRate : Bool
  /-- Price of one kWh drawn in an hour. -/
  usagePrice : Slot → α
  /-- Payment for one kWh of regulation capacity. -/
  regulationRate : α

/-- The rate structure of a tariff. Prices by the hour go before regulation. -/
def Tariff.rateStructure {α : Type} (t : Tariff α) : RateStructure :=
  if t.isTimeOfUse then .timeOfUse
  else if t.hasRegulationRate then .regulation
  else .flat

/-! ### Price lists -/

/-- A fixed tariff. -/
structure PriceList (α : Type) where
  /-- Its rate structure. -/
  kind : RateStructure
  /-- Price per kWh. -/
  price : α
  /-- Price per kWh for each hour of the day, where prices depend on the hour. -/
  hourlyPrices : List α
  /-- Payment per kWh of regulation. -/
  regulationRate : α
  deriving DecidableEq, Repr

namespace PriceList

variable {α : Type} [Quantity α]

/-- One price at all times. -/
def flat (price : α) : PriceList α :=
  ⟨.flat, price, [], 0⟩

/-- Prices by the hour. Their largest stands in for an hour that has none. -/
def timeOfUse (hourlyPrices : List α) : PriceList α :=
  ⟨.timeOfUse, hourlyPrices.foldl Quantity.larger 0, hourlyPrices, 0⟩

/-- One price, and a payment for regulation. -/
def regulation (price regulationRate : α) : PriceList α :=
  ⟨.regulation, price, [], regulationRate⟩

/-- Price of one kWh drawn in an hour. -/
def usagePrice (l : PriceList α) (slot : Slot) : α :=
  if l.kind = .timeOfUse then l.hourlyPrices[slot.hour.toNat]?.getD l.price else l.price

/-- Payment for one kWh of regulation; nothing unless regulation is paid for. -/
def paidRegulation (l : PriceList α) : α :=
  if l.kind = .regulation then l.regulationRate else 0

/-- The tariff of a price list. -/
def toTariff (l : PriceList α) : Tariff α :=
  { isTimeOfUse := l.kind = .timeOfUse
    hasRegulationRate := l.kind = .regulation
    usagePrice := l.usagePrice
    regulationRate := l.paidRegulation }

/-- The price list in force when no other is given. -/
def default : PriceList Float32 :=
  flat 0.12

/-- Prices that are low from ten at night to six in the morning and high from two to eight in the
afternoon. -/
def dayNightPrices : List Float32 :=
  (List.range hoursPerDay).map fun hour =>
    if hour < 6 ∨ 22 ≤ hour then 0.06
    else if 14 ≤ hour ∧ hour < 20 then 0.22
    else 0.12

end PriceList

end TruckDepot
