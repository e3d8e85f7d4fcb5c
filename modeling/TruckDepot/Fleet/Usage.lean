import TruckDepot.Quantity
import TruckDepot.Random.Normal

/-!
# Energy use

In an hour the trucks use their mean energy and some normal noise, never less than nothing. An
hour without trucks uses nothing and leaves the source of noise alone, and so does a deviation
that is not positive. -/

namespace TruckDepot

open Quantity TruckDepot.Random

variable {α σ : Type} [Quantity α] [NormalSource σ α]

/-- Normal noise of a given deviation. -/
def noise (deviation : α) (source : σ) : α × σ :=
  if deviation ≤ 0 then (0, source)
  else
    let (deviate, source) := NormalSource.draw source
    (deviate * deviation, source)

/-- Energy that some trucks use in an hour, in kWh, with a mean per truck and a deviation for all.
-/
def sampleUsage (truckKw truckStd : α) (trucks : Nat) (source : σ) : α × σ :=
  if trucks = 0 then (0, source)
  else
    let (deviation, source) := noise truckStd source
    (larger (deviation + truckKw * ofNat trucks) 0, source)

end TruckDepot
