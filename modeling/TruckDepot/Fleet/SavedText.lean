import TruckDepot.Decimal.Shortest
import TruckDepot.Fleet
import TruckDepot.Json.Printer
import TruckDepot.Json.Reader

/-!
# Saved fleets as text

A saved fleet is written as a JSON object with the members `state`, `shift_data` and `resume_at`. A
quantity is written with the fewest digits that read back as it, and as `null` if it is no finite
number.

Reading takes the members in any order, ignores members it does not know, and allows none twice.
Every object may also be given as an array of its values in the order in which they are written.
The hour to go on with may be missing or `null`, and knows no other members than its own. -/

namespace TruckDepot

open Json

/-! ### Writing -/

/-- Quantities are written out in place from the sixth decimal place up to thirteen digits. -/
def savedLayout : Decimal.DecimalLayout := ⟨-6, 12⟩

/-- A quantity as a JSON number. -/
def Json.ofQuantity (x : Float32) : Json :=
  match savedLayout.text? x with
  | some text => .number text
  | none => .null

/-- A text as a JSON string. -/
def Json.ofText (s : String) : Json :=
  .string (escape s.toList)

/-- A natural number as a JSON number. -/
def Json.ofCount (n : Nat) : Json :=
  .number (Nat.toDigits 10 n)

/-- An object with members in the given order. -/
def Json.record (members : List (String × Json)) : Json :=
  .object (members.map fun (name, value) => (name.toList, value))

/-- Batteries as JSON. -/
def Pools.toJson (p : Pools Float32) : Json :=
  record
    [("capacity_in_use", ofQuantity p.capacityInUse), ("energy_in_use", ofQuantity p.energyInUse),
      ("energy_charging", ofQuantity p.energyCharging)]

/-- An hour as JSON. -/
def Slot.toJson (s : Slot) : Json :=
  record [("day_of_week", ofCount s.day.toNat), ("hour", ofCount s.hour.toNat)]

namespace SavedState

/-- A saved fleet as JSON. -/
def toJson (s : SavedState Float32) : Json :=
  record
    [("state", s.pools.toJson), ("shift_data", .array (s.tokens.map ofText)),
      ("resume_at", (s.resumeAt.map Slot.toJson).getD .null)]

/-- The text of a saved fleet. -/
def text (s : SavedState Float32) : String :=
  String.ofList (Json.text s.toJson)

end SavedState

/-! ### Reading -/

namespace Json

/-- The members of a record by their names. An array gives them by position and may be too short,
but not too long. In an object no known member may come twice, and unless unknown members are
ignored there may be none. -/
def members? (names : List String) (ignoreUnknown : Bool) : Json → Option (List (String × Json))
  | .array items => if items.length ≤ names.length then some (names.zip items) else none
  | .object members => do
    let named ← members.mapM fun (key, value) =>
      (unescape key).map fun name => (String.ofList name, value)
    let known := named.filter fun (name, _) => names.contains name
    if (ignoreUnknown || known.length == named.length) &&
        names.all fun name => known.countP (fun (other, _) => other == name) ≤ 1 then
      some known
    else none
  | _ => none

/-- A number as a 32-bit float. -/
def quantity? : Json → Option Float32
  | .number text => (Decimal.Numeral.ofChars? text).bind Decimal.Numeral.toFloat32?
  | _ => none

/-- A number from `0` to `255`, written as an integer without a sign. -/
def byte? : Json → Option UInt8
  | .number text => do
    let n ← Decimal.Numeral.ofChars? text
    let size := Decimal.digitsValue n.whole
    if n.isInteger && !n.negative && size ≤ 255 then some (UInt8.ofNat size) else none
  | _ => none

/-- A string as a text. -/
def text? : Json → Option String
  | .string text => (unescape text).map String.ofList
  | _ => none

/-- An array of texts. -/
def texts? : Json → Option (List String)
  | .array items => items.mapM text?
  | _ => none

end Json

/-- Batteries from JSON. -/
def Pools.ofJson? (j : Json) : Option (Pools Float32) := do
  let members ← members? ["capacity_in_use", "energy_in_use", "energy_charging"] true j
  let capacityInUse ← (members.lookup "capacity_in_use").bind quantity?
  let energyInUse ← (members.lookup "energy_in_use").bind quantity?
  let energyCharging ← (members.lookup "energy_charging").bind quantity?
  return ⟨capacityInUse, energyInUse, energyCharging⟩

/-- An hour from JSON. -/
def Slot.ofJson? (j : Json) : Option Slot := do
  let members ← members? ["day_of_week", "hour"] false j
  let day ← (members.lookup "day_of_week").bind byte?
  let hour ← (members.lookup "hour").bind byte?
  return ⟨day, hour⟩

/-- An hour from JSON, or none. -/
def Slot.optionOfJson? : Option Json → Option (Option Slot)
  | none => some none
  | some .null => some none
  | some j => (Slot.ofJson? j).map some

namespace SavedState

/-- A saved fleet from JSON. -/
def ofJson? (j : Json) : Option (SavedState Float32) := do
  let members ← members? ["state", "shift_data", "resume_at"] true j
  let pools ← (members.lookup "state").bind Pools.ofJson?
  let tokens ← (members.lookup "shift_data").bind texts?
  let resumeAt ← Slot.optionOfJson? (members.lookup "resume_at")
  return ⟨pools, tokens, resumeAt⟩

/-- Reads the text of a saved fleet. -/
def ofText? (s : String) : Option (SavedState Float32) :=
  (Json.parse s.toList).bind ofJson?

end SavedState

end TruckDepot
