import TruckDepot.Proofs.Fleet.SavedText

/-!
# Saving what was loaded

Any text of a saved fleet may be loaded: its members may stand in another order, its records may be
arrays, and its numbers may be spelled in any way.  What is loaded is never something that is not a
number, but a number that is too large for a 32-bit float becomes an infinity
(`Json.isFinite_of_quantity?`), and an infinity cannot be saved.  Every finite float is read back
from what is written for it (`Json.quantity?_ofQuantity_of_isFinite`), so no other fleets can be
loaded and not be saved and loaded again (`SavedState.ofText?_text_of_ofText?`).
-/

namespace TruckDepot

open Decimal Json

/-! ### Numbers -/

namespace Decimal.Numeral

/-- The numeral is an integer that fits a 64-bit word: at most `largestWord`, or `twoTo 63` with a
minus sign. -/
def isWord (n : Numeral) : Bool :=
  n.isInteger && decide (digitsValue n.whole ≤ if n.negative then twoTo 63 else largestWord)

/-- What a numeral is read as, before `toFloat32` rounds it. -/
def read? (n : Numeral) : Option Binary :=
  if n.isWord then some (Binary.ofNat n.negative (digitsValue n.whole)) else n.scaled?

theorem toFloat32?_eq (n : Numeral) : n.toFloat32? = n.read?.map Binary.toFloat32 := by
  unfold read?
  cases h : n.isWord with
  | true => exact if_pos h
  | false => exact if_neg (Bool.not_eq_true _ ▸ h)

theorem exists_finite_of_read? {n : Numeral} {x : Binary} (h : n.read? = some x) :
    ∃ magnitude, x = .finite n.negative magnitude := by
  unfold read? at h
  split at h
  · exact ⟨_, (Option.some.inj h).symm⟩
  · unfold scaled? at h
    obtain ⟨word, -, h⟩ := Option.bind_eq_some_iff.mp h
    obtain ⟨magnitude, -, h⟩ := Option.bind_eq_some_iff.mp h
    exact ⟨magnitude, (Option.some.inj h).symm⟩

end Decimal.Numeral

namespace Json

/-- The JSON value is a number read as a magnitude below `binary32Limit`. -/
def StaysFinite (j : Json) : Prop :=
  ∃ text n negative magnitude, j = .number text ∧ Numeral.ofChars? text = some n ∧
    n.read? = some (.finite negative magnitude) ∧ magnitude.value < binary32Limit

/-- A float that is read is finite if the number `StaysFinite`, and else it is an infinity. -/
theorem isFinite_of_quantity? {j : Json} {x : Float32} (h : quantity? j = some x) :
    (isFinite x = true ↔ j.StaysFinite) ∧
      (isFinite x = true ∨ ∃ negative, Binary.ofFloat32 x = .infinite negative) := by
  cases j with
  | number text =>
    obtain ⟨n, hn, hx⟩ := Option.bind_eq_some_iff.mp h
    rw [Numeral.toFloat32?_eq] at hx
    obtain ⟨value, hread, rfl⟩ := Option.map_eq_some_iff.mp hx
    obtain ⟨magnitude, rfl⟩ := Numeral.exists_finite_of_read? hread
    by_cases hlimit : magnitude.value < binary32Limit
    -- below the limit the magnitude is rounded to a finite float
    · obtain ⟨y, hy⟩ := Binary.ofFloat32_toFloat32_of_lt n.negative hlimit
      have hfinite : isFinite (Binary.finite n.negative magnitude).toFloat32 = true := by
        unfold isFinite
        rw [hy]
      exact ⟨⟨fun _ => ⟨text, n, _, _, rfl, hn, hread, hlimit⟩, fun _ => hfinite⟩, .inl hfinite⟩
    -- from the limit on to an infinity, and the text has no other magnitude
    · have hy := Binary.ofFloat32_toFloat32_of_le n.negative (not_lt.mp hlimit)
      have hinfinite : ¬ isFinite (Binary.finite n.negative magnitude).toFloat32 = true := by
        unfold isFinite
        rw [hy]
        exact Bool.false_ne_true
      refine ⟨⟨fun hfinite => absurd hfinite hinfinite, ?_⟩, .inr ⟨_, hy⟩⟩
      rintro ⟨_, m, _, other, heq, hm, hother, hless⟩
      cases heq
      rw [hn] at hm
      cases hm
      rw [hread] at hother
      cases hother
      exact absurd hless hlimit
  | null => cases h
  | truth _ => cases h
  | string _ => cases h
  | array _ => cases h
  | object _ => cases h

end Json

/-! ### Batteries -/

/-- The JSON values that `Pools.ofJson?` reads its three quantities from. -/
def Pools.sources? (j : Json) : Option (List Json) := do
  let members ← members? ["capacity_in_use", "energy_in_use", "energy_charging"] true j
  let capacityInUse ← members.lookup "capacity_in_use"
  let energyInUse ← members.lookup "energy_in_use"
  let energyCharging ← members.lookup "energy_charging"
  return [capacityInUse, energyInUse, energyCharging]

theorem Pools.sources?_of_ofJson? {j : Json} {p : Pools Float32} (h : Pools.ofJson? j = some p) :
    ∃ sources, Pools.sources? j = some sources ∧
      List.Forall₂ (fun source x => quantity? source = some x) sources p.values := by
  unfold Pools.ofJson? at h
  obtain ⟨members, hmembers, h⟩ := Option.bind_eq_some_iff.mp h
  obtain ⟨capacityInUse, hcapacity, h⟩ := Option.bind_eq_some_iff.mp h
  obtain ⟨energyInUse, henergy, h⟩ := Option.bind_eq_some_iff.mp h
  obtain ⟨energyCharging, hcharging, h⟩ := Option.bind_eq_some_iff.mp h
  obtain rfl := Option.some.inj h
  obtain ⟨source₁, hlookup₁, hread₁⟩ := Option.bind_eq_some_iff.mp hcapacity
  obtain ⟨source₂, hlookup₂, hread₂⟩ := Option.bind_eq_some_iff.mp henergy
  obtain ⟨source₃, hlookup₃, hread₃⟩ := Option.bind_eq_some_iff.mp hcharging
  refine ⟨[source₁, source₂, source₃], ?_, .cons hread₁ (.cons hread₂ (.cons hread₃ .nil))⟩
  unfold Pools.sources?
  rw [hmembers, Option.bind_eq_bind, Option.bind_some, hlookup₁, hlookup₂, hlookup₃]
  rfl

/-! ### Saved fleets -/

namespace SavedState

/-- The JSON values that `SavedState.ofText?` reads its quantities from. -/
def sources? (s : String) : Option (List Json) := do
  let j ← Json.parse s.toList
  let members ← members? ["state", "shift_data", "resume_at"] true j
  let state ← members.lookup "state"
  Pools.sources? state

theorem sources?_of_ofText? {s : String} {b : SavedState Float32} (h : ofText? s = some b) :
    ∃ sources, sources? s = some sources ∧
      List.Forall₂ (fun source x => quantity? source = some x) sources b.pools.values := by
  obtain ⟨j, hj, h⟩ := Option.bind_eq_some_iff.mp h
  unfold ofJson? at h
  obtain ⟨members, hmembers, h⟩ := Option.bind_eq_some_iff.mp h
  obtain ⟨pools, hpools, h⟩ := Option.bind_eq_some_iff.mp h
  obtain ⟨tokens, -, h⟩ := Option.bind_eq_some_iff.mp h
  obtain ⟨resumeAt, -, h⟩ := Option.bind_eq_some_iff.mp h
  obtain rfl := Option.some.inj h
  obtain ⟨state, hstate, hpools⟩ := Option.bind_eq_some_iff.mp hpools
  obtain ⟨sources, hsources, hread⟩ := Pools.sources?_of_ofJson? hpools
  refine ⟨sources, ?_, hread⟩
  unfold sources?
  rw [hj, Option.bind_eq_bind, Option.bind_some, hmembers, Option.bind_eq_bind, Option.bind_some,
    hstate]
  exact hsources

/-- **What is loaded can be saved and loaded again if no number in it is too large.**
`ofText? b.text` is `b` if all three `sources` stay finite; if one does not, it is `none`, and the
quantity is `.infinite`. -/
theorem ofText?_text_of_ofText? {s : String} {b : SavedState Float32} (h : ofText? s = some b) :
    ∃ sources, sources? s = some sources ∧ sources.length = 3 ∧
      ((∀ j ∈ sources, j.StaysFinite) → ofText? b.text = some b) ∧
      ((∃ j ∈ sources, ¬ j.StaysFinite) →
        ofText? b.text = none ∧
          ∃ x ∈ b.pools.values, ∃ negative, Binary.ofFloat32 x = .infinite negative) := by
  obtain ⟨sources, hsources, hquantities⟩ := sources?_of_ofText? h
  refine ⟨sources, hsources, hquantities.length_eq, fun hfinite => ?_, ?_⟩
  · have hvalues : ∀ x ∈ b.pools.values, isFinite x = true := by
      intro x hx
      obtain ⟨i, hi, rfl⟩ := List.mem_iff_getElem.mp hx
      have hlength := hquantities.length_eq
      have hquantity := hquantities.get (by omega) hi
      exact (isFinite_of_quantity? hquantity).1.mpr (hfinite _ (List.getElem_mem _))
    rw [ofText?_text_eq, ofJson?_toJson, Pools.ofJson?_toJson_of_isFinite hvalues]
    rfl
  -- the quantity at the place of the number that is too large
  · rintro ⟨j, hj, hover⟩
    obtain ⟨i, hi, rfl⟩ := List.mem_iff_getElem.mp hj
    have hlength := hquantities.length_eq
    have hquantity := isFinite_of_quantity? (hquantities.get hi (by omega))
    have hinfinite := mt hquantity.1.mp hover
    have hmem : b.pools.values[i] ∈ b.pools.values := List.getElem_mem _
    refine ⟨?_, _, hmem, hquantity.2.resolve_left hinfinite⟩
    rw [ofText?_text_eq, ofJson?_toJson,
      Pools.ofJson?_toJson_of_not_isFinite ⟨_, hmem, hinfinite⟩]
    rfl

/-- A text with its members out of order, a member that nobody knows, and numbers as nobody would
print them. -/
def strangeNumbers : String :=
  "\x7b\"shift_data\": [\"block\"], \"note\": \x7b\x7d, \"state\": [3E+2, 210.50, 0.0001e3]\x7d"

theorem ofText?_text_of_ofText?_strangeNumbers :
    ofText? strangeNumbers = some ⟨⟨300, 210.5, 0.1⟩, ["block"], none⟩ ∧
      ∃ sources, sources? strangeNumbers = some sources ∧ (∀ j ∈ sources, j.StaysFinite) ∧
        ofText? (⟨⟨300, 210.5, 0.1⟩, ["block"], none⟩ : SavedState Float32).text =
          some ⟨⟨300, 210.5, 0.1⟩, ["block"], none⟩ := by
  have hload : ofText? strangeNumbers = some ⟨⟨300, 210.5, 0.1⟩, ["block"], none⟩ := by
    decide +kernel
  have hvalues : ∀ x ∈ (⟨300, 210.5, 0.1⟩ : Pools Float32).values, isFinite x = true := by
    decide +kernel
  obtain ⟨sources, hsources, -, hsaved, hrefused⟩ := ofText?_text_of_ofText? hload
  have hfinite : ∀ j ∈ sources, j.StaysFinite := by
    intro j hj
    by_contra hover
    obtain ⟨-, x, hx, negative, hinfinite⟩ := hrefused ⟨j, hj, hover⟩
    have hx := hvalues x hx
    unfold isFinite at hx
    rw [hinfinite] at hx
    cases hx
  exact ⟨hload, sources, hsources, hfinite, hsaved hfinite⟩

/-- A text with a number that no 32-bit float can hold. -/
def largeNumber : String :=
  "\x7b\"state\": \x7b\"capacity_in_use\": 0, \"energy_in_use\": 0, " ++
    "\"energy_charging\": 1e39\x7d, \"shift_data\": []\x7d"

/-- `largeNumber` is loaded as a fleet that is not loaded again from its own text. -/
theorem ofText?_text_largeNumber :
    ∃ b, ofText? largeNumber = some b ∧ ofText? b.text = none := by
  have hload : ofText? largeNumber =
      some ⟨⟨0, 0, (Binary.infinite false).toFloat32⟩, [], none⟩ := by
    decide +kernel
  refine ⟨_, hload, ?_⟩
  decide +kernel

end SavedState

end TruckDepot
