import Mathlib.Data.List.Nodup
import TruckDepot.Fleet.SavedText
import TruckDepot.Proofs.Decimal.ReadBack
import TruckDepot.Proofs.Json.RoundTrip

/-!
# The text of a saved fleet is read back

A saved fleet with finite batteries is read back from its text as it was, whatever texts its
schedule was declared with and whatever hour it goes on with; with batteries that are not finite its
text is that of no saved fleet at all (`SavedState.ofText?_text`).  Every float that is written is a
JSON number (`Json.wellSpelled_ofQuantity`), and a finite one is read back from its digits as the
same float (`Json.quantity?_ofQuantity_of_isFinite`).
-/

namespace TruckDepot

open Decimal

/-- The float is a number, and no infinity. -/
def Decimal.isFinite (x : Float32) : Bool :=
  match Binary.ofFloat32 x with
  | .finite _ _ => true
  | _ => false

namespace Json

/-! ### Numbers and texts -/

/-- `quantity?` reads a finite float back from what `ofQuantity` writes for it. -/
theorem quantity?_ofQuantity_of_isFinite {x : Float32} (h : isFinite x = true) :
    quantity? (ofQuantity x) = some x := by
  unfold isFinite at h
  split at h
  · rename_i negative magnitude hx
    obtain ⟨text, n, htext, hn, hread⟩ := savedLayout.toFloat32?_text? (by decide) hx
    unfold ofQuantity quantity?
    rw [htext]
    dsimp only
    rw [hn]
    exact hread
  · cases h

/-- What is not finite is written as `null`. -/
theorem ofQuantity_of_not_isFinite {x : Float32} (h : ¬ isFinite x = true) :
    ofQuantity x = .null := by
  unfold isFinite at h
  unfold ofQuantity DecimalLayout.text?
  split at h
  · exact absurd rfl h
  · cases hx : Binary.ofFloat32 x with
    | finite negative magnitude => simp_all
    | notANumber => rfl
    | infinite negative => rfl

theorem wellSpelled_ofQuantity (x : Float32) : WellSpelled (ofQuantity x) := by
  unfold ofQuantity
  cases htext : savedLayout.text? x with
  | none => exact .null
  | some text =>
    obtain ⟨digits, hdigits, hsign⟩ := savedLayout.plainNumeral_text? htext
    exact .number (isNumber_of_plainNumeral hdigits hsign)

theorem byte?_ofCount (b : UInt8) : byte? (ofCount b.toNat) = some b := by
  have hsize : b.toNat ≤ 255 := Nat.le_of_lt_succ b.toNat_lt
  unfold byte? ofCount
  dsimp only
  rw [ofChars?_toDigits, Option.bind_eq_bind, Option.bind_some]
  dsimp only
  rw [digitsValue_toDigits, UInt8.ofNat_toNat]
  exact if_pos (decide_eq_true hsize)

theorem text?_ofText (s : String) : text? (ofText s) = some s := by
  unfold text? ofText
  dsimp only
  rw [unescape_escape, Option.map_some, String.ofList_toList]

theorem texts?_ofText (texts : List String) : texts? (.array (texts.map ofText)) = some texts := by
  unfold texts?
  dsimp only
  induction texts with
  | nil => rfl
  | cons s texts ih =>
    rw [List.map_cons, List.mapM_cons, text?_ofText, ih]
    rfl

theorem wellSpelled_ofText (texts : List String) :
    WellSpelled (.array (texts.map ofText)) := by
  refine .array fun item hitem => ?_
  obtain ⟨s, -, rfl⟩ := List.mem_map.mp hitem
  exact .string (spells_escape s.toList)

/-! ### Records -/

/-- Names that `escape` leaves as they are, none of them twice. -/
structure PlainNames (names : List String) : Prop where
  nodup : names.Nodup
  escape : ∀ name ∈ names, escape name.toList = name.toList

section Records

variable {names : List String} {members : List (String × Json)} (hplain : PlainNames names)
  (hnames : members.map Prod.fst = names)

include hplain hnames

/-- A record is `WellSpelled` if its names are plain and its values are. -/
theorem wellSpelled_record (hvalues : ∀ m ∈ members, WellSpelled m.2) :
    WellSpelled (record members) := by
  subst hnames
  refine .object ?_ ?_
  · intro m hm
    obtain ⟨⟨name, value⟩, hmember, rfl⟩ := List.mem_map.mp hm
    have hname := hplain.escape name (List.mem_map_of_mem hmember)
    show Spells name.toList
    rw [← hname]
    exact spells_escape name.toList
  · intro m hm
    obtain ⟨member, hmember, rfl⟩ := List.mem_map.mp hm
    exact hvalues member hmember

/-- The keys of a `record` mean its names. -/
theorem mapM_unescape_record :
    (members.map fun (name, value) => (name.toList, value)).mapM
      (fun (key, value) => (unescape key).map fun name => (String.ofList name, value)) =
        some members := by
  have hescape := hplain.escape
  subst hnames
  clear hplain
  induction members with
  | nil => rfl
  | cons m rest ih =>
    rw [List.map_cons, List.forall_mem_cons] at hescape
    have hname := unescape_escape m.1.toList
    rw [hescape.1] at hname
    rw [List.map_cons, List.mapM_cons, ih hescape.2]
    dsimp only
    rw [hname, Option.map_some, String.ofList_toList]
    rfl

/-- `members?` finds the members of a record by their names. -/
theorem members?_record (ignoreUnknown : Bool) :
    members? names ignoreUnknown (record members) = some members := by
  have hnamed := mapM_unescape_record hplain hnames
  subst hnames
  have hknown : members.filter (fun (name, _) => (members.map Prod.fst).contains name) =
      members := by
    refine List.filter_eq_self.mpr fun m hm => ?_
    exact List.elem_eq_true_of_mem (List.mem_map_of_mem hm)
  -- no name is there twice, so none is refused for that
  have honce : (members.map Prod.fst).all
      (fun name => members.countP (fun (other, _) => other == name) ≤ 1) = true := by
    refine List.all_eq_true.mpr fun name _ => decide_eq_true ?_
    have hone := List.nodup_iff_count_le_one.mp hplain.nodup name
    unfold List.count at hone
    rwa [List.countP_map] at hone
  unfold members? record
  dsimp only
  rw [hnamed, Option.bind_eq_bind, Option.bind_some, hknown, honce, beq_self_eq_true,
    Bool.or_true]
  rfl

end Records

end Json

open Json

/-! ### Batteries -/

theorem plainNames_pools : PlainNames ["capacity_in_use", "energy_in_use", "energy_charging"] :=
  ⟨by decide, by decide⟩

/-- The three quantities of the batteries, in the order of `toJson`. -/
def Pools.values (p : Pools Float32) : List Float32 :=
  [p.capacityInUse, p.energyInUse, p.energyCharging]

theorem Pools.wellSpelled_toJson (p : Pools Float32) : WellSpelled p.toJson := by
  refine wellSpelled_record plainNames_pools rfl ?_
  simp only [List.forall_mem_cons]
  exact ⟨wellSpelled_ofQuantity _, wellSpelled_ofQuantity _, wellSpelled_ofQuantity _,
    fun _ h => absurd h List.not_mem_nil⟩

/-- Batteries are read back quantity by quantity. -/
theorem Pools.ofJson?_toJson (p : Pools Float32) : Pools.ofJson? p.toJson = do
    let capacityInUse ← quantity? (ofQuantity p.capacityInUse)
    let energyInUse ← quantity? (ofQuantity p.energyInUse)
    let energyCharging ← quantity? (ofQuantity p.energyCharging)
    return ⟨capacityInUse, energyInUse, energyCharging⟩ := by
  unfold Pools.ofJson? Pools.toJson
  rw [members?_record plainNames_pools rfl]
  rfl

/-- `Pools.ofJson?` reads finite batteries back from what `Pools.toJson` writes for them. -/
theorem Pools.ofJson?_toJson_of_isFinite {p : Pools Float32}
    (h : ∀ x ∈ p.values, isFinite x = true) : Pools.ofJson? p.toJson = some p := by
  unfold values at h
  simp only [List.forall_mem_cons] at h
  obtain ⟨hcapacity, henergy, hcharging, -⟩ := h
  rw [ofJson?_toJson, quantity?_ofQuantity_of_isFinite hcapacity,
    quantity?_ofQuantity_of_isFinite henergy, quantity?_ofQuantity_of_isFinite hcharging]
  rfl

/-- Batteries with a quantity that is not finite are not read back. -/
theorem Pools.ofJson?_toJson_of_not_isFinite {p : Pools Float32}
    (h : ∃ x ∈ p.values, ¬ isFinite x = true) : Pools.ofJson? p.toJson = none := by
  have hnull : ∀ {x : Float32}, ¬ isFinite x = true → quantity? (ofQuantity x) = none := by
    intro x hx
    rw [ofQuantity_of_not_isFinite hx]
    rfl
  rw [ofJson?_toJson]
  obtain ⟨x, hx, hinfinite⟩ := h
  unfold values at hx
  simp only [List.mem_cons, List.not_mem_nil, or_false] at hx
  -- whichever it is, reading stops there or has stopped before
  rcases hx with rfl | rfl | rfl
  · rw [hnull hinfinite]
    rfl
  · rw [hnull hinfinite]
    cases quantity? (ofQuantity p.capacityInUse) with
    | none => rfl
    | some _ => rfl
  · rw [hnull hinfinite]
    cases quantity? (ofQuantity p.capacityInUse) with
    | none => rfl
    | some _ =>
      cases quantity? (ofQuantity p.energyInUse) with
      | none => rfl
      | some _ => rfl

/-! ### Hours -/

theorem plainNames_slot : PlainNames ["day_of_week", "hour"] :=
  ⟨by decide, by decide⟩

theorem Slot.wellSpelled_toJson (slot : Slot) : WellSpelled slot.toJson := by
  refine wellSpelled_record plainNames_slot rfl ?_
  simp only [List.forall_mem_cons]
  exact ⟨.number (isNumber_toDigits _), .number (isNumber_toDigits _),
    fun _ h => absurd h List.not_mem_nil⟩

theorem Slot.ofJson?_toJson (slot : Slot) : Slot.ofJson? slot.toJson = some slot := by
  have hmembers : members? ["day_of_week", "hour"] false slot.toJson =
      some [("day_of_week", ofCount slot.day.toNat), ("hour", ofCount slot.hour.toNat)] :=
    members?_record plainNames_slot rfl false
  unfold Slot.ofJson?
  rw [hmembers]
  show ((byte? (ofCount slot.day.toNat)).bind fun day =>
    (byte? (ofCount slot.hour.toNat)).bind fun hour => some (⟨day, hour⟩ : Slot)) = _
  rw [byte?_ofCount, byte?_ofCount]
  rfl

theorem Slot.optionOfJson?_toJson (slot? : Option Slot) :
    Slot.optionOfJson? (some ((slot?.map Slot.toJson).getD .null)) = some slot? := by
  cases slot? with
  | none => rfl
  | some slot =>
    show (Slot.ofJson? slot.toJson).map some = _
    rw [Slot.ofJson?_toJson]
    rfl

/-! ### Saved fleets -/

namespace SavedState

theorem plainNames_saved : PlainNames ["state", "shift_data", "resume_at"] :=
  ⟨by decide, by decide⟩

theorem wellSpelled_toJson (s : SavedState Float32) : WellSpelled s.toJson := by
  have hresume : WellSpelled ((s.resumeAt.map Slot.toJson).getD .null) := by
    cases s.resumeAt with
    | none => exact .null
    | some slot => exact slot.wellSpelled_toJson
  refine wellSpelled_record plainNames_saved rfl ?_
  simp only [List.forall_mem_cons]
  exact ⟨s.pools.wellSpelled_toJson, wellSpelled_ofText s.tokens, hresume,
    fun _ h => absurd h List.not_mem_nil⟩

/-- But for its `pools`, a saved fleet is read back as it was. -/
theorem ofJson?_toJson (s : SavedState Float32) : ofJson? s.toJson =
    (Pools.ofJson? s.pools.toJson).map fun pools => { s with pools := pools } := by
  have hmembers : members? ["state", "shift_data", "resume_at"] true s.toJson =
      some [("state", s.pools.toJson), ("shift_data", .array (s.tokens.map ofText)),
        ("resume_at", (s.resumeAt.map Slot.toJson).getD .null)] :=
    members?_record plainNames_saved rfl true
  unfold ofJson?
  rw [hmembers]
  show ((Pools.ofJson? s.pools.toJson).bind fun pools =>
    (texts? (.array (s.tokens.map ofText))).bind fun tokens =>
      (Slot.optionOfJson? (some ((s.resumeAt.map Slot.toJson).getD .null))).bind fun resumeAt =>
        some (⟨pools, tokens, resumeAt⟩ : SavedState Float32)) = _
  rw [texts?_ofText, Slot.optionOfJson?_toJson]
  cases Pools.ofJson? s.pools.toJson with
  | none => rfl
  | some pools => rfl

/-- The text of a saved fleet spells its JSON value. -/
theorem ofText?_text_eq (s : SavedState Float32) : ofText? s.text = ofJson? s.toJson := by
  unfold ofText? SavedState.text
  rw [String.toList_ofList, parse_text s.wellSpelled_toJson, Option.bind_some]

/-- **Round trip**: `ofText?` reads `s.text` back as `s` if all three `s.pools.values` are finite,
whatever `s.tokens` and `s.resumeAt` are, and refuses it if one of them is not. -/
theorem ofText?_text (s : SavedState Float32) :
    ((∀ x ∈ s.pools.values, isFinite x = true) → ofText? s.text = some s) ∧
      ((∃ x ∈ s.pools.values, ¬ isFinite x = true) → ofText? s.text = none) := by
  rw [ofText?_text_eq, ofJson?_toJson]
  constructor
  · intro hfinite
    rw [Pools.ofJson?_toJson_of_isFinite hfinite]
    rfl
  · intro hinfinite
    rw [Pools.ofJson?_toJson_of_not_isFinite hinfinite]
    rfl

/-- A saved fleet of texts that need escapes, and of an hour that no week has. -/
def strangeTexts : SavedState Float32 :=
  { pools := ⟨0.1, -0.0, 1e20⟩
    tokens := ["say \"dock\" \\", "\n\t\x01", "", "Größe"]
    resumeAt := some ⟨255, 0⟩ }

/-- `strangeTexts` with an infinite `energyInUse`. -/
def endlessTexts : SavedState Float32 :=
  { strangeTexts with pools := ⟨0.1, (Binary.infinite false).toFloat32, 3⟩ }

theorem ofText?_text_strangeTexts :
    (∀ x ∈ strangeTexts.pools.values, isFinite x = true) ∧
      ofText? strangeTexts.text = some strangeTexts ∧
      (∃ x ∈ endlessTexts.pools.values, ¬ isFinite x = true) ∧
      ofText? endlessTexts.text = none := by
  have hfinite : ∀ x ∈ strangeTexts.pools.values, isFinite x = true := by decide +kernel
  have hendless : ∃ x ∈ endlessTexts.pools.values, ¬ isFinite x = true := by decide +kernel
  exact ⟨hfinite, (ofText?_text strangeTexts).1 hfinite, hendless,
    (ofText?_text endlessTexts).2 hendless⟩

end SavedState

end TruckDepot
