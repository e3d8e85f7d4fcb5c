import Mathlib.Data.List.Forall2
import TruckDepot.Proofs.Decimal.FixedPlaces
import TruckDepot.Report.Csv
import TruckDepot.Scenario.Settings
import TruckDepot.Text.Integer

/-!
# Reading a table back

No field of a table has a character that would end it (`Csv.plain_of_mem_fields`), so none is in
quotes, and cutting at line feeds and commas gives the fields back (`Csv.pieces_table`,
`Csv.pieces_lineText`).  Each field then says what the record says: numbers, truth values and rate
structures as they are, and quantities to four decimal places (`Csv.isRow_fields`).
`Csv.table_readable` puts this together.
-/

namespace TruckDepot.Csv

open Decimal

/-! ### Fields without a separator -/

/-- Letters, digits and a few marks, none of which means anything to a table. -/
def isOrdinary (c : Char) : Bool :=
  c.isAlphanum || c = '-' || c = '.' || c = '_'

/-- A field of ordinary characters (`isOrdinary`), at least one. -/
structure Plain (field : String) : Prop where
  ne_nil : field.toList ≠ []
  ordinary : field.toList.all isOrdinary = true

instance (field : String) : Decidable (Plain field) :=
  decidable_of_iff (field.toList ≠ [] ∧ field.toList.all isOrdinary = true)
    ⟨fun h => ⟨h.1, h.2⟩, fun h => ⟨h.ne_nil, h.ordinary⟩⟩

/-- Characters that end a field or have to be in quotes. -/
def separators : List Char :=
  [',', '"', '\n', '\r']

theorem isOrdinary_of_isDigit {c : Char} (h : c.isDigit = true) : isOrdinary c = true := by
  unfold isOrdinary Char.isAlphanum
  rw [h, Bool.or_true]
  rfl

theorem not_isOrdinary_of_mem_separators {c : Char} (h : c ∈ separators) :
    ¬ isOrdinary c = true := by
  have hall : (separators.all fun c => !isOrdinary c) = true := by decide
  rw [Bool.not_eq_true, ← Bool.not_eq_true']
  exact List.all_eq_true.mp hall c h

variable {field : String}

theorem Plain.not_mem (h : Plain field) {c : Char} (hc : c ∈ separators) : c ∉ field.toList := by
  exact fun hmem => not_isOrdinary_of_mem_separators hc (List.all_eq_true.mp h.ordinary c hmem)

theorem Plain.written_eq (h : Plain field) : written field = field := by
  have hany : (field.toList.any fun c => c = ',' || c = '"' || c = '\n' || c = '\r') = false := by
    rw [List.any_eq_false]
    intro c hc hseparator
    refine h.not_mem (c := c) ?_ hc
    simpa [separators, or_assoc] using hseparator
  have hplain : needsQuotes field = false := by
    unfold needsQuotes
    rw [hany, Bool.or_false, List.isEmpty_eq_false_iff]
    exact h.ne_nil
  unfold written
  rw [hplain]
  rfl

theorem plain_toString (n : Nat) : Plain (toString n) := by
  have hdigits : (toString n).toList = Nat.toDigits 10 n := Nat.toList_repr
  have hplain := digits_toDigits n
  rw [← hdigits] at hplain
  refine ⟨hplain.ne_nil, List.all_eq_true.mpr fun c hc => ?_⟩
  exact isOrdinary_of_isDigit (hplain.isDigit c hc)

theorem plain_truth (b : Bool) : Plain (truth b) := by
  cases b with
  | false => decide
  | true => decide

theorem plain_name (r : RateStructure) : Plain r.name := by
  cases r with
  | flat => decide
  | timeOfUse => decide
  | regulation => decide

theorem plain_fixed {places : Nat} (hplaces : 0 < places) (x : Float32) :
    Plain (fixed places x) := by
  unfold fixed
  cases Binary.ofFloat32 x with
  | notANumber => exact (by decide : Plain "NaN")
  | infinite negative =>
    cases negative with
    | false => exact (by decide : Plain "inf")
    | true => exact (by decide : Plain "-inf")
  | finite negative magnitude =>
    have hsign : (if negative then ['-'] else []).all isOrdinary = true := by
      cases negative with
      | false => rfl
      | true => rfl
    have hdigits {s : List Char} (h : Digits s) : s.all isOrdinary = true :=
      List.all_eq_true.mpr fun c hc => isOrdinary_of_isDigit (h.isDigit c hc)
    unfold Binary.fixed
    dsimp only
    rw [fixedMagnitude_eq hplaces]
    -- its point keeps the text from being empty; sign, digits and point are all ordinary
    constructor
    · rw [String.toList_ofList]
      simp
    · rw [String.toList_ofList, List.all_append, List.all_append, List.all_cons, hsign,
        hdigits (digits_toDigits _), hdigits (digits_paddedDigits _ _)]
      rfl

theorem plain_of_mem_header : ∀ field ∈ header, Plain field := by
  have hall : (header.all fun field => decide (Plain field)) = true := by decide
  exact fun field hfield => of_decide_eq_true (List.all_eq_true.mp hall field hfield)

theorem plain_of_mem_fields (r : HourRecord Float32) : ∀ field ∈ fields r, Plain field := by
  have hplaces : 0 < 4 := by decide
  unfold fields
  simp only [List.forall_mem_cons]
  exact ⟨plain_toString _, plain_toString _, plain_toString _, plain_toString _, plain_truth _,
    plain_fixed hplaces _, plain_fixed hplaces _, plain_fixed hplaces _, plain_fixed hplaces _,
    plain_fixed hplaces _, plain_fixed hplaces _, plain_fixed hplaces _, plain_fixed hplaces _,
    plain_fixed hplaces _, plain_name _, fun _ h => absurd h List.not_mem_nil⟩

/-! ### Cutting a table -/

/-- The pieces of a text between the places where `c` stands. -/
def pieces (c : Char) (s : String) : List String :=
  (s.split c).toList.map String.Slice.copy

theorem pieces_eq (c : Char) (s : String) :
    pieces c s = (s.toList.splitOn c).map String.ofList :=
  String.toList_split_char

/-- The text of a line of `fields`, up to its end. -/
def lineText (fields : List String) : String :=
  String.intercalate "," fields

theorem pieces_lineText {fields : List String} (hne : fields ≠ [])
    (h : ∀ field ∈ fields, Plain field) : pieces ',' (lineText fields) = fields := by
  have hsplit := String.toList_split_intercalate fun field hfield =>
    (h field hfield).not_mem (c := ',') List.mem_cons_self
  rw [if_neg hne] at hsplit
  exact hsplit

theorem line_eq {fields : List String} (h : ∀ field ∈ fields, Plain field) :
    line fields = lineText fields ++ "\n" := by
  have hwritten : fields.map written = fields := by
    rw [List.map_congr_left fun field hfield => (h field hfield).written_eq, List.map_id']
  unfold line lineText
  rw [hwritten]

/-- Of all `separators` a line of `Plain` fields has only the comma. -/
theorem not_mem_lineText {c : Char} (hc : c ∈ separators) (hcomma : c ≠ ',')
    {fields : List String} (h : ∀ field ∈ fields, Plain field) :
    c ∉ (lineText fields).toList := by
  unfold lineText
  induction fields with
  | nil => simp
  | cons field rest ih =>
    rw [List.forall_mem_cons] at h
    have hfield := h.1.not_mem hc
    cases rest with
    | nil =>
      rw [String.intercalate_singleton]
      exact hfield
    | cons next rest =>
      rw [String.intercalate_cons_cons, String.toList_append, String.toList_append,
        List.mem_append, List.mem_append]
      rintro ((hmem | hmem) | hmem)
      · exact hfield hmem
      · exact hcomma (List.mem_singleton.mp hmem)
      · exact ih h.2 hmem

theorem pieces_join {lines : List String} (h : ∀ line ∈ lines, '\n' ∉ line.toList) :
    pieces '\n' (String.join (lines.map (· ++ "\n"))) = lines ++ [""] := by
  induction lines with
  | nil =>
    rw [pieces_eq]
    rfl
  | cons line rest ih =>
    rw [List.forall_mem_cons] at h
    have hrest := ih h.2
    rw [pieces_eq] at hrest ⊢
    have htext : (String.join ((line :: rest).map (· ++ "\n"))).toList =
        line.toList ++ '\n' :: (String.join (rest.map (· ++ "\n"))).toList := by
      simp
    rw [htext, List.splitOn_append_cons_self_of_not_mem h.1, List.map_cons, hrest,
      String.ofList_toList]
    rfl

theorem plain_of_mem_rows (records : List (HourRecord Float32)) :
    ∀ row ∈ header :: records.map fields, ∀ field ∈ row, Plain field := by
  rw [List.forall_mem_cons]
  refine ⟨plain_of_mem_header, fun row hrow => ?_⟩
  obtain ⟨r, -, rfl⟩ := List.mem_map.mp hrow
  exact plain_of_mem_fields r

theorem table_eq (records : List (HourRecord Float32)) : table records =
    String.join ((header :: records.map fields).map fun row => lineText row ++ "\n") := by
  rw [List.map_congr_left fun row hrow => (line_eq (plain_of_mem_rows records row hrow)).symm,
    List.map_cons, List.map_map]
  rfl

/-- Cut at `'\n'` a table is the header, a line for each record, and an empty piece behind the
last. -/
theorem pieces_table (records : List (HourRecord Float32)) : pieces '\n' (table records) =
    (header :: records.map fields).map lineText ++ [""] := by
  have hlines : ∀ line ∈ (header :: records.map fields).map lineText, '\n' ∉ line.toList := by
    intro line hline
    obtain ⟨row, hrow, rfl⟩ := List.mem_map.mp hline
    exact not_mem_lineText (by decide) (by decide) (plain_of_mem_rows records row hrow)
  have hjoin := pieces_join hlines
  rw [List.map_map] at hjoin
  rw [table_eq]
  exact hjoin

theorem not_mem_table {c : Char} (hc : c ∈ separators) (hcomma : c ≠ ',') (hend : c ≠ '\n')
    (records : List (HourRecord Float32)) : c ∉ (table records).toList := by
  rw [table_eq, String.toList_join, List.mem_flatMap]
  rintro ⟨_, hline, hmem⟩
  obtain ⟨row, hrow, rfl⟩ := List.mem_map.mp hline
  rw [String.toList_append, List.mem_append] at hmem
  rcases hmem with htext | hlast
  · exact not_mem_lineText hc hcomma (plain_of_mem_rows records row hrow) htext
  · exact hend (List.mem_singleton.mp hlast)

/-! ### What the fields say -/

/-- The field of a row under a `name` of the header. -/
def column (name : String) (row : List String) : Option String :=
  (header.zip row).lookup name

/-- The number in the field `name` of a row. -/
def number? (name : String) (row : List String) : Option Nat :=
  (column name row).bind fun s => Text.natural? s.toList

/-- The truth value of `"true"` and `"false"`. -/
def truth? (s : String) : Option Bool :=
  if s = "true" then some true else if s = "false" then some false else none

/-- The quantities of a record with the names of their columns in `header`. -/
def quantities (r : HourRecord Float32) : List (String × Float32) :=
  [("usage_kwh", r.usage), ("borrowed_kwh", r.borrowed), ("capacity_in_use_kwh", r.capacityInUse),
    ("energy_in_use_kwh", r.energyInUse), ("energy_charging_kwh", r.energyCharging),
    ("stored_kwh", r.stored), ("drawn_kwh", r.drawn), ("price", r.price), ("cost", r.cost)]

/-- The row says what the record `r` says, with quantities to four places. -/
structure IsRow (row : List String) (r : HourRecord Float32) : Prop where
  length : row.length = 15
  step : number? "step" row = some r.step
  day : number? "day_of_week" row = some r.slot.day.toNat
  hour : number? "hour" row = some r.slot.hour.toNat
  trucks : number? "trucks" row = some r.trucks
  shiftChanged : (column "shift_changed" row).bind truth? = some r.shiftChanged
  quantities : ∀ q ∈ quantities r, ∃ s, column q.1 row = some s ∧ Shows 4 s.toList q.2
  rateStructure :
    ((column "rate_structure" row).bind fun s => Toml.rateStructure? (.text s)) =
      some r.rateStructure

theorem natural?_toString (n : Nat) : Text.natural? (toString n).toList = some n := by
  have hdigits : (toString n).toList = Nat.toDigits 10 n := Nat.toList_repr
  have hall : (Nat.toDigits 10 n).all Char.isDigit = true :=
    List.all_eq_true.mpr (digits_toDigits n).isDigit
  have hvalue := digitsValue_toDigits n
  unfold digitsValue at hvalue
  rw [List.foldl_map] at hvalue
  unfold Text.natural?
  rw [hdigits, hall, List.isEmpty_eq_false_iff.mpr (digits_toDigits n).ne_nil]
  exact congrArg some hvalue

theorem truth?_truth (b : Bool) : truth? (truth b) = some b := by
  cases b with
  | false => decide
  | true => decide

theorem rateStructure?_name (r : RateStructure) : Toml.rateStructure? (.text r.name) = some r := by
  cases r with
  | flat => decide
  | timeOfUse => decide
  | regulation => decide

theorem isRow_fields (r : HourRecord Float32) : IsRow (fields r) r where
  length := rfl
  step := natural?_toString r.step
  day := natural?_toString r.slot.day.toNat
  hour := natural?_toString r.slot.hour.toNat
  trucks := natural?_toString r.trucks
  shiftChanged := truth?_truth r.shiftChanged
  quantities := by
    have hshows (x : Float32) : Shows 4 (fixed 4 x).toList x := shows_fixed (by decide) x
    unfold Csv.quantities
    simp only [List.forall_mem_cons]
    exact ⟨⟨_, rfl, hshows _⟩, ⟨_, rfl, hshows _⟩, ⟨_, rfl, hshows _⟩, ⟨_, rfl, hshows _⟩,
      ⟨_, rfl, hshows _⟩, ⟨_, rfl, hshows _⟩, ⟨_, rfl, hshows _⟩, ⟨_, rfl, hshows _⟩,
      ⟨_, rfl, hshows _⟩, fun _ h => absurd h List.not_mem_nil⟩
  rateStructure := rateStructure?_name r.rateStructure

/-- **A table can be read back.**  Its `pieces` at `'\n'` are the `header` and one row (`IsRow`) for
each of the `records`, in order, and nothing behind; each has 15 fields, and none is quoted. -/
theorem table_readable (records : List (HourRecord Float32)) :
    (∃ first rest, pieces '\n' (table records) = first :: rest ++ [""] ∧
        (first :: rest).length = records.length + 1 ∧
        (∀ line ∈ first :: rest, (pieces ',' line).length = 15) ∧
        pieces ',' first = header ∧
        List.Forall₂ (fun line r => IsRow (pieces ',' line) r) rest records) ∧
      '"' ∉ (table records).toList ∧ '\r' ∉ (table records).toList := by
  -- what is between the commas of a line are its fields
  have hfields (r : HourRecord Float32) : pieces ',' (lineText (fields r)) = fields r :=
    pieces_lineText (List.cons_ne_nil _ _) (plain_of_mem_fields r)
  have hheader : pieces ',' (lineText header) = header :=
    pieces_lineText (List.cons_ne_nil _ _) plain_of_mem_header
  refine ⟨⟨lineText header, (records.map fields).map lineText, pieces_table records, ?_, ?_,
    hheader, ?_⟩, ?_, ?_⟩
  · rw [List.length_cons, List.length_map, List.length_map]
  · rw [List.forall_mem_cons, hheader]
    refine ⟨rfl, fun line hline => ?_⟩
    rw [List.map_map] at hline
    obtain ⟨r, -, rfl⟩ := List.mem_map.mp hline
    show (pieces ',' (lineText (fields r))).length = 15
    rw [hfields]
    rfl
  · rw [List.map_map, List.forall₂_map_left_iff, List.forall₂_same]
    intro r _
    show IsRow (pieces ',' (lineText (fields r))) r
    rw [hfields]
    exact isRow_fields r
  · exact not_mem_table (by decide) (by decide) (by decide) records
  · exact not_mem_table (by decide) (by decide) (by decide) records

end TruckDepot.Csv
