import Mathlib.Data.List.Infix
import Mathlib.Tactic.Common
import TruckDepot.Schedule.Declaration

/-!
# The grammar of schedule declarations

A list of declarations is a list of words (`Word`), cut into groups in front of every keyword
(`groups`).  The numbers of a block's group are the days in force until the next block; those of a
shift's group are one declaration, and `Verdict` says which shift it declares or why it declares
none.  Reading a list of tokens adds the shifts that its groups declare and rejects the rest, each
in order (`Grid.ofTokens_groups`).

A reader takes one word after another, and closes the open shift at a keyword.  Group by group
(`readGroup`) it is always between two declarations, with no shift open, which is what the induction
over the groups is about (`readGroups_eq`).
-/

namespace TruckDepot

theorem Shift.ofNumbers_self (shift : Shift) :
    Shift.ofNumbers shift.start shift.duration shift.trucks = .ok shift := by
  have hstart := shift.start_lt
  have hpos := shift.duration_pos
  have hle := shift.duration_le
  have htrucks := shift.trucks_le
  unfold Shift.ofNumbers
  rw [dif_pos (by omega), dif_pos (by omega), dif_pos (by omega)]
  rfl

/-- A `Shift` and the days that it is declared for. -/
abbrev Declaration := Shift × List UInt8

/-- Adds the shifts of `declared`, each on its days, one after another. -/
def Grid.addAll (g : Grid) (declared : List Declaration) : Grid :=
  declared.foldl (fun g (shift, days) => g.add shift days) g

namespace Reading

/-! ### Words -/

/-- What `Reading.take` makes of a token. -/
inductive Word where
  /-- A keyword, and what the numbers after it belong to. -/
  | keyword (opens : Collecting)
  | number (value : Int)
  /-- Neither keyword nor number; without the blanks around it. -/
  | other (text : String)
  deriving DecidableEq, Repr

/-- The word of a token, as `Text.trim` leaves it. -/
def Word.ofToken (token : String) : Word :=
  let text := Text.trim token
  if text = "block" then .keyword .block
  else if text = "shift" then .keyword .shift
  else
    match Text.signed64? text with
    | some n => .number n
    | none => .other text

/-- The numbers among `words`. -/
def numbersOf (words : List Word) : List Int :=
  words.filterMap fun
    | .number n => some n
    | _ => none

/-- The words that are neither keyword nor number, as `badToken` rejections. -/
def badTokensOf (words : List Word) : List Rejection :=
  words.filterMap fun
    | .other text => some (.badToken text)
    | _ => none

@[simp] theorem numbersOf_number (n : Int) (rest : List Word) :
    numbersOf (.number n :: rest) = n :: numbersOf rest :=
  rfl

@[simp] theorem numbersOf_other (text : String) (rest : List Word) :
    numbersOf (.other text :: rest) = numbersOf rest :=
  rfl

@[simp] theorem badTokensOf_number (n : Int) (rest : List Word) :
    badTokensOf (.number n :: rest) = badTokensOf rest :=
  rfl

@[simp] theorem badTokensOf_other (text : String) (rest : List Word) :
    badTokensOf (.other text :: rest) = .badToken text :: badTokensOf rest :=
  rfl

/-! ### Groups -/

/-- A keyword and the words between it and the next one. -/
structure Group where
  opens : Collecting
  body : List Word
  deriving DecidableEq, Repr

/-- The words of a group, its `keyword` first. -/
def Group.words (g : Group) : List Word :=
  .keyword g.opens :: g.body

/-- No `keyword` stands in the body of a group. -/
def Group.IsClosed (g : Group) : Prop :=
  ∀ w ∈ g.body, ∀ opens, w ≠ .keyword opens

/-- The words in front of the first `keyword`, and a group for every keyword. -/
def cut : List Word → List Word × List Group
  | [] => ([], [])
  | .keyword opens :: rest => ([], ⟨opens, (cut rest).1⟩ :: (cut rest).2)
  | .number n :: rest => (.number n :: (cut rest).1, (cut rest).2)
  | .other text :: rest => (.other text :: (cut rest).1, (cut rest).2)

/-- The groups of `words`.  What stands in front of the first keyword belongs to a shift. -/
def groups (words : List Word) : List Group :=
  ⟨.shift, (cut words).1⟩ :: (cut words).2

theorem append_flatMap_words_cut (words : List Word) :
    (cut words).1 ++ (cut words).2.flatMap Group.words = words := by
  induction words with
  | nil => rfl
  | cons w rest ih =>
    cases w with
    | keyword opens =>
      show Word.keyword opens :: ((cut rest).1 ++ (cut rest).2.flatMap Group.words) = _
      rw [ih]
    | number n => exact congrArg (Word.number n :: ·) ih
    | other text => exact congrArg (Word.other text :: ·) ih

/-- `groups` only cuts: put together again they are `words`, as if a `shift` stood in front. -/
theorem flatMap_words_groups (words : List Word) :
    (groups words).flatMap Group.words = .keyword .shift :: words := by
  show Word.keyword .shift :: ((cut words).1 ++ (cut words).2.flatMap Group.words) = _
  rw [append_flatMap_words_cut]

theorem isClosed_cut (words : List Word) (opens : Collecting) :
    Group.IsClosed ⟨opens, (cut words).1⟩ ∧ ∀ g ∈ (cut words).2, g.IsClosed := by
  induction words generalizing opens with
  | nil => exact ⟨nofun, nofun⟩
  | cons w rest ih =>
    cases w with
    | keyword next => exact ⟨nofun, List.forall_mem_cons.mpr (ih next)⟩
    | number n => exact ⟨List.forall_mem_cons.mpr ⟨nofun, (ih opens).1⟩, (ih opens).2⟩
    | other text => exact ⟨List.forall_mem_cons.mpr ⟨nofun, (ih opens).1⟩, (ih opens).2⟩

theorem isClosed_of_mem_groups {words : List Word} {g : Group} (hg : g ∈ groups words) :
    g.IsClosed := by
  rcases List.mem_cons.mp hg with rfl | hg
  · exact (isClosed_cut words .shift).1
  · exact (isClosed_cut words .shift).2 g hg

/-! ### Verdicts -/

/-- Every number is a day of the week, from `1` to `7`. -/
def AreWeekDays (days : List Int) : Prop :=
  ∀ d ∈ days, 1 ≤ d ∧ d ≤ 7

/-- What becomes of the `numbers` of a shift under the `days` in force: the first rule that is
broken rejects them, in this order; if none is, they declare a shift on `days`. -/
inductive Verdict : List Int → List Int → Except Rejection Declaration → Prop where
  | emptyBlock (numbers : List Int) : Verdict [] numbers (.error (.emptyBlock numbers))
  | incompleteShift {days numbers : List Int} (hdays : days ≠ []) (hshort : numbers.length < 3) :
      Verdict days numbers (.error (.incompleteShift numbers))
  | badBlock {days numbers : List Int} (hdays : days ≠ []) (hlong : 3 ≤ numbers.length)
      (hweek : ¬ AreWeekDays days) : Verdict days numbers (.error (.badBlock days))
  | badStart {days : List Int} {start duration trucks : Int} {ignored : List Int}
      (hdays : days ≠ []) (hweek : AreWeekDays days) (hstart : start < 0 ∨ 23 < start) :
      Verdict days (start :: duration :: trucks :: ignored) (.error (.badStart start))
  | badDuration {days : List Int} {start duration trucks : Int} {ignored : List Int}
      (hdays : days ≠ []) (hweek : AreWeekDays days) (hstart : 0 ≤ start ∧ start ≤ 23)
      (hduration : duration < 1 ∨ 24 < duration) :
      Verdict days (start :: duration :: trucks :: ignored) (.error (.badDuration duration))
  | negativeTrucks {days : List Int} {start duration trucks : Int} {ignored : List Int}
      (hdays : days ≠ []) (hweek : AreWeekDays days) (hstart : 0 ≤ start ∧ start ≤ 23)
      (hduration : 1 ≤ duration ∧ duration ≤ 24) (htrucks : trucks < 0) :
      Verdict days (start :: duration :: trucks :: ignored) (.error (.negativeTrucks trucks))
  | tooManyTrucks {days : List Int} {start duration trucks : Int} {ignored : List Int}
      (hdays : days ≠ []) (hweek : AreWeekDays days) (hstart : 0 ≤ start ∧ start ≤ 23)
      (hduration : 1 ≤ duration ∧ duration ≤ 24) (htrucks : largestCount < trucks) :
      Verdict days (start :: duration :: trucks :: ignored) (.error (.tooManyTrucks trucks))
  | accepted {days : List Int} {start duration trucks : Int} {ignored : List Int} {shift : Shift}
      {dayBytes : List UInt8} (hdays : days ≠ []) (hweek : AreWeekDays days)
      (hstart : shift.start = start) (hduration : shift.duration = duration)
      (htrucks : shift.trucks = trucks)
      (hbytes : dayBytes.map (fun b => (b.toNat : Int)) = days) :
      Verdict days (start :: duration :: trucks :: ignored) (.ok (shift, dayBytes))

theorem day?_eq_some_iff {n : Int} {b : UInt8} :
    day? n = some b ↔ (1 ≤ n ∧ n ≤ 7) ∧ (b.toNat : Int) = n := by
  unfold day?
  constructor
  · intro h
    split_ifs at h with hn
    obtain rfl := Option.some.inj h
    refine ⟨hn, ?_⟩
    rw [UInt8.toNat_ofNat_of_lt' (by show n.toNat < 256; omega)]
    omega
  · rintro ⟨hn, hb⟩
    rw [if_pos hn]
    congr 1
    apply UInt8.toNat_inj.mp
    rw [UInt8.toNat_ofNat_of_lt' (by show n.toNat < 256; omega)]
    omega

theorem mapM_day?_eq_some_iff {days : List Int} {dayBytes : List UInt8} :
    days.mapM day? = some dayBytes ↔
      AreWeekDays days ∧ dayBytes.map (fun b => (b.toNat : Int)) = days := by
  induction days generalizing dayBytes with
  | nil =>
    rw [List.mapM_nil]
    constructor
    · intro h
      obtain rfl := Option.some.inj h
      exact ⟨fun d hd => absurd hd List.not_mem_nil, rfl⟩
    · rintro ⟨_, hbytes⟩
      rw [List.map_eq_nil_iff.mp hbytes]
      rfl
  | cons d rest ih =>
    rw [List.mapM_cons]
    simp only [Option.bind_eq_bind, Option.bind_eq_some_iff, Option.pure_def, Option.some.injEq]
    constructor
    · rintro ⟨b, hb, bytes, hbytes, rfl⟩
      obtain ⟨hweek, hrest⟩ := ih.mp hbytes
      obtain ⟨hd, hbd⟩ := day?_eq_some_iff.mp hb
      exact ⟨List.forall_mem_cons.mpr ⟨hd, hweek⟩, congrArg₂ List.cons hbd hrest⟩
    · rintro ⟨hweek, hbytes⟩
      obtain ⟨hd, hweek⟩ := List.forall_mem_cons.mp hweek
      obtain ⟨b, bytes, rfl, hbd, hrest⟩ := List.map_eq_cons_iff.mp hbytes
      exact ⟨b, day?_eq_some_iff.mpr ⟨hd, hbd⟩, bytes, ih.mpr ⟨hweek, hrest⟩, rfl⟩

theorem mapM_day?_of_areWeekDays {days : List Int} (h : AreWeekDays days) :
    days.mapM day? = some (days.map fun d => UInt8.ofNat d.toNat) := by
  rw [mapM_day?_eq_some_iff, List.map_map]
  refine ⟨h, ?_⟩
  have hself : ∀ d ∈ days, ((UInt8.ofNat d.toNat).toNat : Int) = d := by
    intro d hd
    have hday := h d hd
    rw [UInt8.toNat_ofNat_of_lt' (by show d.toNat < 256; omega)]
    omega
  exact (List.map_congr_left hself).trans (List.map_id days)

theorem mapM_day?_eq_none_iff {days : List Int} :
    days.mapM day? = none ↔ ¬ AreWeekDays days := by
  constructor
  · intro hnone hweek
    rw [mapM_day?_of_areWeekDays hweek] at hnone
    cases hnone
  · intro hweek
    cases hmap : days.mapM day? with
    | none => rfl
    | some dayBytes => exact absurd (mapM_day?_eq_some_iff.mp hmap).1 hweek

theorem exists_eq_cons_of_three_le {numbers : List Int} (h : 3 ≤ numbers.length) :
    ∃ start duration trucks ignored, numbers = start :: duration :: trucks :: ignored := by
  match numbers, h with
  | start :: duration :: trucks :: ignored, _ => exact ⟨start, duration, trucks, ignored, rfl⟩

section Declare

variable {days : List Int} (hdays : days ≠ [])

include hdays

theorem declare_of_length_lt {numbers : List Int} (h : numbers.length < 3) :
    declare days numbers = .error (.incompleteShift numbers) := by
  unfold declare
  rw [if_neg (by rwa [List.isEmpty_iff])]
  match numbers with
  | [] => rfl
  | [_] => rfl
  | [_, _] => rfl
  | _ :: _ :: _ :: _ => exact absurd h (by simp)

theorem declare_of_not_areWeekDays (hweek : ¬ AreWeekDays days) (start duration trucks : Int)
    (ignored : List Int) :
    declare days (start :: duration :: trucks :: ignored) = .error (.badBlock days) := by
  unfold declare
  rw [if_neg (by rwa [List.isEmpty_iff])]
  dsimp only
  rw [mapM_day?_eq_none_iff.mpr hweek]

/-- On days of the week, `declare` is `Shift.ofNumbers` of the first three numbers. -/
theorem declare_of_areWeekDays (hweek : AreWeekDays days) {dayBytes : List UInt8}
    (hbytes : dayBytes.map (fun b => (b.toNat : Int)) = days) (start duration trucks : Int)
    (ignored : List Int) :
    declare days (start :: duration :: trucks :: ignored) =
      (Shift.ofNumbers start duration trucks).map fun shift => (shift, dayBytes) := by
  unfold declare
  rw [if_neg (by rwa [List.isEmpty_iff])]
  dsimp only
  rw [mapM_day?_eq_some_iff.mpr ⟨hweek, hbytes⟩]

theorem declare_eq_error (hweek : AreWeekDays days) {start duration trucks : Int}
    {rejection : Rejection} (h : Shift.ofNumbers start duration trucks = .error rejection)
    (ignored : List Int) :
    declare days (start :: duration :: trucks :: ignored) = .error rejection := by
  have hbytes := mapM_day?_eq_some_iff.mp (mapM_day?_of_areWeekDays hweek)
  rw [declare_of_areWeekDays hdays hweek hbytes.2, h]
  rfl

theorem verdict_ofNumbers (hweek : AreWeekDays days) {dayBytes : List UInt8}
    (hbytes : dayBytes.map (fun b => (b.toNat : Int)) = days) (start duration trucks : Int)
    (ignored : List Int) :
    Verdict days (start :: duration :: trucks :: ignored)
      ((Shift.ofNumbers start duration trucks).map fun shift => (shift, dayBytes)) := by
  unfold Shift.ofNumbers
  split_ifs with hstart hduration htrucks hnegative
  · exact .accepted hdays hweek (Int.toNat_of_nonneg hstart.1)
      (Int.toNat_of_nonneg (by omega)) (Int.toNat_of_nonneg htrucks.1) hbytes
  · exact .negativeTrucks hdays hweek (by omega) hduration hnegative
  · exact .tooManyTrucks hdays hweek (by omega) hduration (by omega)
  · exact .badDuration hdays hweek (by omega) (by omega)
  · exact .badStart hdays hweek (by omega)

end Declare

theorem verdict_declare (days numbers : List Int) :
    Verdict days numbers (declare days numbers) := by
  by_cases hdays : days = []
  · rw [hdays]
    exact .emptyBlock numbers
  · rcases Nat.lt_or_ge numbers.length 3 with hshort | hlong
    · rw [declare_of_length_lt hdays hshort]
      exact .incompleteShift hdays hshort
    · obtain ⟨start, duration, trucks, ignored, rfl⟩ := exists_eq_cons_of_three_le hlong
      by_cases hweek : AreWeekDays days
      · have hbytes := mapM_day?_eq_some_iff.mp (mapM_day?_of_areWeekDays hweek)
        rw [declare_of_areWeekDays hdays hweek hbytes.2]
        exact verdict_ofNumbers hdays hweek hbytes.2 start duration trucks ignored
      · rw [declare_of_not_areWeekDays hdays hweek]
        exact .badBlock hdays hlong hweek

theorem declare_eq_of_verdict {days numbers : List Int} {outcome : Except Rejection Declaration}
    (h : Verdict days numbers outcome) : declare days numbers = outcome := by
  cases h with
  | emptyBlock => rfl
  | incompleteShift hdays hshort => exact declare_of_length_lt hdays hshort
  | badBlock hdays hlong hweek =>
    obtain ⟨start, duration, trucks, ignored, rfl⟩ := exists_eq_cons_of_three_le hlong
    exact declare_of_not_areWeekDays hdays hweek start duration trucks ignored
  | badStart hdays hweek hstart =>
    apply declare_eq_error hdays hweek
    unfold Shift.ofNumbers
    rw [dif_neg (by omega)]
  | badDuration hdays hweek hstart hduration =>
    apply declare_eq_error hdays hweek
    unfold Shift.ofNumbers
    rw [dif_pos (by omega), dif_neg (by omega)]
  | negativeTrucks hdays hweek hstart hduration htrucks =>
    apply declare_eq_error hdays hweek
    unfold Shift.ofNumbers
    rw [dif_pos (by omega), dif_pos (by omega), dif_neg (by omega), if_pos htrucks]
  | tooManyTrucks hdays hweek hstart hduration htrucks =>
    apply declare_eq_error hdays hweek
    unfold Shift.ofNumbers
    rw [dif_pos (by omega), dif_pos (by omega), dif_neg (by omega), if_neg (by omega)]
  | @accepted _ _ _ _ _ shift _ hdays hweek hstart hduration htrucks hbytes =>
    -- the numbers are those of a shift, which `Shift.ofNumbers` makes of them
    subst hstart hduration htrucks
    rw [declare_of_areWeekDays hdays hweek hbytes, shift.ofNumbers_self]
    rfl

/-- `declare` decides the `Verdict`: there is exactly one on any numbers. -/
theorem declare_eq_iff {days numbers : List Int} {outcome : Except Rejection Declaration} :
    declare days numbers = outcome ↔ Verdict days numbers outcome := by
  constructor
  · rintro rfl
    exact verdict_declare days numbers
  · exact declare_eq_of_verdict

/-! ### Groups in order -/

/-- The numbers (`numbersOf`) in the body of a group. -/
def Group.numbers (g : Group) : List Int :=
  numbersOf g.body

/-- The outcome of `declare` on a group.  Only the numbers of a shift get one, and only if there are
any. -/
def Group.verdict? (days : List Int) (g : Group) : Option (Except Rejection Declaration) :=
  if g.opens = .shift ∧ g.numbers ≠ [] then some (declare days g.numbers) else none

/-- The shift that a group declares under `days`, if it declares one. -/
def Group.accepted (days : List Int) (g : Group) : List Declaration :=
  match g.verdict? days with
  | some (.ok declared) => [declared]
  | _ => []

/-- What is rejected of a group under `days`: its bad tokens, then its numbers when it is over. -/
def Group.rejected (days : List Int) (g : Group) : List Rejection :=
  badTokensOf g.body ++
    match g.verdict? days with
    | some (.error rejection) => [rejection]
    | _ => []

/-- The days in force after the groups `before`: the numbers of the last block. -/
def daysInForce (before : List Group) : List Int :=
  ((before.filter fun g => g.opens = .block).getLast?.map Group.numbers).getD []

/-- The shifts that `groups` declare, each under its `daysInForce`. -/
def accepted (groups : List Group) : List Declaration :=
  (groups.inits.zip groups).flatMap fun (before, g) => g.accepted (daysInForce before)

/-- What is rejected of `groups`, each under its `daysInForce`. -/
def rejected (groups : List Group) : List Rejection :=
  (groups.inits.zip groups).flatMap fun (before, g) => g.rejected (daysInForce before)

theorem inits_zip_concat {β : Type} (l : List β) (a : β) :
    (l ++ [a]).inits.zip (l ++ [a]) = l.inits.zip l ++ [(l, a)] := by
  induction l with
  | nil => rfl
  | cons b rest ih =>
    rw [List.cons_append, List.inits_cons, List.inits_cons, List.zip_cons_cons, List.zip_cons_cons,
      List.zip_map_left, List.zip_map_left, ih, List.map_append]
    rfl

theorem accepted_concat (gs : List Group) (g : Group) :
    accepted (gs ++ [g]) = accepted gs ++ g.accepted (daysInForce gs) := by
  unfold accepted
  rw [inits_zip_concat, List.flatMap_append, List.flatMap_singleton]

theorem rejected_concat (gs : List Group) (g : Group) :
    rejected (gs ++ [g]) = rejected gs ++ g.rejected (daysInForce gs) := by
  unfold rejected
  rw [inits_zip_concat, List.flatMap_append, List.flatMap_singleton]

theorem daysInForce_concat (gs : List Group) (g : Group) :
    daysInForce (gs ++ [g]) = if g.opens = .block then g.numbers else daysInForce gs := by
  unfold daysInForce
  rw [List.filter_append]
  split_ifs with hopens
  · rw [List.filter_cons_of_pos (by simpa using hopens), List.filter_nil, List.getLast?_concat]
    rfl
  · rw [List.filter_cons_of_neg (by simpa using hopens), List.filter_nil, List.append_nil]

/-! ### Reading word by word -/

/-- What a keyword does to a reader without an open shift; `block` drops the days in force. -/
def opened (r : Reading) : Collecting → Reading
  | .block => { r with block := [], collecting := .block }
  | .shift => { r with collecting := .shift }

/-- The reader after one more word; a `keyword` closes the open shift. -/
def takeWord (r : Reading) : Word → Reading
  | .keyword opens => r.close.opened opens
  | .number n =>
    match r.collecting with
    | .block => { r with block := r.block ++ [n] }
    | .shift => { r with shift := r.shift ++ [n] }
  | .other text => { r with rejections := r.rejections ++ [.badToken text] }

theorem take_eq_takeWord (r : Reading) (token : String) :
    r.take token = r.takeWord (.ofToken token) := by
  unfold take Word.ofToken
  dsimp only
  split_ifs
  · rfl
  · rfl
  · cases Text.signed64? (Text.trim token) with
    | none => rfl
    | some n =>
      unfold takeWord
      cases r.collecting with
      | block => rfl
      | shift => rfl

theorem foldl_take (tokens : List String) (r : Reading) :
    tokens.foldl take r = (tokens.map Word.ofToken).foldl takeWord r := by
  rw [List.foldl_map]
  congr 1
  funext r token
  exact r.take_eq_takeWord token

/-- Without keywords, a `body` adds its numbers to what is being collected and its bad tokens to the
`rejections`. -/
theorem foldl_takeWord_body {body : List Word} (h : ∀ w ∈ body, ∀ opens, w ≠ .keyword opens)
    (r : Reading) : body.foldl takeWord r =
      { r with
        rejections := r.rejections ++ badTokensOf body
        block := if r.collecting = .block then r.block ++ numbersOf body else r.block
        shift := if r.collecting = .shift then r.shift ++ numbersOf body else r.shift } := by
  induction body generalizing r with
  | nil => simp [badTokensOf, numbersOf]
  | cons w rest ih =>
    have hrest : ∀ w ∈ rest, ∀ opens, w ≠ .keyword opens :=
      fun w' hw' => h w' (List.mem_cons_of_mem _ hw')
    rw [List.foldl_cons, ih hrest]
    cases w with
    | keyword opens => exact absurd rfl (h _ List.mem_cons_self opens)
    | number n =>
      unfold takeWord
      cases r.collecting with
      | block => simp
      | shift => simp
    | other text =>
      unfold takeWord
      simp only [badTokensOf_other, numbersOf_other, List.append_assoc, List.singleton_append]

/-! ### Reading group by group -/

/-- Reads `g` and closes the shift that it may have opened. -/
def readGroup (r : Reading) (g : Group) : Reading :=
  (g.body.foldl takeWord (r.opened g.opens)).close

/-- Reading words, and then `close`, is `readGroup` of every group after what stands in front. -/
theorem close_foldl_takeWord (words : List Word) (r : Reading) :
    (words.foldl takeWord r).close =
      (cut words).2.foldl readGroup ((cut words).1.foldl takeWord r).close := by
  induction words generalizing r with
  | nil => rfl
  | cons w rest ih =>
    rw [List.foldl_cons, ih]
    cases w with
    | keyword opens => rfl
    | number n => rfl
    | other text => rfl

theorem close_of_shift_eq_nil {r : Reading} (h : r.shift = []) : r.close = r := by
  unfold close
  rw [h]
  rfl

theorem close_of_declare_ok {r : Reading} (declared : Declaration) (h : r.shift ≠ [])
    (hdeclare : declare r.block r.shift = .ok declared) :
    r.close = { r with grid := r.grid.add declared.1 declared.2, shift := [] } := by
  unfold close
  rw [if_neg (by rwa [List.isEmpty_iff]), hdeclare]

theorem close_of_declare_error {r : Reading} (rejection : Rejection) (h : r.shift ≠ [])
    (hdeclare : declare r.block r.shift = .error rejection) :
    r.close = { r with rejections := r.rejections ++ [rejection], shift := [] } := by
  unfold close
  rw [if_neg (by rwa [List.isEmpty_iff]), hdeclare]

/-- **One group**: `readGroup` adds `g.accepted`, rejects `g.rejected`, and puts the numbers of a
block in force. -/
theorem readGroup_eq {r : Reading} (hr : r.shift = []) {g : Group} (hg : g.IsClosed) :
    r.readGroup g =
      { grid := r.grid.addAll (g.accepted r.block)
        rejections := r.rejections ++ g.rejected r.block
        collecting := g.opens
        block := if g.opens = .block then g.numbers else r.block
        shift := [] } := by
  obtain ⟨opens, body⟩ := g
  unfold readGroup Group.accepted Group.rejected Group.verdict?
  rw [foldl_takeWord_body hg]
  cases opens with
  | block =>
    rw [close_of_shift_eq_nil (by exact hr)]
    simp [opened, hr, Grid.addAll, Group.numbers]
  | shift =>
    -- without numbers there is no shift to close
    by_cases hempty : numbersOf body = []
    · rw [close_of_shift_eq_nil (by simp [opened, hr, hempty])]
      simp [opened, hr, hempty, Grid.addAll, Group.numbers]
    · cases hdeclare : declare r.block (numbersOf body) with
      | ok declared =>
        rw [close_of_declare_ok declared]
        · simp [opened, hempty, hdeclare, Grid.addAll, Group.numbers]
        · simpa [opened, hr] using hempty
        · simpa [opened, hr] using hdeclare
      | error rejection =>
        rw [close_of_declare_error rejection]
        · simp [opened, hempty, hdeclare, Grid.addAll, Group.numbers]
        · simpa [opened, hr] using hempty
        · simpa [opened, hr] using hdeclare

/-- **All groups**: reading them from the start adds `accepted gs`, rejects `rejected gs` and leaves
`daysInForce gs`, with no shift open. -/
theorem readGroups_eq {gs : List Group} (hgs : ∀ g ∈ gs, g.IsClosed) :
    ∃ collecting, gs.foldl readGroup start =
      ⟨Grid.empty.addAll (accepted gs), rejected gs, collecting, daysInForce gs, []⟩ := by
  induction gs using List.reverseRecOn with
  | nil => exact ⟨.shift, rfl⟩
  | append_singleton gs g ih =>
    obtain ⟨collecting, hread⟩ := ih fun g' hg' => hgs g' (List.mem_append_left _ hg')
    refine ⟨g.opens, ?_⟩
    rw [List.foldl_append, hread, List.foldl_cons, List.foldl_nil,
      readGroup_eq rfl (hgs g (List.mem_append_right _ List.mem_cons_self)), accepted_concat,
      rejected_concat, daysInForce_concat]
    unfold Grid.addAll
    rw [List.foldl_append]

end Reading

/-! ### Reading a list of tokens -/

namespace Grid

open Reading

/-- `addAll` appends to the table of shifts, in order. -/
theorem shifts_addAll (g : Grid) (declared : List Declaration) :
    (g.addAll declared).shifts.toList = g.shifts.toList ++ declared.map Prod.fst := by
  induction declared generalizing g with
  | nil => exact (List.append_nil _).symm
  | cons d rest ih =>
    show ((g.add d.1 d.2).addAll rest).shifts.toList = _
    rw [ih]
    show (g.shifts.push d.1).toList ++ rest.map Prod.fst = _
    rw [Array.toList_push, List.append_assoc]
    rfl

theorem ofTokens_eq (tokens : List String) :
    ofTokens tokens =
      ({ empty.addAll (accepted (groups (tokens.map Word.ofToken))) with tokens := tokens },
        rejected (groups (tokens.map Word.ofToken))) := by
  set words := tokens.map Word.ofToken
  obtain ⟨collecting, hread⟩ := readGroups_eq fun g (hg : g ∈ groups words) =>
    isClosed_of_mem_groups hg
  -- at the start no shift is open and numbers belong to a shift, as after a `shift`
  have hclose : (tokens.foldl take start).close = (groups words).foldl readGroup start := by
    rw [foldl_take, close_foldl_takeWord]
    rfl
  unfold ofTokens
  dsimp only
  rw [hclose, hread]

/-- **Reading follows the grammar.**  The `groups` are all the words in order, closed at every
keyword, and `declare` gives the one `Verdict` on each; `ofTokens` adds the shifts that are
`accepted`, and reports the groups that are `rejected`. -/
theorem ofTokens_groups (tokens : List String) :
    let words := tokens.map Word.ofToken
    (groups words).flatMap Group.words = .keyword .shift :: words ∧
      (∀ g ∈ groups words, g.IsClosed) ∧
      (∀ days numbers outcome, declare days numbers = outcome ↔ Verdict days numbers outcome) ∧
      (ofTokens tokens).1 = { empty.addAll (accepted (groups words)) with tokens := tokens } ∧
      (ofTokens tokens).1.shifts.toList = (accepted (groups words)).map Prod.fst ∧
      (ofTokens tokens).2 = rejected (groups words) := by
  intro words
  have hread := ofTokens_eq tokens
  have hgrid : (ofTokens tokens).1 =
      { empty.addAll (accepted (groups words)) with tokens := tokens } := congrArg Prod.fst hread
  refine ⟨flatMap_words_groups words, fun g hg => isClosed_of_mem_groups hg,
    fun _ _ _ => declare_eq_iff, hgrid, ?_, congrArg Prod.snd hread⟩
  rw [hgrid]
  exact empty.shifts_addAll _

/-- Numbers before any keyword, a block that is replaced, one that is left empty, a number too many
and two stray words. -/
def strayTokens : List String :=
  ["x", "8", "8", "3", " block ", "1", "9", "shift", "8", "8", "8", "block", "1", "shift", "25",
    "1", "1", "shift", "8", "8", "6", "7", "y", "block", "shift", "1"]

theorem ofTokens_groups_strayTokens :
    (ofTokens strayTokens).1.shifts.toList.map Shift.trucks = [6] ∧
      (ofTokens strayTokens).2 =
        [.badToken "x", .emptyBlock [8, 8, 3], .badBlock [1, 9], .badStart 25, .badToken "y",
          .emptyBlock [1]] := by
  obtain ⟨_, _, _, _, hshifts, hrejected⟩ := ofTokens_groups strayTokens
  rw [hshifts, hrejected]
  decide +kernel

end Grid

end TruckDepot
