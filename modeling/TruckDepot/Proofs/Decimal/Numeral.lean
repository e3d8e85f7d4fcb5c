import Mathlib.Data.List.Induction
import Mathlib.Data.List.TakeWhile
import Mathlib.Tactic.Common
import Mathlib.Tactic.Ring
import TruckDepot.Decimal.Numeral

/-!
# Reading and writing numerals

A numeral is read part by part: a run of digits, then a point with more digits or none, then a power
of ten or none (`Decimal.ofChars?_append`).  The digits of a natural number are a numeral by
themselves (`Decimal.ofChars?_toDigits`), and stand for that number
(`Decimal.digitsValue_toDigits`).  They begin with a zero only where it is their only digit
(`Decimal.beginsPlain_toDigits`).
-/

namespace TruckDepot.Decimal

/-! ### Reading -/

/-- The value of a digit, `0` for `'0'`. -/
def digitValue (c : Char) : Nat :=
  c.toNat - '0'.toNat

theorem digitValue_ne_zero {c : Char} (hdigit : c.isDigit = true) (hc : c ≠ '0') :
    digitValue c ≠ 0 := by
  have hge : '0'.toNat ≤ c.toNat :=
    UInt32.le_iff_toNat_le.mp (of_decide_eq_true (Bool.and_eq_true_iff.mp hdigit).1)
  have hne : c.toNat ≠ '0'.toNat := fun h => hc (Char.toNat_inj.mp h)
  unfold digitValue
  omega

theorem whole_ofChars? {s : List Char} {n : Numeral} (h : Numeral.ofChars? s = some n) :
    n.whole = ((Numeral.takeSign s).2.takeWhile Char.isDigit).map digitValue := by
  unfold Numeral.ofChars? at h
  obtain ⟨⟨whole, afterWhole⟩, hwhole, h⟩ := Option.bind_eq_some_iff.mp h
  obtain ⟨⟨fraction, afterFraction⟩, -, h⟩ := Option.bind_eq_some_iff.mp h
  obtain ⟨exponent, -, h⟩ := Option.bind_eq_some_iff.mp h
  obtain rfl := Option.some.inj h
  unfold Numeral.takeDigits? Numeral.takeDigits at hwhole
  split at hwhole
  · cases hwhole
  · exact (Prod.mk.inj (Option.some.inj hwhole)).1.symm

theorem takeSign_of_isDigit {c : Char} (h : c.isDigit = true) (rest : List Char) :
    Numeral.takeSign (c :: rest) = (false, c :: rest) := by
  rw [Numeral.takeSign]
  · rintro _ heq
    rw [(List.cons.inj heq).1] at h
    cases h
  · rintro _ heq
    rw [(List.cons.inj heq).1] at h
    cases h

/-- A minus sign in front of a digit sets `negative` and changes nothing else. -/
theorem ofChars?_minus {c : Char} (h : c.isDigit = true) (rest : List Char) :
    Numeral.ofChars? ('-' :: c :: rest) =
      (Numeral.ofChars? (c :: rest)).map fun n => { n with negative := true } := by
  have hsign : Numeral.takeSign ('-' :: c :: rest) = (true, c :: rest) := rfl
  -- behind the sign both read the same text, and each part may be missing on both sides alike
  unfold Numeral.ofChars?
  rw [takeSign_of_isDigit h, hsign]
  dsimp only
  cases Numeral.takeDigits? (c :: rest) with
  | none => rfl
  | some whole =>
    show (Numeral.takeFraction? whole.2).bind _ =
      Option.map _ ((Numeral.takeFraction? whole.2).bind _)
    cases Numeral.takeFraction? whole.2 with
    | none => rfl
    | some fraction =>
      show (Numeral.takeExponent? fraction.2).bind _ =
        Option.map _ ((Numeral.takeExponent? fraction.2).bind _)
      cases Numeral.takeExponent? fraction.2 with
      | none => rfl
      | some exponent => rfl

/-! ### Part by part -/

/-- A run of digits (`isDigit`), at least one. -/
structure Digits (s : List Char) : Prop where
  ne_nil : s ≠ []
  isDigit : ∀ c ∈ s, c.isDigit = true

theorem digits_zero : Digits ['0'] := by
  refine ⟨List.cons_ne_nil _ _, fun c hc => ?_⟩
  rw [List.mem_singleton.mp hc]
  rfl

theorem Digits.append_zeros {s : List Char} (h : Digits s) (zeros : Nat) :
    Digits (s ++ List.replicate zeros '0') := by
  refine ⟨List.append_ne_nil_of_left_ne_nil h.ne_nil _, fun c hc => ?_⟩
  rcases List.mem_append.mp hc with hdigit | hzero
  · exact h.isDigit c hdigit
  · rw [List.eq_of_mem_replicate hzero]
    rfl

theorem Digits.zeros_append {s : List Char} (h : Digits s) (zeros : Nat) :
    Digits (List.replicate zeros '0' ++ s) := by
  refine ⟨List.append_ne_nil_of_right_ne_nil _ h.ne_nil, fun c hc => ?_⟩
  rcases List.mem_append.mp hc with hzero | hdigit
  · rw [List.eq_of_mem_replicate hzero]
    rfl
  · exact h.isDigit c hdigit

theorem Digits.take {s : List Char} (h : Digits s) (count : Nat) : Digits (s.take (count + 1)) := by
  refine ⟨?_, fun c hc => h.isDigit c (List.mem_of_mem_take hc)⟩
  cases s with
  | nil => exact absurd rfl h.ne_nil
  | cons c s => exact List.cons_ne_nil _ _

theorem Digits.drop {s : List Char} (h : Digits s) {count : Nat} (hcount : count < s.length) :
    Digits (s.drop count) :=
  ⟨fun hnil => Nat.not_le.mpr hcount (List.drop_eq_nil_iff.mp hnil),
    fun c hc => h.isDigit c (List.mem_of_mem_drop hc)⟩

/-- What is left, `rest`, does not go on with digits. -/
def StopsDigits (rest : List Char) : Prop :=
  ∀ c ∈ rest.head?, c.isDigit = false

theorem stopsDigits_nil : StopsDigits [] := by
  rintro c ⟨⟩

variable {run rest : List Char}

theorem takeDigits?_append (h : Digits run) (hrest : StopsDigits rest) :
    Numeral.takeDigits? (run ++ rest) = some (run.map digitValue, rest) := by
  have htake : (run ++ rest).takeWhile Char.isDigit = run := by
    rw [List.takeWhile_append_of_pos h.isDigit]
    cases rest with
    | nil => exact List.append_nil run
    | cons c rest =>
      rw [List.takeWhile_cons_of_neg (Bool.not_eq_true _ ▸ hrest c rfl), List.append_nil]
  have hdrop : (run ++ rest).dropWhile Char.isDigit = rest := by
    rw [List.dropWhile_append_of_pos h.isDigit]
    cases rest with
    | nil => rfl
    | cons c rest => exact List.dropWhile_cons_of_neg (Bool.not_eq_true _ ▸ hrest c rfl)
  -- a run has a digit, so it is not refused as empty
  unfold Numeral.takeDigits? Numeral.takeDigits
  rw [htake, hdrop]
  split
  · rename_i hnil
    exact absurd (List.map_eq_nil_iff.mp (Prod.mk.inj hnil).1) h.ne_nil
  · rfl

theorem takeFraction?_append (h : Digits run) (hrest : StopsDigits rest) :
    Numeral.takeFraction? ('.' :: (run ++ rest)) = some (some (run.map digitValue), rest) := by
  show (Numeral.takeDigits? (run ++ rest)).map _ = _
  rw [takeDigits?_append h hrest]
  rfl

/-- `e`, a sign and digits are read as a power of ten, negative for `-`. -/
theorem takeExponent?_signed (h : Digits run) {sign : Char} (hsign : sign = '-' ∨ sign = '+') :
    Numeral.takeExponent? ('e' :: sign :: run) =
      some (some (if sign = '-' then -(digitsValue (run.map digitValue) : Int)
        else digitsValue (run.map digitValue))) := by
  have hdigits := takeDigits?_append h stopsDigits_nil
  rw [List.append_nil] at hdigits
  have htake : Numeral.takeSign (sign :: run) = (decide (sign = '-'), run) := by
    rcases hsign with rfl | rfl
    · rfl
    · rfl
  unfold Numeral.takeExponent?
  dsimp only
  rw [if_pos (Or.inl rfl), htake, hdigits]
  simp

theorem ofChars?_append (h : Digits run) (hrest : StopsDigits rest) {left : List Char}
    {fraction : Option (List Nat)} (hfraction : Numeral.takeFraction? rest = some (fraction, left))
    {exponent : Option Int} (hexponent : Numeral.takeExponent? left = some exponent) :
    Numeral.ofChars? (run ++ rest) = some ⟨false, run.map digitValue, fraction, exponent⟩ := by
  have hdigits := takeDigits?_append h hrest
  have hsign : Numeral.takeSign (run ++ rest) = (false, run ++ rest) := by
    cases run with
    | nil => exact absurd rfl h.ne_nil
    | cons c run => exact takeSign_of_isDigit (h.isDigit c List.mem_cons_self) _
  unfold Numeral.ofChars?
  rw [hsign]
  simp only [hdigits, hfraction, hexponent, Option.bind_eq_bind, Option.bind_some]
  rfl

theorem ofChars?_point (h : Digits run) {more : List Char} (hmore : Digits more) :
    Numeral.ofChars? (run ++ '.' :: more) =
      some ⟨false, run.map digitValue, some (more.map digitValue), none⟩ := by
  have hfraction := takeFraction?_append hmore stopsDigits_nil
  rw [List.append_nil] at hfraction
  refine ofChars?_append h ?_ hfraction rfl
  rintro c ⟨⟩
  rfl

theorem ofChars?_scientific (h : Digits run) {sign : Char} (hsign : sign = '-' ∨ sign = '+')
    {power : List Char} (hpower : Digits power) :
    Numeral.ofChars? (run ++ 'e' :: sign :: power) =
      some ⟨false, run.map digitValue, none,
        some (if sign = '-' then -(digitsValue (power.map digitValue) : Int)
          else digitsValue (power.map digitValue))⟩ := by
  refine ofChars?_append h ?_ rfl (takeExponent?_signed hpower hsign)
  rintro c ⟨⟩
  rfl

theorem ofChars?_point_scientific (h : Digits run) {more : List Char} (hmore : Digits more)
    {sign : Char} (hsign : sign = '-' ∨ sign = '+') {power : List Char} (hpower : Digits power) :
    Numeral.ofChars? (run ++ '.' :: (more ++ 'e' :: sign :: power)) =
      some ⟨false, run.map digitValue, some (more.map digitValue),
        some (if sign = '-' then -(digitsValue (power.map digitValue) : Int)
          else digitsValue (power.map digitValue))⟩ := by
  have hletter : StopsDigits ('e' :: sign :: power) := by
    rintro c ⟨⟩
    rfl
  refine ofChars?_append h ?_ (takeFraction?_append hmore hletter)
    (takeExponent?_signed hpower hsign)
  rintro c ⟨⟩
  rfl

/-! ### The value of digits -/

theorem digitsValue_zeros_append (zeros : Nat) (digits : List Nat) :
    digitsValue (List.replicate zeros 0 ++ digits) = digitsValue digits := by
  induction zeros with
  | zero => rfl
  | succ zeros ih =>
    rw [List.replicate_succ, List.cons_append]
    exact ih

theorem digitsValue_append (front back : List Nat) : digitsValue (front ++ back) =
    digitsValue front * tenTo back.length + digitsValue back := by
  induction back using List.reverseRecOn with
  | nil => simp [digitsValue, tenTo]
  | append_singleton back digit ih =>
    have hconcat (digits : List Nat) : digitsValue (digits ++ [digit]) =
        10 * digitsValue digits + digit := by
      unfold digitsValue
      rw [List.foldl_append]
      rfl
    have hten : tenTo (back ++ [digit]).length = tenTo back.length * 10 := by
      rw [List.length_append]
      rfl
    rw [← List.append_assoc, hconcat, hconcat, ih, hten]
    ring

theorem digitsValue_append_zeros (digits : List Nat) (zeros : Nat) :
    digitsValue (digits ++ List.replicate zeros 0) = digitsValue digits * tenTo zeros := by
  have hzeros : digitsValue (List.replicate zeros 0) = 0 := by
    rw [← List.append_nil (List.replicate zeros 0), digitsValue_zeros_append]
    rfl
  rw [digitsValue_append, List.length_replicate, hzeros, Nat.add_zero]

/-! ### The digits of a natural number -/

/-- The digits of `n ≠ 0` do not begin with `'0'`. -/
theorem toDigits_of_ne_zero {n : Nat} (hn : n ≠ 0) :
    ∃ c rest, Nat.toDigits 10 n = c :: rest ∧ c.isDigit = true ∧ c ≠ '0' := by
  induction n using Nat.strong_induction_on with
  | _ n ih =>
    rcases Nat.lt_or_ge n 10 with hsmall | hlarge
    · have hdigit : ∀ d : Fin 10, d.val ≠ 0 →
          (Nat.digitChar d.val).isDigit = true ∧ Nat.digitChar d.val ≠ '0' := by
        decide
      exact ⟨_, [], Nat.toDigits_of_lt_base hsmall, hdigit ⟨n, hsmall⟩ hn⟩
    -- the last digit is put behind the others, so the first one stays
    · obtain ⟨c, rest, hdigits, hc⟩ := ih (n / 10) (by omega) (by omega)
      rw [Nat.toDigits_of_base_le (by decide) hlarge, hdigits]
      exact ⟨c, _, rfl, hc⟩

/-- The text begins with a digit, and with `'0'` only if no other digit follows. -/
def BeginsPlain (s : List Char) : Prop :=
  ∃ c rest, s = c :: rest ∧ c.isDigit = true ∧ (c = '0' → rest.takeWhile Char.isDigit = [])

/-- A numeral that `BeginsPlain`, and so has no sign. -/
structure PlainNumeral (s : List Char) : Prop where
  begins : BeginsPlain s
  reads : ∃ n, Numeral.ofChars? s = some n

theorem beginsPlain_toDigits (n : Nat) : BeginsPlain (Nat.toDigits 10 n) := by
  by_cases hn : n = 0
  · rw [hn]
    exact ⟨'0', [], rfl, rfl, fun _ => rfl⟩
  · obtain ⟨c, rest, hdigits, hdigit, hc⟩ := toDigits_of_ne_zero hn
    exact ⟨c, rest, hdigits, hdigit, fun h => absurd h hc⟩

theorem digits_toDigits (n : Nat) : Digits (Nat.toDigits 10 n) :=
  ⟨Nat.toDigits_ne_nil, fun _ hc => Nat.isDigit_of_mem_toDigits (by decide) (by decide) hc⟩

/-- `Nat.toDigits` is a numeral without a sign, a point or a power of ten. -/
theorem ofChars?_toDigits (n : Nat) : Numeral.ofChars? (Nat.toDigits 10 n) =
    some ⟨false, (Nat.toDigits 10 n).map digitValue, none, none⟩ := by
  have hread := ofChars?_append (digits_toDigits n) stopsDigits_nil rfl rfl
  rwa [List.append_nil] at hread

theorem plainNumeral_toDigits (n : Nat) : PlainNumeral (Nat.toDigits 10 n) :=
  ⟨beginsPlain_toDigits n, _, ofChars?_toDigits n⟩

theorem digitsValue_toDigits (n : Nat) :
    digitsValue ((Nat.toDigits 10 n).map digitValue) = n := by
  unfold digitsValue
  rw [List.foldl_map]
  exact Nat.ofDigitChars_toDigits (by decide) (by decide)

end TruckDepot.Decimal
