import TruckDepot.Json.Token
import TruckDepot.Proofs.Decimal.Numeral

/-!
# What is spelled as a JSON number

A JSON number has no other characters than those that the reader takes for one
(`Json.numberChars_of_isNumber`), and a numeral is a JSON number if it begins with a minus sign or a
digit, and with a zero only where no other digit follows (`Json.isNumber_of_plainNumeral`).
-/

namespace TruckDepot.Json

open Decimal

/-! ### Characters -/

/-- Every character of the text can stand in a number (`isNumberChar`). -/
def NumberChars (s : List Char) : Prop :=
  ∀ c ∈ s, isNumberChar c = true

theorem isNumberChar_of_isDigit {c : Char} (h : c.isDigit = true) : isNumberChar c = true := by
  unfold isNumberChar
  rw [h]
  rfl

theorem numberChars_of_takeSign {s : List Char} (h : NumberChars (Numeral.takeSign s).2) :
    NumberChars s := by
  unfold Numeral.takeSign at h
  split at h
  · exact List.forall_mem_cons.mpr ⟨rfl, h⟩
  · exact List.forall_mem_cons.mpr ⟨rfl, h⟩
  · exact h

theorem numberChars_of_takeDigits? {s rest : List Char} {digits : List Nat}
    (h : Numeral.takeDigits? s = some (digits, rest)) (hrest : NumberChars rest) :
    NumberChars s := by
  have hleft : s.dropWhile Char.isDigit = rest := by
    unfold Numeral.takeDigits? Numeral.takeDigits at h
    split at h
    · cases h
    · exact (Prod.mk.inj (Option.some.inj h)).2
  intro c hc
  rw [← List.takeWhile_append_dropWhile (p := Char.isDigit) (l := s), hleft] at hc
  rcases List.mem_append.mp hc with hdigit | hlater
  · exact isNumberChar_of_isDigit (List.mem_takeWhile_imp hdigit)
  · exact hrest c hlater

theorem numberChars_of_takeFraction? {s rest : List Char} {fraction : Option (List Nat)}
    (h : Numeral.takeFraction? s = some (fraction, rest)) (hrest : NumberChars rest) :
    NumberChars s := by
  unfold Numeral.takeFraction? at h
  split at h
  · obtain ⟨⟨digits, left⟩, hdigits, heq⟩ := Option.map_eq_some_iff.mp h
    obtain rfl : left = rest := (Prod.mk.inj heq).2
    exact List.forall_mem_cons.mpr ⟨rfl, numberChars_of_takeDigits? hdigits hrest⟩
  · obtain rfl : s = rest := (Prod.mk.inj (Option.some.inj h)).2
    exact hrest

theorem numberChars_of_takeExponent? {s : List Char} {exponent : Option Int}
    (h : Numeral.takeExponent? s = some exponent) : NumberChars s := by
  unfold Numeral.takeExponent? at h
  split at h
  · exact fun c hc => absurd hc List.not_mem_nil
  · rename_i c s
    split_ifs at h with hletter
    · have hc : isNumberChar c = true := by
        rcases hletter with rfl | rfl
        · rfl
        · rfl
      refine List.forall_mem_cons.mpr ⟨hc, numberChars_of_takeSign ?_⟩
      dsimp only at h
      split at h
      · rename_i hdigits
        exact numberChars_of_takeDigits? hdigits fun c hc => absurd hc List.not_mem_nil
      · cases h

theorem numberChars_of_ofChars? {s : List Char} {n : Numeral} (h : Numeral.ofChars? s = some n) :
    NumberChars s := by
  unfold Numeral.ofChars? at h
  obtain ⟨⟨whole, afterWhole⟩, hwhole, h⟩ := Option.bind_eq_some_iff.mp h
  obtain ⟨⟨fraction, afterFraction⟩, hfraction, h⟩ := Option.bind_eq_some_iff.mp h
  obtain ⟨exponent, hexponent, -⟩ := Option.bind_eq_some_iff.mp h
  -- from the back to the front: each part leaves a rest of which it is known already
  exact numberChars_of_takeSign (numberChars_of_takeDigits? hwhole
    (numberChars_of_takeFraction? hfraction (numberChars_of_takeExponent? hexponent)))

theorem numberChars_of_isNumber {s : List Char} (h : isNumber s = true) : NumberChars s := by
  unfold isNumber at h
  split at h
  · cases h
  · rename_i n hn
    exact numberChars_of_ofChars? hn

/-! ### The first digits -/

/-- A `PlainNumeral` is a JSON number, with or without a minus sign. -/
theorem isNumber_of_plainNumeral {text digits : List Char} (h : PlainNumeral digits)
    (htext : text = digits ∨ text = '-' :: digits) : isNumber text = true := by
  obtain ⟨⟨c, rest, rfl, hdigit, hzero⟩, n, hn⟩ := h
  -- behind the sign both begin with the digit `c`
  have hsign : (Numeral.takeSign text).2 = c :: rest ∧ text.head? ≠ some '+' ∧
      ∃ n, Numeral.ofChars? text = some n := by
    rcases htext with rfl | rfl
    · rw [takeSign_of_isDigit hdigit]
      refine ⟨rfl, ?_, n, hn⟩
      rintro ⟨⟩
      cases hdigit
    · rw [ofChars?_minus hdigit, hn]
      refine ⟨rfl, ?_, _, rfl⟩
      rintro ⟨⟩
  obtain ⟨hbehind, hplus, n, hn⟩ := hsign
  -- the digits before the point are those at the front, and of them only the first one matters
  have hwhole := whole_ofChars? hn
  rw [hbehind, List.takeWhile_cons_of_pos hdigit, List.map_cons] at hwhole
  unfold isNumber
  rw [hn]
  show (text.head? != some '+' && (n.whole.length == 1 || n.whole.head? != some 0)) = true
  rw [bne_iff_ne.mpr hplus, Bool.true_and, Bool.or_eq_true, hwhole]
  by_cases hc : c = '0'
  · left
    rw [hzero hc]
    rfl
  · right
    exact bne_iff_ne.mpr fun heq => digitValue_ne_zero hdigit hc (Option.some.inj heq)

theorem isNumber_toDigits (n : Nat) : isNumber (Nat.toDigits 10 n) = true :=
  isNumber_of_plainNumeral (plainNumeral_toDigits n) (Or.inl rfl)

end TruckDepot.Json
