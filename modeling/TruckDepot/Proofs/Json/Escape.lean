import Mathlib.Tactic.Common
import TruckDepot.Json.Token

/-!
# Texts between quotes

The spelling of a text can stand between quotes (`Json.spells_escape`) and is read back as the text
(`Json.unescape_escape`), whatever characters are in it.  Both go character by character: what
spells a character is taken off the front of a string as a whole (`Json.body?_escapeChar`) and means
that character (`Json.unescape_escapeChar`).
-/

namespace TruckDepot.Json

open Text

/-! ### Spelling one character -/

/-- `unescapeLetter?` undoes `shortEscape?`, and no such letter is `u`. -/
theorem unescapeLetter?_of_shortEscape? {c letter : Char} (h : shortEscape? c = some letter) :
    letter ≠ 'u' ∧ unescapeLetter? letter = some c := by
  unfold shortEscape? at h
  split_ifs at h with hc hc hc hc hc hc hc
  all_goals
    obtain rfl := Option.some.inj h
    subst hc
    decide

theorem hexUnit?_of_control {n : Nat} (h : n < 0x20) :
    hexUnit? '0' '0' (Nat.digitChar (n / 16)) (Nat.digitChar (n % 16)) = some n := by
  -- thirty-two cases, all of them decided
  have hall : ∀ n : Fin 0x20,
      hexUnit? '0' '0' (Nat.digitChar (n.val / 16)) (Nat.digitChar (n.val % 16)) = some n.val := by
    decide
  exact hall ⟨n, h⟩

/-- `escapeChar` spells a character by a letter, by its code, or by itself. -/
theorem escapeChar_cases (c : Char) :
    (∃ letter, letter ≠ 'u' ∧ unescapeLetter? letter = some c ∧ escapeChar c = ['\\', letter]) ∨
      (∃ high low, hexUnit? '0' '0' high low = some c.toNat ∧ c.toNat < 0x20 ∧
        escapeChar c = ['\\', 'u', '0', '0', high, low]) ∨
      (c ≠ '"' ∧ c ≠ '\\' ∧ ¬ c.toNat < 0x20 ∧ escapeChar c = [c]) := by
  unfold escapeChar
  cases hshort : shortEscape? c with
  | some letter =>
    obtain ⟨hu, hletter⟩ := unescapeLetter?_of_shortEscape? hshort
    exact Or.inl ⟨letter, hu, hletter, rfl⟩
  | none =>
    refine Or.inr ?_
    dsimp only
    split_ifs with hcontrol
    · exact Or.inl ⟨_, _, hexUnit?_of_control hcontrol, hcontrol, rfl⟩
    · refine Or.inr ⟨?_, ?_, hcontrol, rfl⟩
      -- a quote and a backslash have letters of their own
      · rintro rfl
        cases hshort
      · rintro rfl
        cases hshort

/-! ### Reading up to the closing quote -/

/-- The spelling of a string up to its closing quote (`stringBody`), and what is left behind
that. -/
def body? (s : List Char) : Option (List Char × List Char) :=
  (stringBody s).map fun (body, left) => (body, left.1)

theorem body?_quote (s : List Char) : body? ('"' :: s) = some ([], s) := by
  unfold body?
  rw [stringBody]
  rfl

theorem body?_letter {letter c : Char} (hu : letter ≠ 'u') (h : unescapeLetter? letter = some c)
    (s : List Char) : body? ('\\' :: letter :: s) =
      (body? s).map fun (body, left) => ('\\' :: letter :: body, left) := by
  unfold body?
  rw [stringBody, h]
  · cases stringBody s with
    | none => rfl
    | some found => rfl
  -- only the letter `u` has its code behind it
  · rintro _ _ _ _ _ rfl
    exact absurd rfl hu

theorem body?_unit {a b c d : Char} {n : Nat} (h : hexUnit? a b c d = some n) (s : List Char) :
    body? ('\\' :: 'u' :: a :: b :: c :: d :: s) =
      (body? s).map fun (body, left) => ('\\' :: 'u' :: a :: b :: c :: d :: body, left) := by
  unfold body?
  rw [stringBody, h]
  cases stringBody s with
  | none => rfl
  | some found => rfl

theorem body?_plain {c : Char} (hquote : c ≠ '"') (hslash : c ≠ '\\') (hcontrol : ¬ c.toNat < 0x20)
    (s : List Char) : body? (c :: s) = (body? s).map fun (body, left) => (c :: body, left) := by
  have hplain : ¬ (decide (c.toNat < 0x20) || decide (c = '\\')) = true := by
    rw [Bool.or_eq_true, decide_eq_true_iff, decide_eq_true_iff]
    exact not_or.mpr ⟨hcontrol, hslash⟩
  unfold body?
  rw [stringBody, if_neg hplain]
  · cases stringBody s with
    | none => rfl
    | some found => rfl
  · exact hquote
  · exact fun _ _ _ _ _ h => absurd h hslash
  · exact fun _ _ h => absurd h hslash

theorem body?_escapeChar (c : Char) (s : List Char) : body? (escapeChar c ++ s) =
    (body? s).map fun (body, left) => (escapeChar c ++ body, left) := by
  rcases escapeChar_cases c with
    ⟨letter, hu, hletter, heq⟩ | ⟨high, low, hunit, -, heq⟩ | ⟨hquote, hslash, hcontrol, heq⟩
  · rw [heq]
    exact body?_letter hu hletter s
  · rw [heq]
    exact body?_unit hunit s
  · rw [heq]
    exact body?_plain hquote hslash hcontrol s

/-- The text can stand between quotes: `body?` takes all of it and stops at the quote. -/
def Spells (t : List Char) : Prop :=
  ∀ rest, body? (t ++ '"' :: rest) = some (t, rest)

theorem spells_escape (s : List Char) : Spells (escape s) := by
  intro rest
  unfold escape
  induction s with
  | nil => exact body?_quote rest
  | cons c s ih =>
    rw [List.flatMap_cons, List.append_assoc, body?_escapeChar, ih]
    rfl

/-! ### Reading it back -/

/-- `unescape` takes off what spells `c` and gives `c`. -/
theorem unescape_escapeChar (c : Char) (s : List Char) :
    unescape (escapeChar c ++ s) = (unescape s).map (c :: ·) := by
  rcases escapeChar_cases c with
    ⟨letter, hu, hletter, heq⟩ | ⟨high, low, hunit, hcontrol, heq⟩ | ⟨-, hslash, -, heq⟩
  · rw [heq]
    show unescape ('\\' :: letter :: s) = _
    rw [unescape, hletter]
    · rfl
    · rintro _ _ _ _ _ rfl
      exact absurd rfl hu
  · rw [heq]
    show unescape ('\\' :: 'u' :: '0' :: '0' :: high :: low :: s) = _
    -- a control character is below both halves of a character
    have hleading : isLeadingHalf c.toNat = false := by
      unfold isLeadingHalf
      rw [decide_eq_false (by omega), Bool.false_and]
    have htrailing : isTrailingHalf c.toNat = false := by
      unfold isTrailingHalf
      rw [decide_eq_false (by omega), Bool.false_and]
    rw [unescape, hunit, Option.bind_eq_bind, Option.bind_some, hleading, htrailing,
      Char.ofNat_toNat]
    rfl
  · rw [heq]
    show unescape (c :: s) = _
    rw [unescape]
    · exact fun _ _ _ _ _ h => absurd h hslash
    · exact fun _ _ h => absurd h hslash

/-- **`unescape` undoes `escape`**, whatever characters the text has. -/
theorem unescape_escape (s : List Char) : unescape (escape s) = some s := by
  unfold escape
  induction s with
  | nil => rfl
  | cons c s ih =>
    rw [List.flatMap_cons, unescape_escapeChar, ih]
    rfl

end TruckDepot.Json
