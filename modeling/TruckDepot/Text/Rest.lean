/-!
# Rests of a text

A reader takes something from the front of a text and returns it with what is left. `Rest s` is
what is left of `s` after at least one character was taken, so a reader that goes on with it comes
to an end. -/

namespace TruckDepot.Text

/-- What is left of a text after something was taken from its front. -/
abbrev Rest (s : List Char) := { rest : List Char // rest.length < s.length }

namespace Rest

/-- What is left after one character. -/
def after (c : Char) (rest : List Char) : Rest (c :: rest) :=
  ⟨rest, Nat.lt_succ_self _⟩

/-- What is left after one character and all that follow it and are of a kind. -/
def afterAll (p : Char → Bool) (c : Char) (rest : List Char) : Rest (c :: rest) :=
  ⟨rest.dropWhile p, Nat.lt_succ_of_le (List.dropWhile_sublist p).length_le⟩

/-- A rest of a text is a rest of every text that is no shorter. -/
def widen {s t : List Char} (r : Rest s) (h : s.length ≤ t.length) : Rest t :=
  ⟨r.1, Nat.lt_of_lt_of_le r.2 h⟩

theorem length_le_append (front s : List Char) : s.length ≤ (front ++ s).length := by
  rw [List.length_append]
  exact Nat.le_add_left _ _

/-- A rest of a text is a rest of the text with more in front. -/
def behind {s : List Char} (r : Rest s) (front : List Char) : Rest (front ++ s) :=
  r.widen (length_le_append front s)

end Rest

end TruckDepot.Text
