import TruckDepot.Power

/-!
# Decimal integers as text

An integer is read from an optional sign and at least one ASCII digit, and from nothing else: no
blanks, no separators, no other digits. It is then held to the range of a 64-bit word.
-/

namespace TruckDepot.Text

/-- Reads one or more ASCII digits. -/
def natural? (s : List Char) : Option Nat :=
  if s.isEmpty || !s.all Char.isDigit then none
  else some (s.foldl (fun n c => 10 * n + (c.toNat - '0'.toNat)) 0)

/-- Reads an optional sign and one or more ASCII digits. -/
def integer? : List Char → Option Int
  | '-' :: digits => (natural? digits).map fun n => -(n : Int)
  | '+' :: digits => (natural? digits).map fun n => (n : Int)
  | digits => (natural? digits).map fun n => (n : Int)

/-- Reads an integer that fits a signed 64-bit word. -/
def signed64? (s : String) : Option Int :=
  (integer? s.toList).filter fun n => -(twoTo 63 : Int) ≤ n && n < twoTo 63

/-- Reads a natural number that fits an unsigned 64-bit word. A plus sign may stand in front. -/
def unsigned64? (s : String) : Option Nat :=
  let digits :=
    match s.toList with
    | '+' :: digits => digits
    | digits => digits
  (natural? digits).filter fun n => n < twoTo 64

end TruckDepot.Text
