/-!
# Columns

Text set in columns: filled up with spaces on the left to a least width, counted in characters. A
longer text is not cut.
-/

namespace TruckDepot.Text

/-- Fills a text up on the left. -/
def alignRight (width : Nat) (s : String) : String :=
  String.ofList (List.replicate (width - s.length) ' ') ++ s

/-- A natural number of at least two digits. -/
def twoDigits (n : Nat) : String :=
  if n < 10 then "0" ++ toString n else toString n

end TruckDepot.Text
