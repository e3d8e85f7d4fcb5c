/-!
# Cutting a text

`cutAt` cuts a text at every character of a kind. The pieces are what stands between the cuts, so
there is one piece more than there are cuts, and a piece may be empty. -/

namespace TruckDepot.Text

/-- One more character in front of a text that is already cut. -/
def cutStep (isCut : Char → Bool) (c : Char) (pieces : List (List Char)) : List (List Char) :=
  if isCut c then [] :: pieces
  else
    match pieces with
    | [] => [[c]]
    | piece :: rest => (c :: piece) :: rest

/-- The pieces of a text between the characters it is cut at. -/
def cutAt (isCut : Char → Bool) (s : List Char) : List (List Char) :=
  s.foldr (cutStep isCut) [[]]

end TruckDepot.Text
