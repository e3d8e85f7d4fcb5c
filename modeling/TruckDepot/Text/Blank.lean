import TruckDepot.Text.Cut

/-!
# Blank characters

The characters with the Unicode property `White_Space`, and the two operations on text that depend
on them: taking blanks off both ends, and cutting a text into its words. -/

namespace TruckDepot.Text

/-- The ranges of code points with the property `White_Space`, ends included. -/
def blankRanges : List (Nat × Nat) :=
  [(0x9, 0xD), (0x20, 0x20), (0x85, 0x85), (0xA0, 0xA0), (0x1680, 0x1680), (0x2000, 0x200A),
    (0x2028, 0x2029), (0x202F, 0x202F), (0x205F, 0x205F), (0x3000, 0x3000)]

/-- The character is blank. -/
def isBlank (c : Char) : Bool :=
  blankRanges.any fun (first, last) => first ≤ c.toNat && c.toNat ≤ last

/-- The text without the blanks at both ends. -/
def trimmed (s : List Char) : List Char :=
  ((s.dropWhile isBlank).reverse.dropWhile isBlank).reverse

/-- The string without the blanks at both ends. -/
def trim (s : String) : String :=
  String.ofList (trimmed s.toList)

/-- The words of a text: its longest runs without a blank. -/
def words (s : String) : List String :=
  ((cutAt isBlank s.toList).filter (!·.isEmpty)).map String.ofList

end TruckDepot.Text
