import TruckDepot.Json

/-!
# Writing JSON

A value is written over several lines, with two spaces for each level of nesting. An empty array or
object is written on one line.
-/

namespace TruckDepot.Json

/-- A new line at some level of nesting. -/
def newLine (level : Nat) : List Char :=
  '\n' :: List.replicate (2 * level) ' '

/-- A string between its quotes. -/
def quoted (text : List Char) : List Char :=
  '"' :: text ++ ['"']

mutual

/-- A value at some level of nesting. -/
def pretty (level : Nat) : Json → List Char
  | .null => ['n', 'u', 'l', 'l']
  | .truth true => ['t', 'r', 'u', 'e']
  | .truth false => ['f', 'a', 'l', 's', 'e']
  | .number text => text
  | .string text => quoted text
  | .array [] => ['[', ']']
  | .array (item :: items) =>
    '[' :: newLine (level + 1) ++ pretty (level + 1) item ++ prettyItems (level + 1) items ++
      newLine level ++ [']']
  | .object [] => ['\x7b', '\x7d']
  | .object ((key, value) :: members) =>
    '\x7b' :: newLine (level + 1) ++ quoted key ++ [':', ' '] ++ pretty (level + 1) value ++
      prettyMembers (level + 1) members ++ newLine level ++ ['\x7d']

/-- The items of an array after its first. -/
def prettyItems (level : Nat) : List Json → List Char
  | [] => []
  | item :: items => ',' :: newLine level ++ pretty level item ++ prettyItems level items

/-- The members of an object after its first. -/
def prettyMembers (level : Nat) : List (List Char × Json) → List Char
  | [] => []
  | (key, value) :: members =>
    ',' :: newLine level ++ quoted key ++ [':', ' '] ++ pretty level value ++
      prettyMembers level members

end

/-- The text of a value. -/
def text (value : Json) : List Char :=
  pretty 0 value

end TruckDepot.Json
