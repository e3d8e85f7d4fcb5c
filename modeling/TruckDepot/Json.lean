/-!
# JSON values

A JSON value keeps its numbers and its strings as they are spelled: a number is its text, and a
string is the text between its quotes with all escapes in place. What they mean is asked for only
where it matters, so a part of a document that nobody reads need not mean anything. -/

namespace TruckDepot

/-- A JSON value. -/
inductive Json where
  /-- The value `null`. -/
  | null
  /-- A truth value. -/
  | truth (value : Bool)
  /-- A number as it is spelled. -/
  | number (text : List Char)
  /-- A string as it is spelled between its quotes. -/
  | string (text : List Char)
  /-- An array. -/
  | array (items : List Json)
  /-- An object, its keys as they are spelled between their quotes. -/
  | object (members : List (List Char × Json))
  deriving Repr

end TruckDepot
