import TruckDepot.Json
import TruckDepot.Json.Token

/-!
# Reading JSON

A text is read token by token. The reader holds the containers that are still open, innermost first,
and knows what may come next; a token that may not come ends the reading. Arrays and objects may be
nested to any depth.
-/

namespace TruckDepot.Json

/-- A container that is still open, and waits for a value. What it holds so far is in reverse
order. -/
inductive Open where
  /-- An array with some items. -/
  | array (items : List Json)
  /-- An object with some members and the key of the value to come. -/
  | object (members : List (List Char × Json)) (key : List Char)

/-- What may come next, inside of which containers. -/
inductive Expecting where
  /-- A value. -/
  | value (outer : List Open)
  /-- The first item of an array, or its end. -/
  | itemOrEnd (outer : List Open)
  /-- The first key of an object, or its end. -/
  | keyOrEnd (outer : List Open)
  /-- A key. -/
  | key (members : List (List Char × Json)) (outer : List Open)
  /-- The colon after a key. -/
  | colon (members : List (List Char × Json)) (key : List Char) (outer : List Open)
  /-- A comma in an array, or its end. -/
  | nextItem (items : List Json) (outer : List Open)
  /-- A comma in an object, or its end. -/
  | nextMember (members : List (List Char × Json)) (outer : List Open)
  /-- Nothing. -/
  | nothing (value : Json)

/-- Puts a value into the innermost container. -/
def settle (value : Json) : List Open → Expecting
  | [] => .nothing value
  | .array items :: outer => .nextItem (value :: items) outer
  | .object members key :: outer => .nextMember ((key, value) :: members) outer

/-- Takes the first token of a value. -/
def Expecting.begin (outer : List Open) : Token → Option Expecting
  | .null => some (settle .null outer)
  | .truth b => some (settle (.truth b) outer)
  | .number text => some (settle (.number text) outer)
  | .string text => some (settle (.string text) outer)
  | .openArray => some (.itemOrEnd outer)
  | .openObject => some (.keyOrEnd outer)
  | _ => none

/-- Takes a token. -/
def Expecting.take : Expecting → Token → Option Expecting
  | .value outer, token => begin outer token
  | .itemOrEnd outer, .closeArray => some (settle (.array []) outer)
  | .itemOrEnd outer, token => begin (.array [] :: outer) token
  | .keyOrEnd outer, .closeObject => some (settle (.object []) outer)
  | .keyOrEnd outer, .string name => some (.colon [] name outer)
  | .key members outer, .string name => some (.colon members name outer)
  | .colon members name outer, .colon => some (.value (.object members name :: outer))
  | .nextItem items outer, .comma => some (.value (.array items :: outer))
  | .nextItem items outer, .closeArray => some (settle (.array items.reverse) outer)
  | .nextMember members outer, .comma => some (.key members outer)
  | .nextMember members outer, .closeObject => some (settle (.object members.reverse) outer)
  | _, _ => none

/-- The value that a list of tokens spells. -/
def ofTokens (tokens : List Token) : Option Json :=
  match tokens.foldlM Expecting.take (.value []) with
  | some (.nothing value) => some value
  | _ => none

/-- Reads a text as one JSON value. -/
def parse (s : List Char) : Option Json :=
  (lex s).bind ofTokens

end TruckDepot.Json
