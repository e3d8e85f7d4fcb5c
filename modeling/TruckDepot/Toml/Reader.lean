import TruckDepot.Toml.Document
import TruckDepot.Toml.Token
import TruckDepot.Toml.Word

/-!
# Reading TOML

A document is read token by token. The reader holds the document as far as it is read and knows
what may come next; a token that may not come ends the reading. Arrays may go on over several
lines and end with a comma, inline tables may do neither. -/

namespace TruckDepot.Toml

/-! ### What is still open -/

/-- What a value is for. -/
inductive Place where
  /-- A key of the document. -/
  | entry (key : Key)
  /-- An array, which holds some items so far, last one first. -/
  | item (items : List Toml) (outer : Place)
  /-- A key of an inline table, which holds some entries so far. -/
  | member (members : Table Node) (key : Key) (outer : Place)

/-- What a key is for. -/
inductive Purpose where
  /-- To name a value of the document. -/
  | entry
  /-- To name a table in a header. -/
  | table
  /-- To name an array of tables in a header. -/
  | element
  /-- To name a value of an inline table. -/
  | member (members : Table Node) (outer : Place)

/-- A key as far as it is read. -/
structure PartialKey where
  /-- The parts of the key, last one first. -/
  parts : List String
  /-- A part has just been read, and a point has to come before the next one. -/
  complete : Bool

namespace PartialKey

/-- A key of which nothing is read. -/
def start : PartialKey :=
  ⟨[], false⟩

/-- Takes the next part. -/
def addPart (k : PartialKey) (part : String) : Option PartialKey :=
  if k.complete then none else some ⟨part :: k.parts, true⟩

/-- Takes a point. -/
def addPoint (k : PartialKey) : Option PartialKey :=
  if k.complete then some { k with complete := false } else none

/-- A character of a part that is written without quotes. -/
def isBare (c : Char) : Bool :=
  c.isAlphanum || c == '_' || c == '-'

/-- Takes a part without quotes, which may be left out here. -/
def addBare (k : PartialKey) (part : List Char) : Option PartialKey :=
  if part.isEmpty then some k
  else if part.all isBare then k.addPart (String.ofList part)
  else none

/-- Takes a word, which has a point between any two of its parts. -/
def addWord (k : PartialKey) (word : List Char) : Option PartialKey :=
  match Text.cutAt (· == '.') word with
  | [] => some k
  | part :: more => do
    more.foldlM (fun k part => do (← k.addPoint).addBare part) (← k.addBare part)

/-- The key, if it does not break off. -/
def key? (k : PartialKey) : Option Key :=
  match k.parts with
  | name :: path => if k.complete then some ⟨path.reverse, name⟩ else none
  | [] => none

end PartialKey

/-! ### Reading -/

/-- What may come next. -/
inductive Expecting where
  /-- A key or a header, on a line of its own. -/
  | line
  /-- The end of the line. -/
  | lineEnd
  /-- What follows the bracket that opens a header. -/
  | header
  /-- The rest of a key. -/
  | key (purpose : Purpose) (read : PartialKey)
  /-- The second bracket that closes the header of an array of tables. -/
  | headerEnd (key : Key)
  /-- A value. -/
  | value (place : Place)
  /-- An item of an array, or its end. -/
  | itemOrEnd (items : List Toml) (outer : Place)
  /-- A comma in an array, or its end. -/
  | nextItem (items : List Toml) (outer : Place)
  /-- The first key of an inline table, or its end. -/
  | memberOrEnd (outer : Place)
  /-- A comma in an inline table, or its end. -/
  | nextMember (members : Table Node) (outer : Place)

/-- A document as far as it is read. -/
structure Reading where
  /-- All that is read. -/
  document : Document
  /-- What may come next. -/
  expecting : Expecting

namespace Reading

/-- Nothing is read yet. -/
def start : Reading :=
  ⟨.empty, .line⟩

/-- Goes on to expect something else. -/
def expect (r : Reading) (expecting : Expecting) : Reading :=
  { r with expecting }

/-- Puts a value in its place. -/
def settle (r : Reading) (value : Toml) : Place → Option Reading
  | .entry key => (r.document.assign key value).map (⟨·, .lineEnd⟩)
  | .item items outer => some (r.expect (.nextItem (value :: items) outer))
  | .member members key outer =>
    (members.assign key value).map fun members => r.expect (.nextMember members outer)

/-- Ends an array. -/
def settleArray (r : Reading) (items : List Toml) (outer : Place) : Option Reading :=
  r.settle (.array items.reverse) outer

/-- Takes a token at a place for a value. -/
def takeValue (r : Reading) (place : Place) : Token → Option Reading
  | .space => some (r.expect (.value place))
  | .word word => (ofWord? word).bind fun value => r.settle value place
  | .text value _ => r.settle (.text (String.ofList value)) place
  | .openBracket => some (r.expect (.itemOrEnd [] place))
  | .openBrace => some (r.expect (.memberOrEnd place))
  | _ => none

/-- Takes a token after a key that is read to its end. -/
def endKey (r : Reading) (key : Key) : Purpose → Token → Option Reading
  | .entry, .equals => some (r.expect (.value (.entry key)))
  | .member members outer, .equals => some (r.expect (.value (.member members key outer)))
  | .table, .closeBracket => (r.document.openTable key).map (⟨·, .lineEnd⟩)
  | .element, .closeBracket => some (r.expect (.headerEnd key))
  | _, _ => none

/-- Takes a token in a key. -/
def takeKey (r : Reading) (purpose : Purpose) (read : PartialKey) : Token → Option Reading
  | .space => some (r.expect (.key purpose read))
  | .word word => (read.addWord word).map fun read => r.expect (.key purpose read)
  | .text part false =>
    (read.addPart (String.ofList part)).map fun read => r.expect (.key purpose read)
  | token => read.key?.bind fun key => r.endKey key purpose token

/-- Takes a token. -/
def take (r : Reading) (token : Token) : Option Reading :=
  match r.expecting, token with
  | .line, .space => some r
  | .line, .newline => some r
  | .line, .openBracket => some (r.expect .header)
  | .line, _ => r.takeKey .entry .start token
  | .lineEnd, .space => some r
  | .lineEnd, .newline => some (r.expect .line)
  | .header, .openBracket => some (r.expect (.key .element .start))
  | .header, _ => r.takeKey .table .start token
  | .key purpose read, _ => r.takeKey purpose read token
  | .headerEnd key, .closeBracket => (r.document.openElement key).map (⟨·, .lineEnd⟩)
  | .value place, _ => r.takeValue place token
  | .itemOrEnd _ _, .space => some r
  | .itemOrEnd _ _, .newline => some r
  | .itemOrEnd items outer, .closeBracket => r.settleArray items outer
  | .itemOrEnd items outer, _ => r.takeValue (.item items outer) token
  | .nextItem _ _, .space => some r
  | .nextItem _ _, .newline => some r
  | .nextItem items outer, .comma => some (r.expect (.itemOrEnd items outer))
  | .nextItem items outer, .closeBracket => r.settleArray items outer
  | .memberOrEnd _, .space => some r
  | .memberOrEnd outer, .closeBrace => r.settle (.table []) outer
  | .memberOrEnd outer, _ => r.takeKey (.member (.empty .declared) outer) .start token
  | .nextMember _ _, .space => some r
  | .nextMember members outer, .comma => some (r.expect (.key (.member members outer) .start))
  | .nextMember members outer, .closeBrace => r.settle members.toToml outer
  | _, _ => none

/-- The document, if it may end here. -/
def toToml? (r : Reading) : Option Toml :=
  match r.expecting with
  | .line => some r.document.toToml
  | .lineEnd => some r.document.toToml
  | _ => none

end Reading

/-- Reads a text as a TOML document. -/
def parse (s : List Char) : Option Toml :=
  ((lex s).bind (·.foldlM Reading.take .start)).bind Reading.toToml?

end TruckDepot.Toml
