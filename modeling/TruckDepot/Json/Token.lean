import TruckDepot.Decimal.Numeral
import TruckDepot.Json.Escape
import TruckDepot.Text.Rest

/-!
# JSON tokens

`lex` cuts a text into tokens. Blanks are dropped; a number and a string keep their spelling,
which is checked here and not interpreted. -/

namespace TruckDepot.Json

open Text

/-- A token of a JSON text. -/
inductive Token where
  /-- The word `null`. -/
  | null
  /-- The word `true` or `false`. -/
  | truth (value : Bool)
  /-- A number. -/
  | number (text : List Char)
  /-- A string, without its quotes. -/
  | string (text : List Char)
  /-- A comma. -/
  | comma
  /-- A colon. -/
  | colon
  /-- The bracket that opens an array. -/
  | openArray
  /-- The bracket that closes an array. -/
  | closeArray
  /-- The brace that opens an object. -/
  | openObject
  /-- The brace that closes an object. -/
  | closeObject
  deriving DecidableEq, Repr

/-! ### Strings -/

/-- The spelling of a string up to its closing quote. A control character may not stand in a string,
and a backslash needs one of its letters or four hexadecimal digits. -/
def stringBody : (s : List Char) → Option (List Char × Rest s)
  | [] => none
  | '"' :: rest => some ([], .after '"' rest)
  | '\\' :: 'u' :: a :: b :: c :: d :: rest =>
    match hexUnit? a b c d, stringBody rest with
    | some _, some (body, left) =>
      some ('\\' :: 'u' :: a :: b :: c :: d :: body, left.behind ['\\', 'u', a, b, c, d])
    | _, _ => none
  | '\\' :: letter :: rest =>
    match unescapeLetter? letter, stringBody rest with
    | some _, some (body, left) => some ('\\' :: letter :: body, left.behind ['\\', letter])
    | _, _ => none
  | c :: rest =>
    if c.toNat < 0x20 || c = '\\' then none
    else (stringBody rest).map fun (body, left) => (c :: body, left.behind [c])

/-! ### Numbers -/

/-- A character that can stand in a number. -/
def isNumberChar (c : Char) : Bool :=
  c.isDigit || c == '-' || c == '+' || c == '.' || c == 'e' || c == 'E'

/-- The spelling of a number: no plus sign in front, and no zero in front of other digits. -/
def isNumber (text : List Char) : Bool :=
  match Decimal.Numeral.ofChars? text with
  | none => false
  | some n => text.head? != some '+' && (n.whole.length == 1 || n.whole.head? != some 0)

/-! ### Cutting a text -/

/-- The token of a character that is one by itself. -/
def mark? (c : Char) : Option Token :=
  if c = ',' then some .comma
  else if c = ':' then some .colon
  else if c = '[' then some .openArray
  else if c = ']' then some .closeArray
  else if c = '\x7b' then some .openObject
  else if c = '\x7d' then some .closeObject
  else none

/-- The token at the front of a text that does not begin with a blank. -/
def lexeme : (s : List Char) → Option (Token × Rest s)
  | [] => none
  | 'n' :: 'u' :: 'l' :: 'l' :: rest =>
    some (.null, (Rest.after 'l' rest).behind ['n', 'u', 'l'])
  | 't' :: 'r' :: 'u' :: 'e' :: rest =>
    some (.truth true, (Rest.after 'e' rest).behind ['t', 'r', 'u'])
  | 'f' :: 'a' :: 'l' :: 's' :: 'e' :: rest =>
    some (.truth false, (Rest.after 'e' rest).behind ['f', 'a', 'l', 's'])
  | '"' :: rest => (stringBody rest).map fun (body, left) => (.string body, left.behind ['"'])
  | c :: rest =>
    match mark? c with
    | some token => some (token, .after c rest)
    | none =>
      if isNumberChar c && isNumber (c :: rest.takeWhile isNumberChar) then
        some (.number (c :: rest.takeWhile isNumberChar), .afterAll isNumberChar c rest)
      else none

/-- The four blanks that may stand between tokens. -/
def isSpace (c : Char) : Bool :=
  c == ' ' || c == '\n' || c == '\t' || c == '\r'

/-- Cuts a text into tokens, behind the tokens already found, last one first. -/
def lexFrom (found : List Token) (s : List Char) : Option (List Token) :=
  match s with
  | [] => some found.reverse
  | c :: rest =>
    if isSpace c then lexFrom found rest
    else
      match lexeme (c :: rest) with
      | some (token, ⟨rest, _⟩) => lexFrom (token :: found) rest
      | none => none
termination_by s.length
decreasing_by all_goals simp only [List.length_cons] at *; omega

/-- Cuts a text into tokens. -/
def lex (s : List Char) : Option (List Token) :=
  lexFrom [] s

end TruckDepot.Json
