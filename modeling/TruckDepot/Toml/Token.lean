import TruckDepot.Json.Escape
import TruckDepot.Text.Rest

/-!
# TOML tokens

`lex` cuts a document into tokens. A word is a longest run of the characters that bare keys,
numbers and truth values are made of, points included; what a word means depends on where it
stands. Comments are dropped. Blanks and line ends are kept, since they matter in some places. -/

namespace TruckDepot.Toml

open Text

/-- A token of a TOML document. -/
inductive Token where
  /-- A run of letters, digits, underscores, signs and points. -/
  | word (text : List Char)
  /-- A string, read; it may have been written over several lines. -/
  | text (value : List Char) (multiline : Bool)
  /-- A blank. -/
  | space
  /-- The end of a line. -/
  | newline
  /-- A comma. -/
  | comma
  /-- An equals sign. -/
  | equals
  /-- An opening bracket. -/
  | openBracket
  /-- A closing bracket. -/
  | closeBracket
  /-- An opening brace. -/
  | openBrace
  /-- A closing brace. -/
  | closeBrace
  deriving DecidableEq, Repr

/-! ### Characters -/

/-- A blank within a line. -/
def isBlank (c : Char) : Bool :=
  c == ' ' || c == '\t'

/-- A character that may stand in a comment or a string without an escape: a tab, or anything that
is no control character. -/
def isPlain (c : Char) : Bool :=
  c == '\t' || (0x20 ≤ c.toNat && c.toNat != 0x7F)

/-- A character of a word. -/
def isWordChar (c : Char) : Bool :=
  c.isAlphanum || c == '_' || c == '-' || c == '+' || c == '.'

/-- The character that a letter after a backslash stands for. -/
def unescapeLetter? (letter : Char) : Option Char :=
  if letter = '"' then some '"'
  else if letter = '\\' then some '\\'
  else if letter = 'b' then some '\x08'
  else if letter = 'f' then some '\x0c'
  else if letter = 'n' then some '\n'
  else if letter = 'r' then some '\r'
  else if letter = 't' then some '\t'
  else none

/-- The character of a code point that is one. -/
def charOf? (code : Nat) : Option Char :=
  if code.isValidChar then some (Char.ofNat code) else none

/-- The character of four hexadecimal digits. -/
def escaped4? (a b c d : Char) : Option Char :=
  (Json.hexUnit? a b c d).bind charOf?

/-- The character of eight hexadecimal digits. -/
def escaped8? (a b c d e f g h : Char) : Option Char :=
  match Json.hexUnit? a b c d, Json.hexUnit? e f g h with
  | some high, some low => charOf? (high * 0x10000 + low)
  | _, _ => none

/-! ### Strings on one line -/

/-- A string with escapes, up to its closing quote. -/
def basicBody : (s : List Char) → Option (List Char × Rest s)
  | [] => none
  | '"' :: rest => some ([], .after '"' rest)
  | '\\' :: 'u' :: a :: b :: c :: d :: rest =>
    match escaped4? a b c d, basicBody rest with
    | some found, some (body, left) => some (found :: body, left.behind ['\\', 'u', a, b, c, d])
    | _, _ => none
  | '\\' :: 'U' :: a :: b :: c :: d :: e :: f :: g :: h :: rest =>
    match escaped8? a b c d e f g h, basicBody rest with
    | some found, some (body, left) =>
      some (found :: body, left.behind ['\\', 'U', a, b, c, d, e, f, g, h])
    | _, _ => none
  | '\\' :: letter :: rest =>
    match unescapeLetter? letter, basicBody rest with
    | some found, some (body, left) => some (found :: body, left.behind ['\\', letter])
    | _, _ => none
  | c :: rest =>
    if isPlain c && c != '\\' then
      (basicBody rest).map fun (body, left) => (c :: body, left.behind [c])
    else none

/-- A string without escapes, up to its closing quote. -/
def literalBody : (s : List Char) → Option (List Char × Rest s)
  | [] => none
  | '\x27' :: rest => some ([], .after '\x27' rest)
  | c :: rest =>
    if isPlain c then
      (literalBody rest).map fun (body, left) => (c :: body, left.behind [c])
    else none

/-! ### Strings over several lines -/

/-- A text without the line end at its front, where it has one. -/
def dropLineEnd : List Char → List Char
  | '\n' :: rest => rest
  | '\r' :: '\n' :: rest => rest
  | s => s

theorem length_dropLineEnd_le (s : List Char) : (dropLineEnd s).length ≤ s.length := by
  unfold dropLineEnd
  split
  · exact Nat.le_succ _
  · exact Nat.le_add_right _ 2
  · exact Nat.le_refl _

/-- Nothing but blanks is left of the line. -/
def endsLine (s : List Char) : Bool :=
  match s.dropWhile isBlank with
  | '\n' :: _ => true
  | '\r' :: '\n' :: _ => true
  | _ => false

/-- A string with escapes over several lines, up to its three closing quotes. Up to two more
quotes before those belong to the string. A backslash at the end of a line takes all blanks and
line ends after it away; while that goes on, `skipping` is set. -/
def multiBasicBody (skipping : Bool) : (s : List Char) → Option (List Char × Rest s)
  | [] => none
  | '"' :: '"' :: '"' :: '"' :: '"' :: rest =>
    some (['"', '"'], (Rest.after '"' rest).behind ['"', '"', '"', '"'])
  | '"' :: '"' :: '"' :: '"' :: rest => some (['"'], (Rest.after '"' rest).behind ['"', '"', '"'])
  | '"' :: '"' :: '"' :: rest => some ([], (Rest.after '"' rest).behind ['"', '"'])
  | '\\' :: 'u' :: a :: b :: c :: d :: rest =>
    match escaped4? a b c d, multiBasicBody false rest with
    | some found, some (body, left) => some (found :: body, left.behind ['\\', 'u', a, b, c, d])
    | _, _ => none
  | '\\' :: 'U' :: a :: b :: c :: d :: e :: f :: g :: h :: rest =>
    match escaped8? a b c d e f g h, multiBasicBody false rest with
    | some found, some (body, left) =>
      some (found :: body, left.behind ['\\', 'U', a, b, c, d, e, f, g, h])
    | _, _ => none
  | '\\' :: letter :: rest =>
    if endsLine (letter :: rest) then
      (multiBasicBody true rest).map fun (body, left) => (body, left.behind ['\\', letter])
    else
      match unescapeLetter? letter, multiBasicBody false rest with
      | some found, some (body, left) => some (found :: body, left.behind ['\\', letter])
      | _, _ => none
  | '\r' :: '\n' :: rest =>
    (multiBasicBody skipping rest).map fun (body, left) =>
      (if skipping then body else '\n' :: body, left.behind ['\r', '\n'])
  | c :: rest =>
    if skipping && (isBlank c || c == '\n') then
      (multiBasicBody true rest).map fun (body, left) => (body, left.behind [c])
    else if (isPlain c || c == '\n') && c != '\\' then
      (multiBasicBody false rest).map fun (body, left) => (c :: body, left.behind [c])
    else none

/-- A string without escapes over several lines, up to its three closing quotes. Up to two more
quotes before those belong to the string. -/
def multiLiteralBody : (s : List Char) → Option (List Char × Rest s)
  | [] => none
  | '\x27' :: '\x27' :: '\x27' :: '\x27' :: '\x27' :: rest =>
    some (['\x27', '\x27'], (Rest.after '\x27' rest).behind ['\x27', '\x27', '\x27', '\x27'])
  | '\x27' :: '\x27' :: '\x27' :: '\x27' :: rest =>
    some (['\x27'], (Rest.after '\x27' rest).behind ['\x27', '\x27', '\x27'])
  | '\x27' :: '\x27' :: '\x27' :: rest =>
    some ([], (Rest.after '\x27' rest).behind ['\x27', '\x27'])
  | '\r' :: '\n' :: rest =>
    (multiLiteralBody rest).map fun (body, left) => ('\n' :: body, left.behind ['\r', '\n'])
  | c :: rest =>
    if isPlain c || c == '\n' then
      (multiLiteralBody rest).map fun (body, left) => (c :: body, left.behind [c])
    else none

/-! ### Cutting a document -/

/-- The token of a character that is one by itself. -/
def mark? (c : Char) : Option Token :=
  if c = '\n' then some .newline
  else if c = ',' then some .comma
  else if c = '=' then some .equals
  else if c = '[' then some .openBracket
  else if c = ']' then some .closeBracket
  else if c = '\x7b' then some .openBrace
  else if c = '\x7d' then some .closeBrace
  else if isBlank c then some .space
  else none

/-- The token at the front of a text. A comment has none, but is taken off up to its line end. -/
def lexeme : (s : List Char) → Option (Option Token × Rest s)
  | [] => none
  | '\r' :: '\n' :: rest => some (some .newline, (Rest.after '\n' rest).behind ['\r'])
  | '"' :: '"' :: '"' :: rest =>
    (multiBasicBody false (dropLineEnd rest)).map fun (body, left) =>
      (some (.text body true), (left.widen (length_dropLineEnd_le rest)).behind ['"', '"', '"'])
  | '"' :: rest =>
    (basicBody rest).map fun (body, left) => (some (.text body false), left.behind ['"'])
  | '\x27' :: '\x27' :: '\x27' :: rest =>
    (multiLiteralBody (dropLineEnd rest)).map fun (body, left) =>
      (some (.text body true),
        (left.widen (length_dropLineEnd_le rest)).behind ['\x27', '\x27', '\x27'])
  | '\x27' :: rest =>
    (literalBody rest).map fun (body, left) => (some (.text body false), left.behind ['\x27'])
  | '#' :: rest => some (none, .afterAll isPlain '#' rest)
  | c :: rest =>
    match mark? c with
    | some token => some (some token, .after c rest)
    | none =>
      if isWordChar c then
        some (some (.word (c :: rest.takeWhile isWordChar)), .afterAll isWordChar c rest)
      else none

/-- Cuts a document into tokens, behind the tokens already found, last one first. -/
def lexFrom (found : List Token) (s : List Char) : Option (List Token) :=
  match s with
  | [] => some found.reverse
  | c :: rest =>
    match lexeme (c :: rest) with
    | some (some token, ⟨rest, _⟩) => lexFrom (token :: found) rest
    | some (none, ⟨rest, _⟩) => lexFrom found rest
    | none => none
termination_by s.length
decreasing_by all_goals simp only [List.length_cons] at *; omega

/-- Cuts a document into tokens. A byte order mark may stand in front. -/
def lex : List Char → Option (List Token)
  | '\ufeff' :: s => lexFrom [] s
  | s => lexFrom [] s

end TruckDepot.Toml
