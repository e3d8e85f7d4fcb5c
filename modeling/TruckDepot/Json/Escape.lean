/-!
# Escapes in JSON strings

`escape` spells a text so that it can stand between quotes: quotes, backslashes and control
characters are escaped, everything else stands as it is. `unescape` reads any spelling that JSON
allows, with characters beyond sixteen bits as two halves; a half that stands alone has no
meaning. -/

namespace TruckDepot.Json

/-! ### Hexadecimal digits -/

/-- The value of a hexadecimal digit. -/
def hexDigit? (c : Char) : Option Nat :=
  if '0' ≤ c ∧ c ≤ '9' then some (c.toNat - '0'.toNat)
  else if 'a' ≤ c ∧ c ≤ 'f' then some (c.toNat - 'a'.toNat + 10)
  else if 'A' ≤ c ∧ c ≤ 'F' then some (c.toNat - 'A'.toNat + 10)
  else none

/-- The value of four hexadecimal digits. -/
def hexUnit? (a b c d : Char) : Option Nat := do
  let a ← hexDigit? a
  let b ← hexDigit? b
  let c ← hexDigit? c
  let d ← hexDigit? d
  return ((a * 16 + b) * 16 + c) * 16 + d

/-! ### Spelling a text -/

/-- The letter that escapes a character, for the characters that have one. -/
def shortEscape? (c : Char) : Option Char :=
  if c = '"' then some '"'
  else if c = '\\' then some '\\'
  else if c = '\x08' then some 'b'
  else if c = '\x0c' then some 'f'
  else if c = '\n' then some 'n'
  else if c = '\r' then some 'r'
  else if c = '\t' then some 't'
  else none

/-- The spelling of one character. -/
def escapeChar (c : Char) : List Char :=
  match shortEscape? c with
  | some letter => ['\\', letter]
  | none =>
    if c.toNat < 0x20 then
      ['\\', 'u', '0', '0', Nat.digitChar (c.toNat / 16), Nat.digitChar (c.toNat % 16)]
    else [c]

/-- The spelling of a text. -/
def escape (s : List Char) : List Char :=
  s.flatMap escapeChar

/-! ### Reading a spelling -/

/-- The character that a letter after a backslash stands for. -/
def unescapeLetter? (letter : Char) : Option Char :=
  if letter = '"' then some '"'
  else if letter = '\\' then some '\\'
  else if letter = '/' then some '/'
  else if letter = 'b' then some '\x08'
  else if letter = 'f' then some '\x0c'
  else if letter = 'n' then some '\n'
  else if letter = 'r' then some '\r'
  else if letter = 't' then some '\t'
  else none

/-- The first of two halves of a character. -/
def isLeadingHalf (unit : Nat) : Bool :=
  0xD800 ≤ unit && unit < 0xDC00

/-- The second of two halves of a character. -/
def isTrailingHalf (unit : Nat) : Bool :=
  0xDC00 ≤ unit && unit < 0xE000

/-- The text that is spelled between two quotes. -/
def unescape : List Char → Option (List Char)
  | [] => some []
  | '\\' :: 'u' :: a :: b :: c :: d :: rest => do
    let unit ← hexUnit? a b c d
    if isTrailingHalf unit then none
    else if isLeadingHalf unit then
      match rest with
      | '\\' :: 'u' :: a :: b :: c :: d :: rest =>
        let trailing ← hexUnit? a b c d
        if isTrailingHalf trailing then
          let code := 0x10000 + (unit - 0xD800) * 0x400 + (trailing - 0xDC00)
          (unescape rest).map (Char.ofNat code :: ·)
        else none
      | _ => none
    else (unescape rest).map (Char.ofNat unit :: ·)
  | '\\' :: letter :: rest => do
    let c ← unescapeLetter? letter
    (unescape rest).map (c :: ·)
  | c :: rest => (unescape rest).map (c :: ·)

end TruckDepot.Json
