import TruckDepot.Decimal.Numeral
import TruckDepot.Power
import TruckDepot.Text.Cut
import TruckDepot.Toml

/-!
# TOML words

What a word means as a value: a truth value, an integer or a float.

* A decimal integer may have a sign, and has no zero in front of other digits. An integer in base
  16, 8 or 2 has a marker in front and no sign. All are held to the range of a signed 64-bit word.
* A float is the 64-bit number nearest to its numeral. A numeral too large for that range is
  refused if it has no minus sign, and else stands for negative infinity.
* Between two digits an underscore may stand.
-/

namespace TruckDepot.Toml

/-! ### Digits with underscores -/

/-- A text without its underscores, if each of them stands between two digits. -/
def joined? (isDigit : Char → Bool) (s : List Char) : Option (List Char) :=
  let groups := Text.cutAt (· == '_') s
  if (groups.zip groups.tail).all fun (left, right) =>
      left.getLast?.any isDigit && right.head?.any isDigit then
    some groups.flatten
  else none

/-! ### Integers -/

/-- The value of a digit in any base up to 16. -/
def digitValue? (c : Char) : Option Nat :=
  if c.isDigit then some (c.toNat - '0'.toNat)
  else if 'a' ≤ c && c ≤ 'f' then some (c.toNat - 'a'.toNat + 10)
  else if 'A' ≤ c && c ≤ 'F' then some (c.toNat - 'A'.toNat + 10)
  else none

/-- The character is a digit of the base. -/
def isDigitOf (base : Nat) (c : Char) : Bool :=
  (digitValue? c).any (· < base)

/-- The number that digits of a base stand for, if there is at least one digit and nothing else. -/
def natural? (base : Nat) (s : List Char) : Option Nat :=
  if s.isEmpty || !s.all (isDigitOf base) then none
  else some (s.foldl (fun n c => base * n + (digitValue? c).getD 0) 0)

/-- An integer that fits a signed 64-bit word. -/
def integer64? (n : Int) : Option Toml :=
  if -(twoTo 63 : Int) ≤ n ∧ n < twoTo 63 then some (.integer n) else none

/-- An integer in a base that its marker gives. -/
def based? (base : Nat) (s : List Char) : Option Toml :=
  ((joined? (isDigitOf base) s).bind (natural? base)).bind fun n => integer64? n

/-! ### Decimal numbers -/

/-- The value of a decimal numeral: an integer if it has neither a point nor an exponent. -/
def ofNumeral? (n : Decimal.Numeral) : Option Toml :=
  if n.whole.head? = some 0 ∧ n.whole.length ≠ 1 then none
  else if n.isInteger then
    let size : Int := Decimal.digitsValue n.whole
    integer64? (if n.negative then -size else size)
  else
    match n.nearest with
    | .infinite false => none
    | number => some (.float number)

/-- A decimal number. -/
def decimal? (s : List Char) : Option Toml :=
  ((joined? Char.isDigit s).bind Decimal.Numeral.ofChars?).bind ofNumeral?

/-- An infinity or no number, which have names instead of digits. -/
def named? : List Char → Option Decimal.Binary
  | '+' :: name => unsigned? false name
  | '-' :: name => unsigned? true name
  | name => unsigned? false name
where
  /-- The number with a name, whose sign has been read. -/
  unsigned? (negative : Bool) (name : List Char) : Option Decimal.Binary :=
    if name = "inf".toList then some (.infinite negative)
    else if name = "nan".toList then some .notANumber
    else none

/-! ### Words -/

/-- The value of a word. -/
def ofWord? (word : List Char) : Option Toml :=
  if word = "true".toList then some (.truth true)
  else if word = "false".toList then some (.truth false)
  else
    match word with
    | '0' :: 'x' :: digits => based? 16 digits
    | '0' :: 'o' :: digits => based? 8 digits
    | '0' :: 'b' :: digits => based? 2 digits
    | _ =>
      match named? word with
      | some number => some (.float number)
      | none => decimal? word

end TruckDepot.Toml
