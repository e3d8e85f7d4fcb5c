import TruckDepot.Schedule.Grid
import TruckDepot.Text.Blank
import TruckDepot.Text.Integer

/-!
# Schedule declarations

A schedule is declared by a list of tokens such as `block 1 2 3 shift 8 8 6 shift 16 8 4`. The
numbers after `block` are days; they stay in force for every following shift until the next
`block`. The first three numbers after `shift` are its start, its duration and its trucks; further
numbers are ignored. A shift is closed by the next keyword or by the end of the list, and is then
added to the grid or rejected. A token that is neither keyword nor number is rejected where it
stands. -/

namespace TruckDepot

/-- What the numbers being read belong to. -/
inductive Collecting where
  /-- The days of a block. -/
  | block
  /-- The numbers of a shift. -/
  | shift
  deriving DecidableEq, Repr

/-- A list of declarations in the course of being read. -/
structure Reading where
  /-- The grid with the shifts accepted so far. -/
  grid : Grid
  /-- What was rejected so far, in order. -/
  rejections : List Rejection
  /-- What the next number belongs to. -/
  collecting : Collecting
  /-- The days in force. -/
  block : List Int
  /-- The numbers of the shift that is still open. -/
  shift : List Int
  deriving DecidableEq, Repr

namespace Reading

/-- Nothing is read yet. Numbers before any keyword belong to a shift. -/
def start : Reading :=
  ⟨Grid.empty, [], .shift, [], []⟩

/-- A number as a day of the week. -/
def day? (n : Int) : Option UInt8 :=
  if 1 ≤ n ∧ n ≤ 7 then some (UInt8.ofNat n.toNat) else none

/-- The shift that some numbers declare, and the days it is declared for. -/
def declare (block numbers : List Int) : Except Rejection (Shift × List UInt8) :=
  if block.isEmpty then .error (.emptyBlock numbers)
  else
    match numbers with
    | start :: duration :: trucks :: _ =>
      match block.mapM day? with
      | none => .error (.badBlock block)
      | some days => (Shift.ofNumbers start duration trucks).map fun shift => (shift, days)
    | _ => .error (.incompleteShift numbers)

/-- Closes the open shift. A shift without numbers is no declaration. -/
def close (r : Reading) : Reading :=
  if r.shift.isEmpty then r
  else
    match declare r.block r.shift with
    | .ok (shift, days) => { r with grid := r.grid.add shift days, shift := [] }
    | .error rejection => { r with rejections := r.rejections ++ [rejection], shift := [] }

/-- Takes one more token. Blanks around it do not count. -/
def take (r : Reading) (token : String) : Reading :=
  let token := Text.trim token
  if token = "block" then { r.close with block := [], collecting := .block }
  else if token = "shift" then { r.close with collecting := .shift }
  else
    match Text.signed64? token, r.collecting with
    | some n, .block => { r with block := r.block ++ [n] }
    | some n, .shift => { r with shift := r.shift ++ [n] }
    | none, _ => { r with rejections := r.rejections ++ [.badToken token] }

end Reading

namespace Grid

/-- Reads a list of declarations: the grid, which keeps the tokens as they are, and what was
rejected. -/
def ofTokens (tokens : List String) : Grid × List Rejection :=
  let read := (tokens.foldl Reading.take Reading.start).close
  ({ read.grid with tokens := tokens }, read.rejections)

/-- The declarations in force when no others schedule anything: on days `1` to `5`, eight trucks
from eight, six trucks from sixteen and three trucks from midnight, for eight hours each. -/
def defaultTokens : List String :=
  ["block", "1", "2", "3", "4", "5", "shift", "8", "8", "8", "shift", "16", "8", "6",
    "shift", "0", "8", "3"]

/-- The grid of the default declarations. -/
def default : Grid :=
  (ofTokens defaultTokens).1

/-- A grid made ready for a fleet, and what happened on the way. -/
structure Configured where
  /-- The grid to work with. -/
  grid : Grid
  /-- Rejected declarations, in order. -/
  rejections : List Rejection
  /-- Nothing was scheduled, and the default grid stands in. -/
  isDefault : Bool

/-- Reads a list of declarations, and takes the default grid when they schedule nothing. -/
def configure (tokens : List String) : Configured :=
  let (grid, rejections) := ofTokens tokens
  if grid.isEmpty then ⟨default, rejections, true⟩ else ⟨grid, rejections, false⟩

end Grid

end TruckDepot
