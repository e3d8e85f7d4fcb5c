/-!
# The ChaCha stream

An endless stream of 32-bit words grown from a 64-bit seed: the seed is spread over a key of eight
words, and block after block of the ChaCha cipher with twelve rounds is read off word by word. The
block counter has 64 bits and starts at zero.
-/

namespace TruckDepot.Random

/-! ### Blocks -/

/-- The sixteen words that the cipher works on. -/
abbrev Block := Vector UInt32 16

/-- Rotates a word to the left. -/
def rotateLeft (x amount : UInt32) : UInt32 :=
  (x <<< amount) ||| (x >>> (32 - amount))

/-- Mixes four words of a block: three of them are changed by a sum, an exclusive or and a rotation
each, twice over. -/
def quarterRound (a b c d : Fin 16) (s : Block) : Block :=
  let s := s.set a (s[a] + s[b])
  let s := s.set d (rotateLeft (s[d] ^^^ s[a]) 16)
  let s := s.set c (s[c] + s[d])
  let s := s.set b (rotateLeft (s[b] ^^^ s[c]) 12)
  let s := s.set a (s[a] + s[b])
  let s := s.set d (rotateLeft (s[d] ^^^ s[a]) 8)
  let s := s.set c (s[c] + s[d])
  s.set b (rotateLeft (s[b] ^^^ s[c]) 7)

/-- One round on the columns of the block and one on its diagonals. -/
def doubleRound (s : Block) : Block :=
  let s := quarterRound 0 4 8 12 s
  let s := quarterRound 1 5 9 13 s
  let s := quarterRound 2 6 10 14 s
  let s := quarterRound 3 7 11 15 s
  let s := quarterRound 0 5 10 15 s
  let s := quarterRound 1 6 11 12 s
  let s := quarterRound 2 7 8 13 s
  quarterRound 3 4 9 14 s

/-- A key of eight words. -/
abbrev Key := Vector UInt32 8

/-- The block that the rounds start from: four fixed words, the key, the counter with its low half
first, and two words of zero. -/
def initialBlock (key : Key) (counter : UInt64) : Block :=
  #v[0x61707865, 0x3320646e, 0x79622d32, 0x6b206574,
    key[0], key[1], key[2], key[3], key[4], key[5], key[6], key[7],
    counter.toUInt32, (counter >>> 32).toUInt32, 0, 0]

/-- The block of a counter: twelve rounds, and the block they started from added word by word. -/
def block (key : Key) (counter : UInt64) : Block :=
  let start := initialBlock key counter
  Vector.zipWith (· + ·) (Nat.repeat doubleRound 6 start) start

/-! ### The stream -/

/-- A stream on its way: the words of the current block that are left, and where the next block
comes from. -/
structure Stream where
  /-- The key of every block. -/
  key : Key
  /-- Counter of the next block. -/
  counter : UInt64
  /-- Words of the current block that are not yet drawn. -/
  pending : List UInt32
  deriving DecidableEq, Repr

/-- The linear step that spreads a seed. -/
def spreadStep (s : UInt64) : UInt64 :=
  s * 6364136223846793005 + 11634580027462260723

/-- The word of a state of the spreading: its high bits folded, and rotated right by its top five.
-/
def spreadWord (s : UInt64) : UInt32 :=
  let folded := (((s >>> 18) ^^^ s) >>> 27).toUInt32
  let amount := (s >>> 59).toUInt32
  (folded >>> amount) ||| (folded <<< ((32 - amount) % 32))

/-- The key of a seed: the words of eight successive states. -/
def keyOfSeed (seed : UInt64) : Key :=
  Vector.ofFn fun i => spreadWord (Nat.repeat spreadStep (i + 1) seed)

namespace Stream

/-- The stream of a seed. -/
def ofSeed (seed : UInt64) : Stream :=
  ⟨keyOfSeed seed, 0, []⟩

/-- Draws one word. -/
def next (s : Stream) : UInt32 × Stream :=
  match s.pending with
  | word :: rest => (word, { s with pending := rest })
  | [] =>
    let words := block s.key s.counter
    (words[0], { s with counter := s.counter + 1, pending := words.toList.tail })

end Stream

end TruckDepot.Random
