/-!
# Powers of two and of ten

The two bases of the library's numbers: machine words and binary formats count in powers of two,
written numbers in powers of ten. Both are `Nat.pow` under a name, and mean the same term whatever
notation for powers is in force where they are used. -/

namespace TruckDepot

/-- The power `2 ^ n`; as many values has a word of `n` bits. -/
def twoTo (n : Nat) : Nat :=
  Nat.pow 2 n

/-- The power `10 ^ n`. -/
def tenTo (n : Nat) : Nat :=
  Nat.pow 10 n

theorem twoTo_pos (n : Nat) : 0 < twoTo n :=
  Nat.pow_pos (by decide)

theorem tenTo_pos (n : Nat) : 0 < tenTo n :=
  Nat.pow_pos (by decide)

end TruckDepot
