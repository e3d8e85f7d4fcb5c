import TruckDepot.Random.ChaCha

/-!
# Normal deviates

A source of normal deviates is anything that yields a number and the source that is left. What the
depot computes from the numbers does not depend on where they come from; the program draws them
from a `Stream` by the transform of Box and Muller, in 32-bit floats. -/

namespace TruckDepot.Random

/-- A source of normally distributed numbers with mean zero and deviation one. -/
class NormalSource (σ : Type) (α : outParam Type) where
  /-- The next number, and the source after it. -/
  draw : σ → α × σ

/-- A number from zero, included, to one, excluded: the upper twenty-four bits of a word. -/
def Stream.unit (s : Stream) : Float32 × Stream :=
  let (word, s) := s.next
  (Float32.ofNat (word >>> 8).toNat * Float32.ofBits 0x33800000, s)

/-- Brings a number into a range. -/
def clamp (low high x : Float32) : Float32 :=
  if x < low then low else if high < x then high else x

/-- Twice the number pi. -/
def fullTurn : Float32 :=
  2 * Float32.ofBits 0x40490fdb

/-- A normal deviate from two numbers between zero and one. The first is kept away from zero, where
the logarithm has no value. -/
def boxMuller (u v : Float32) : Float32 :=
  (-2 * (clamp 1e-6 1 u).log).sqrt * (fullTurn * v).cos

instance : NormalSource Stream Float32 where
  draw s :=
    let (u, s) := s.unit
    let (v, s) := s.unit
    (boxMuller u v, s)

end TruckDepot.Random
