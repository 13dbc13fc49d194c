import Terrain.Number.Dyadic

/-!
# Seeded lattices

Gradient noise gives every point of a lattice a gradient. Which one is decided by a permutation of
the numbers below 256, shuffled from a seed.

* The seed runs through a linear congruence modulo `2 ^ 64`, three times before it is first used,
  and once for every place of the permutation, from the last place to the first.
* A place takes one of the numbers not placed yet, and the last number not placed moves into the
  gap.
* Lattice coordinates are of any size and sign; only their remainders modulo 256 count. All but the
  first must fit a signed word of 64 bits, though, to be mixed in.
-/

namespace Terrain.Noise

/-- The seed as a signed word of 64 bits. -/
def wrap (n : Int) : Int := Int.bmod n 0x10000000000000000

/-- The next state of a seed. -/
def nextSeed (s : Int) : Int := wrap (s * 6364136223846793005 + 1442695040888963407)

/-- Places the numbers of `source` from place `count - 1` down to `0`, the numbers placed so far
    standing behind them. -/
def shuffle (seed : Int) (source : Array Nat) : Nat → List Nat → List Nat
  | 0, placed => placed
  | i + 1, placed =>
    let seed := nextSeed seed
    let r := ((seed + 31) % ((i : Int) + 1)).toNat
    let source' := source.setIfInBounds r (source.getD i 0)
    shuffle seed source' i (source.getD r 0 :: placed)

/-- The permutation of a seed. -/
def permutation (seed : Int) : Array Nat :=
  let seed := nextSeed (nextSeed (nextSeed (wrap seed)))
  (shuffle seed (Array.range 256) 256 []).toArray

/-- Whether a number fits a signed word of 64 bits. -/
def fitsWord (n : Int) : Bool := -0x8000000000000000 ≤ n && n < 0x8000000000000000

/-- Why a point has no noise: a coordinate is no finite number, a sum of coordinates is beyond the
    doubles, a lattice coordinate does not fit a word, or what else a generator has to say. -/
inductive Refusal where
  | noInteger (r : Number.NoInteger)
  | tooLarge
  | beyondWord
  | other (words : String)
  deriving DecidableEq, Repr

/-- What a number that does not fit a word is refused with. -/
def beyondWordMessage : String := "Python int too large to convert to C long"

/-- The refusal in words. -/
def Refusal.message : Refusal → String
  | .noInteger r => r.message
  | .tooLarge => "int too large to convert to float"
  | .beyondWord => beyondWordMessage
  | .other words => words

/-- A whole number as a double. -/
def asFloat (n : Int) : Except Refusal Float :=
  match Number.ofInt? n with
  | some x => .ok x
  | none => .error .tooLarge

/-- The number that a permutation has for a number and a further coordinate. -/
def mix (perm : Array Nat) (n : Nat) (coordinate : Int) : Nat :=
  perm.getD (((n : Int) + coordinate) % 256).toNat 0

/-- A permutation's number for the first coordinate of a lattice point, and then for each of the
    others in turn. -/
def mixAll (perm : Array Nat) (first : Int) (others : List Int) : Except Refusal Nat :=
  if others.all fitsWord then .ok (others.foldl (mix perm) (mix perm 0 first))
  else .error .beyondWord

end Terrain.Noise
