import Terrain.Noise.Lattice

/-!
# Noise in space

Space is filled with skewed cubes, each cut into a tetrahedron at its lowest corner, one at its
highest, and an octahedron between them. The noise at a point is the sum of what the lattice
points around it contribute.

* The corners of the solid the point lies in contribute, and two lattice points beyond it that are
  found from the corners closest to the point (`vertices`). A corner of the cube is named by the
  bits 1, 2 and 4 of its coordinates.
* The way from a lattice point is computed from the way from the lowest corner: a step along an
  axis, a part of the squish for every step of the three, and for some of the points beyond a
  further step, taken last (`Step.late`). The order matters, because doubles round after each.
-/

namespace Terrain.Noise.Space

open Terrain.Number

/-- How far a point moves along the diagonal into the skewed lattice, per unit of the sum of its
    coordinates. -/
def stretch : Float := -1.0 / 6

/-- How far a lattice point moves along the diagonal back out of the skewed lattice. -/
def squish : Float := 1.0 / 3

/-- The sum of all contributions is divided by this to lie between minus one and one. -/
def norm : Float := 103

/-- The gradients, three coordinates each. -/
def gradients : Array Float :=
  #[-11, 4, 4, -4, 11, 4, -4, 4, 11,
    11, 4, 4, 4, 11, 4, 4, 4, 11,
    -11, -4, 4, -4, -11, 4, -4, -4, 11,
    11, -4, 4, 4, -11, 4, 4, -4, 11,
    -11, 4, -4, -4, 11, -4, -4, 4, -11,
    11, 4, -4, 4, 11, -4, 4, 4, -11,
    -11, -4, -4, -4, -11, -4, -4, -4, -11,
    11, -4, -4, 4, -11, -4, 4, -4, -11]

/-! ## 1. Lattice points -/

/-- Steps along one axis: those taken first, and those taken last. -/
structure Step where
  first : Int
  late : Int

/-- All steps along an axis. -/
def Step.total (s : Step) : Int := s.first + s.late

/-- A lattice point, in steps from the lowest corner. -/
structure Vertex where
  i : Step
  j : Step
  k : Step

/-- A lattice point with all steps taken first. -/
def Vertex.at (i j k : Int) : Vertex := ⟨⟨i, 0⟩, ⟨j, 0⟩, ⟨k, 0⟩⟩

/-- The lattice point with one number of steps along the axes of a set of bits and another along
    the other axes. -/
def Vertex.ofBits (bits : Nat) (inside outside : Int) : Vertex :=
  let along (b : Nat) : Int := if bits.testBit b then inside else outside
  .at (along 0) (along 1) (along 2)

/-- The way from a lattice point along one axis, `d` being the way from the lowest corner. -/
def Vertex.way (v : Vertex) (d : Float) (s : Step) : Float :=
  d - Float.ofInt s.first - Float.ofInt (v.i.total + v.j.total + v.k.total) * squish -
    Float.ofInt s.late

/-- The gradient of a lattice point along a way. -/
def slope (perm : Array Nat) (x y z : Int) (dx dy dz : Float) : Except Refusal Float := do
  let n := (← mixAll perm x [y, z]) % 24 * 3
  return gradients.getD n 0 * dx + gradients.getD (n + 1) 0 * dy + gradients.getD (n + 2) 0 * dz

/-- What a lattice point contributes; `x`, `y`, `z` are the coordinates of the lowest corner, `dx`,
    `dy`, `dz` the way from it. -/
def Vertex.contribution (v : Vertex) (perm : Array Nat) (x y z : Int) (dx dy dz : Float) :
    Except Refusal Float := do
  let dx := v.way dx v.i
  let dy := v.way dy v.j
  let dz := v.way dz v.k
  let a := 2 - dx * dx - dy * dy - dz * dz
  if 0 < a then
    let a := a * a
    return a * a * (← slope perm (x + v.i.total) (y + v.j.total) (z + v.k.total) dx dy dz)
  else return 0

/-! ## 2. The lowest tetrahedron -/

/-- The two points beyond, next to the lowest corner and the corner on one axis. -/
def besideLow (c : Nat) : List Vertex :=
  if c.testBit 0 then [.at 1 (-1) 0, .at 1 0 (-1)]
  else if c.testBit 1 then [.at (-1) 1 0, .at 0 1 (-1)]
  else [.at (-1) 0 1, .at 0 (-1) 1]

/-- The two points beyond the lowest tetrahedron. -/
def beyondLow (xins yins zins sum : Float) : List Vertex :=
  let (aPoint, aScore, bPoint, bScore) :=
    if yins ≤ xins ∧ yins < zins then (1, xins, 4, zins)
    else if xins < yins ∧ xins < zins then (4, zins, 2, yins)
    else (1, xins, 2, yins)
  let wins := 1 - sum
  if aScore < wins ∨ bScore < wins then besideLow (if aScore < bScore then bPoint else aPoint)
  else
    let c := aPoint ||| bPoint
    [.ofBits c 1 0, .ofBits c 1 (-1)]

/-! ## 3. The highest tetrahedron -/

/-- The two points beyond, next to the highest corner and the corner off one axis. -/
def besideHigh (c : Nat) : List Vertex :=
  if c = 3 then [.at 2 1 0, ⟨⟨1, 0⟩, ⟨1, 1⟩, ⟨0, 0⟩⟩]
  else if c = 5 then [.at 2 0 1, .at 1 0 2]
  else [⟨⟨0, 0⟩, ⟨1, 1⟩, ⟨1, 0⟩⟩, .at 0 1 2]

/-- The two points beyond the highest tetrahedron. -/
def beyondHigh (xins yins zins sum : Float) : List Vertex :=
  let (aPoint, aScore, bPoint, bScore) :=
    if xins ≤ yins ∧ zins < yins then (6, xins, 3, zins)
    else if yins < xins ∧ zins < xins then (3, zins, 5, yins)
    else (6, xins, 5, yins)
  let wins := 3 - sum
  if wins < aScore ∨ wins < bScore then besideHigh (if bScore < aScore then bPoint else aPoint)
  else
    let c := aPoint &&& bPoint
    [.ofBits c 1 0, .ofBits c 2 0]

/-! ## 4. The octahedron -/

/-- A corner close to the point, and whether it is one of the three farther from the lowest
    corner. -/
structure Close where
  point : Nat
  farther : Bool

/-- The closer of two opposite corners, from the sum of two coordinates: the farther one with its
    score if the sum exceeds one. -/
def closer (sum : Float) (farther nearer : Nat) : Close × Float :=
  if 1 < sum then (⟨farther, true⟩, sum - 1) else (⟨nearer, false⟩, 1 - sum)

/-- The two closest of the six corners of the octahedron. The third pair replaces the worse of the
    first two where it is better. -/
def closest (xins yins zins : Float) : Close × Close :=
  let (a, aScore) := closer (xins + yins) 3 4
  let (b, bScore) := closer (xins + zins) 5 2
  let (c, score) := closer (yins + zins) 6 1
  if aScore ≤ bScore ∧ aScore < score then (c, b)
  else if bScore < aScore ∧ bScore < score then (a, c)
  else (a, b)

/-- One step back along the first axis that a corner is not on, and one step along the others. -/
def across (c : Nat) : Vertex :=
  if ¬ c.testBit 0 then .at (-1) 1 1
  else if ¬ c.testBit 1 then .at 1 (-1) 1
  else .at 1 1 (-1)

/-- Two steps along the first axis that a corner is on. -/
def along (c : Nat) : Vertex :=
  if c.testBit 0 then .at 2 0 0 else if c.testBit 1 then .at 0 2 0 else .at 0 0 2

/-- The same point, its steps taken last. -/
def alongLate (c : Nat) : Vertex :=
  if c.testBit 0 then ⟨⟨0, 2⟩, ⟨0, 0⟩, ⟨0, 0⟩⟩
  else if c.testBit 1 then ⟨⟨0, 0⟩, ⟨0, 2⟩, ⟨0, 0⟩⟩
  else ⟨⟨0, 0⟩, ⟨0, 0⟩, ⟨0, 2⟩⟩

/-- The two points beyond the octahedron. -/
def beyondMiddle (xins yins zins : Float) : List Vertex :=
  let (a, b) := closest xins yins zins
  match a.farther, b.farther with
  | true, true => [.at 1 1 1, along (a.point &&& b.point)]
  | false, false => [.at 0 0 0, across (a.point ||| b.point)]
  | true, false => [across a.point, alongLate b.point]
  | false, true => [across b.point, alongLate a.point]

/-! ## 5. The noise -/

/-- The lattice points that contribute at a place of the cube, in the order they are added. -/
def vertices (xins yins zins : Float) : List Vertex :=
  let sum := xins + yins + zins
  if sum ≤ 1 then
    [.at 0 0 0, .at 1 0 0, .at 0 1 0, .at 0 0 1] ++ beyondLow xins yins zins sum
  else if 2 ≤ sum then
    [.at 1 1 0, .at 1 0 1, .at 0 1 1, .at 1 1 1] ++ beyondHigh xins yins zins sum
  else
    [.at 1 0 0, .at 0 1 0, .at 0 0 1, .at 1 1 0, .at 1 0 1, .at 0 1 1] ++
      beyondMiddle xins yins zins

/-- The noise at a place with whole coordinates. -/
def noise (perm : Array Nat) (x y z : Int) : Except Refusal Float := do
  let offset := (← asFloat (x + y + z)) * stretch
  let xf ← asFloat x
  let yf ← asFloat y
  let zf ← asFloat z
  let xs := xf + offset
  let ys := yf + offset
  let zs := zf + offset
  let xsb ← (floor? xs).mapError .noInteger
  let ysb ← (floor? ys).mapError .noInteger
  let zsb ← (floor? zs).mapError .noInteger
  let back := (← asFloat (xsb + ysb + zsb)) * squish
  let dx := xf - (Float.ofInt xsb + back)
  let dy := yf - (Float.ofInt ysb + back)
  let dz := zf - (Float.ofInt zsb + back)
  let points := vertices (xs - Float.ofInt xsb) (ys - Float.ofInt ysb) (zs - Float.ofInt zsb)
  let contributions ← points.mapM fun v => v.contribution perm xsb ysb zsb dx dy dz
  return contributions.foldl (· + ·) 0 / norm

end Terrain.Noise.Space
