import Terrain.Noise.Lattice

/-!
# Noise in the plane

The plane is tiled by triangles: a skewed square lattice whose squares are cut in two. The noise
at a point is the sum of what the lattice points around it contribute, and each contributes its
gradient along the way to the point, weighed by a kernel that vanishes at a fixed distance.

* Four lattice points are looked at: two that every triangle of the square shares, the third
  corner of the triangle, and one beyond it (`vertices`).
* The way from a lattice point is computed from the way from the corner of the square: a step
  along an axis and a part of the squish for every step (`Vertex.way`). The order of the
  subtractions is part of the definition, because doubles round after each.
-/

namespace Terrain.Noise.Plane

open Terrain.Number

/-- How far a point moves along the diagonal into the skewed lattice, per unit of the sum of its
    coordinates. -/
def stretch : Float := -0.211324865405187

/-- How far a lattice point moves along the diagonal back out of the skewed lattice. -/
def squish : Float := 0.366025403784439

/-- The sum of all contributions is divided by this to lie between minus one and one. -/
def norm : Float := 47

/-- The gradients, two coordinates each. -/
def gradients : Array Float := #[5, 2, 2, 5, -5, 2, -2, 5, 5, -2, 2, -5, -5, -2, -2, -5]

/-- A lattice point, in steps from the corner of the square. -/
structure Vertex where
  i : Int
  j : Int

/-- The way from a lattice point along one axis, `d` being the way from the corner. -/
def Vertex.way (v : Vertex) (d : Float) (step : Int) : Float :=
  d - Float.ofInt step - Float.ofInt (v.i + v.j) * squish

/-- The gradient of a lattice point along a way. -/
def slope (perm : Array Nat) (x y : Int) (dx dy : Float) : Except Refusal Float := do
  let n := (← mixAll perm x [y]) &&& 0x0E
  return gradients.getD n 0 * dx + gradients.getD (n + 1) 0 * dy

/-- What a lattice point contributes; `x`, `y` are the coordinates of the corner, `dx`, `dy` the
    way from it. -/
def Vertex.contribution (v : Vertex) (perm : Array Nat) (x y : Int) (dx dy : Float) :
    Except Refusal Float := do
  let dx := v.way dx v.i
  let dy := v.way dy v.j
  let a := 2 - dx * dx - dy * dy
  if 0 < a then
    let a := a * a
    return a * a * (← slope perm (x + v.i) (y + v.j) dx dy)
  else return 0

/-- The lattice points that contribute at a place of the square, in the order they are added. -/
def vertices (xins yins : Float) : List Vertex :=
  let sum := xins + yins
  let shared : List Vertex := [⟨1, 0⟩, ⟨0, 1⟩]
  if sum ≤ 1 then
    let zins := 1 - sum
    let beyond : Vertex :=
      if xins < zins ∨ yins < zins then (if yins < xins then ⟨1, -1⟩ else ⟨-1, 1⟩) else ⟨1, 1⟩
    shared ++ [⟨0, 0⟩, beyond]
  else
    let zins := 2 - sum
    let beyond : Vertex :=
      if zins < xins ∨ zins < yins then (if yins < xins then ⟨2, 0⟩ else ⟨0, 2⟩) else ⟨0, 0⟩
    shared ++ [⟨1, 1⟩, beyond]

/-- The noise at a point of the plane. -/
def noise (perm : Array Nat) (x y : Float) : Except Refusal Float := do
  let offset := (x + y) * stretch
  let xs := x + offset
  let ys := y + offset
  let xsb ← (floor? xs).mapError .noInteger
  let ysb ← (floor? ys).mapError .noInteger
  let back := (← asFloat (xsb + ysb)) * squish
  let dx := x - (Float.ofInt xsb + back)
  let dy := y - (Float.ofInt ysb + back)
  let contributions ← (vertices (xs - Float.ofInt xsb) (ys - Float.ofInt ysb)).mapM
    fun v => v.contribution perm xsb ysb dx dy
  return contributions.foldl (· + ·) 0 / norm

end Terrain.Noise.Plane
