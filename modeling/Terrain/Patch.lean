import Terrain.Climate
import Terrain.FileTree
import Terrain.Number.Fixed
import Terrain.Profile.Compile

/-!
# Patches

A patch is a profile evaluated over a cube of voxels. Its cells are listed with the last
coordinate running fastest: the cell `(i, j, k)` of a patch of edge `s` is number
`(i * s + j) * s + k`.

* A cell stores the density rounded to a single, the id of the voxel type as a word of sixteen
  bits, and the code of the shape.
* Whether there are arrays for the cells is asked before the first cell, and what there is not room
  for is the host's affair (`Arrays`).
* The first cell that has no climate, or whose formulas come to nothing, ends the sampling: the
  density is evaluated first, then the voxel. The origin must be storable in 64 bits, which is
  looked at last.
-/

namespace Terrain

/-- A cell of a patch. -/
structure Cell where
  density : Float32
  voxelId : UInt16
  shape : UInt8

/-- The cells of a cube of voxels. -/
structure Patch where
  biome : String
  seed : Int
  origin : Position
  size : Nat
  cells : List Cell

namespace Patch

/-- The room for the arrays of a cube of an edge, or why there is none. -/
abbrev Arrays := Nat → Except String Unit

/-- Why there is no patch. -/
inductive Refusal where
  | size (given : Int)
  | arrays (problem : String)
  | climate (r : Noise.Refusal)
  | formula (h : Formula.Halt)
  | originTooLarge
  deriving DecidableEq, Repr

/-- The refusal in words. -/
def Refusal.message : Refusal → String
  | .size n => "Patch size must be positive, got " ++ toString n
  | .arrays problem => problem
  | .climate r => r.message
  | .formula h => h.message
  | .originTooLarge => Noise.beyondWordMessage

/-- The offset of a cell from the origin, along each axis. -/
def offset (size n : Nat) : Nat × Nat × Nat := (n / (size * size), n / size % size, n % size)

/-- The place of a cell. -/
def place (origin : Position) (size n : Nat) : Position :=
  let (i, j, k) := offset size n
  ⟨origin.x + i, origin.y + j, origin.z + k⟩

/-- The cell of a place. -/
def cellAt (p : Profile) (s : Formula.Stack) (noise : Noise) (c : Climate) (q : Position) :
    Except Refusal Cell := do
  let context ← (c.contextAt q 0).mapError .climate
  let density ← (p.sampleDensity s noise context).result.mapError .formula
  let voxel ← (p.sampleVoxel s noise context).result.mapError .formula
  return ⟨density.toFloat32, UInt16.ofNat voxel.id, voxel.shape.code⟩

/-- The edge of a cube of a given size, if there are arrays for its cells. -/
def edgeOf (arrays : Arrays) (size : Int) : Except Refusal Nat := do
  if size ≤ 0 then throw (.size size)
  (arrays size.toNat).mapError .arrays
  return size.toNat

/-- Samples a cube of voxels. -/
def sample (arrays : Arrays) (s : Formula.Stack) (p : Profile) (noise : Noise) (c : Climate)
    (origin : Position) (size : Int) : Except Refusal Patch := do
  let edge ← edgeOf arrays size
  let cells ← (List.range (edge * edge * edge)).mapM fun n =>
    cellAt p s noise c (place origin edge n)
  if [origin.x, origin.y, origin.z].all Noise.fitsWord then
    return ⟨p.name, c.seed, origin, edge, cells⟩
  throw .originTooLarge

/-- A place in words. -/
def placeText (p : Position) : String :=
  "(" ++ toString p.x ++ ", " ++ toString p.y ++ ", " ++ toString p.z ++ ")"

/-- The record of a patch that was sampled. -/
def sampledRecord (p : Patch) : Log.Record :=
  ⟨.patches, .debug,
    "Sampled biome '" ++ p.biome ++ "' at " ++ placeText p.origin ++ " with size " ++
      toString p.size⟩

/-- The record of a patch that was saved. -/
def savedRecord (p : Path) : Log.Record := ⟨.patches, .debug, "Saved patch to " ++ p.text⟩

/-! ## Files -/

/-- The name of the file of a patch. -/
def fileName (biome : String) (origin : Position) : String :=
  biome ++ "_x" ++ toString origin.x ++ "_y" ++ toString origin.y ++ "_z" ++ toString origin.z ++
    ".npz"

/-- The path of the file of a patch, followed from a folder. -/
def filePath (biome : String) (origin : Position) (folder : Path) : Path :=
  folder.join (.ofString (fileName biome origin))

/-- Whether a place can be written down: no coordinate has too many digits. A place that was read
    from digits always can. -/
def writable (p : Position) : Bool := [p.x, p.y, p.z].all fun n => !(Value.int n).exceedsDigits

/-- The path of the file of a patch, if its origin can be written down. -/
def filePath? (biome : String) (origin : Position) (folder : Path) : Option Path :=
  if writable origin then some (filePath biome origin folder) else none

/-! ## The range of densities -/

/-- The lesser of two singles; no number if one is none. -/
def lesser (a b : Float32) : Float32 := if a.isNaN || a ≤ b then a else b

/-- The greater of two singles; no number if one is none. -/
def greater (a b : Float32) : Float32 := if a.isNaN || b ≤ a then a else b

/-- The least and the greatest density, with three places. -/
def rangeText (p : Patch) : String :=
  let densities := p.cells.map (·.density)
  let first := densities.headD 0
  let low := densities.foldl lesser first
  let high := densities.foldl greater first
  "[" ++ Number.fixed 3 low.toFloat ++ ", " ++ Number.fixed 3 high.toFloat ++ "]"

end Patch
end Terrain
