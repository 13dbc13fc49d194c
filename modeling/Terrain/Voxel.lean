/-!
# Voxels and the places they stand at

A profile is evaluated at one place of the world. What it reads there is a `Context`, what it
answers is a `Voxel`.
-/

namespace Terrain

/-- A place of the world, counted in voxels. -/
structure Position where
  x : Int
  y : Int
  z : Int
  deriving DecidableEq, Repr, Inhabited

/-- The shapes a voxel can have. -/
inductive Shape where
  | cube
  | slab
  deriving DecidableEq, Repr

/-- All shapes, in the order they are offered in. -/
def Shape.all : List Shape := [.cube, .slab]

/-- The name a formula gives a shape. -/
def Shape.name : Shape → String
  | .cube => "CUBE"
  | .slab => "SLAB"

/-- The number a patch stores for a shape. -/
def Shape.code : Shape → UInt8
  | .cube => 0
  | .slab => 1

/-- The shape of a name. -/
def Shape.named? (name : List Char) : Option Shape := Shape.all.find? (·.name.toList == name)

/-- What a profile can read at a place: the place, and four signals. -/
structure Context where
  position : Position
  depth : Float
  moisture : Float
  temperature : Float
  density : Float

/-- What a profile makes of a place. -/
structure Voxel where
  id : Nat
  shape : Shape
  state : Nat
  deriving DecidableEq, Repr

theorem Shape.named?_name (s : Shape) : Shape.named? s.name.toList = some s := by
  cases s <;> decide

end Terrain
