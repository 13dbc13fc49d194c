import Terrain.Log
import Terrain.Named
import Terrain.Value.Convert

/-!
# Voxel types

Formulas name the types of voxels; patches store their ids. The registry of types gives every name
one id, and an id has sixteen bits.

* A name is registered once. Its id may be written in any way a whole number may be; what is
  refused leaves the registry as it was.
* A configuration may list types under keys that are no texts. They are checked and counted, but
  no formula can name them.
-/

namespace Terrain

/-- A type of voxels. -/
structure VoxelType where
  name : String
  id : Nat
  deriving DecidableEq, Repr

/-- The registered types, and the number of those without a name that a formula could use. -/
structure VoxelTypes where
  types : List VoxelType
  unnamed : Nat
  deriving DecidableEq, Repr

namespace VoxelTypes

/-- No type registered. -/
def empty : VoxelTypes := ⟨[], 0⟩

/-- The greatest id. -/
def maxId : Nat := 0xFFFF

/-- Why a type is not registered. -/
inductive Refusal where
  | twice (name : String)
  | outOfRange (name given : String)
  | unwritable
  | unfit (u : Value.Unfit)
  deriving DecidableEq, Repr

/-- The refusal in words. -/
def Refusal.message : Refusal → String
  | .twice name => "Voxel type '" ++ name ++ "' is already registered"
  | .outOfRange name given => "Voxel id for '" ++ name ++ "' out of range: " ++ given
  | .unwritable => Value.unwritableMessage
  | .unfit u => u.message

/-- The type of a name. -/
def find? (t : VoxelTypes) (name : String) : Option VoxelType := t.types.find? (·.name == name)

/-- The id of a name as it stands in a formula. -/
def idOf? (t : VoxelTypes) (name : Text) : Option Nat :=
  (t.find? (String.ofList name)).map (·.id)

/-- The number of types. -/
def size (t : VoxelTypes) : Nat := t.types.length + t.unnamed

/-- The names in order. -/
def names (t : VoxelTypes) : List String := Named.sort (t.types.map (·.name))

/-- The id that a value writes for a name. -/
def idFor (name : String) (id : Value) : Except Refusal Nat := do
  let n ← id.integer?.mapError .unfit
  if 0 ≤ n ∧ n ≤ maxId then return n.toNat
  match id.plain? with
  | some given => throw (.outOfRange name given)
  | none => throw .unwritable

/-- Registers a name with an id. -/
def register (t : VoxelTypes) (name : String) (id : Value) :
    Except Refusal (VoxelType × VoxelTypes) := do
  if (t.find? name).isSome then throw (.twice name)
  let type : VoxelType := ⟨name, ← idFor name id⟩
  return (type, { t with types := t.types ++ [type] })

/-- Registers the types of a map, in order, up to the first that is refused. -/
def registerAll (t : VoxelTypes) : List (Value × Value) → Except Refusal VoxelTypes
  | [] => .ok t
  | (.text name, id) :: es => do
    let (_, t) ← t.register name id
    t.registerAll es
  | (key, id) :: es => do
    let _ ← idFor key.plain id
    VoxelTypes.registerAll { t with unnamed := t.unnamed + 1 } es

/-- The record of types that were loaded. -/
def loadedRecord (t : VoxelTypes) : Log.Record :=
  ⟨.voxels, .info, "Loaded " ++ toString t.size ++ " voxel types"⟩

@[simp] theorem find?_empty (name : String) : empty.find? name = none := rfl

end VoxelTypes
end Terrain
