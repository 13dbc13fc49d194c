import Terrain.Host
import Terrain.Noise.Simplex
import Terrain.Number.ByteSize
import Terrain.Yaml.Document

/-!
# The standard host

The host that the program is run on: configurations are read by `Yaml.read`, noise is simplex
noise, lines are written in UTF-8, and memory and calls have fixed limits.
-/

namespace Terrain.Host

/-! ## 1. Room for arrays -/

/-- The bytes of the densities of a cube. -/
def densityBytes (edge : Nat) : Nat := 4 * (edge * edge * edge)

/-- The most bytes that the densities of a patch may take. -/
def memoryLimit : Nat := 0x100000000

/-- The room for the arrays of a cube: its edge must be storable in 64 bits, and so must the number
    of bytes; what is left must fit into memory. -/
def roomFor : Patch.Arrays := fun edge =>
  let n := toString edge
  if !Noise.fitsWord edge then .error "Maximum allowed dimension exceeded"
  else if !Noise.fitsWord (densityBytes edge) then
    .error
      "array is too big; `arr.size * arr.dtype.itemsize` is larger than the maximum possible size."
  else if memoryLimit < densityBytes edge then
    .error ("Unable to allocate " ++ Number.byteSize (densityBytes edge) ++
      " for an array with shape (" ++ n ++ ", " ++ n ++ ", " ++ n ++ ") and data type float32")
  else .ok ()

/-! ## 2. The host -/

/-- The calls that an evaluation takes and may make. -/
def calls : Formula.Stack := ⟨⟨2, 4⟩, 900⟩

/-- The host that the program is run on. -/
def standard : Host where
  readYaml b := (Yaml.read (.ofBytes b)).mapError (·.message)
  generator := Noise.simplex
  arrays := roomFor
  unprintable? line := (Text.Utf8.unpaired? line.toList).map (·.message)
  stack := calls
  formulaRoom := Formula.nestingLimit
  jsonRoom := Json.nestingLimit

end Terrain.Host
