import Terrain.Patch
import Terrain.VoxelTypes

/-!
# Hosts

A run rests on things that are not the program's own: a reader of configurations, generators of
noise, room for arrays, an output that takes lines, and a limit to the calls that may be open at
once. A `Host` is one choice of all of these. What the program does is a function of its host too,
and what holds of every host holds wherever the program runs.

* A host refuses in words of its own, and the program passes them on.
* `Host.standard` is the host that the program is run on.
-/

namespace Terrain

/-- What a run rests on: a reader of configurations, a generator of noise for every seed, room for
    the arrays of a patch, what the output has against a line if anything, the calls that an
    evaluation may make, and the room for nested formulas and nested JSON. -/
structure Host where
  readYaml : List UInt8 → Except String Value
  generator : Int → Noise.Generator
  arrays : Patch.Arrays
  unprintable? : String → Option String
  stack : Formula.Stack
  formulaRoom : Nat
  jsonRoom : Nat

/-- What profiles are compiled with on a host. -/
def Host.setting (h : Host) (t : VoxelTypes) : Profile.Setting :=
  ⟨t.idOf?, h.formulaRoom, h.jsonRoom⟩

end Terrain
