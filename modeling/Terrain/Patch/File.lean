import Terrain.Archive.Array
import Terrain.Archive.Zip
import Terrain.Patch

/-!
# Patches as files

A patch is saved as an archive of six arrays: the densities, voxel ids and shapes of its cells,
its origin, its biome, and the seed of its world.
-/

namespace Terrain.Patch

open Archive

/-- The seed as an array: a number where 64 bits hold it, and its digits where they do not. -/
def seedElements (seed : Int) : Elements :=
  if Noise.fitsWord seed then .integers [seed] else .text (toString seed)

/-- The arrays of a patch. -/
def arrays (p : Patch) : List Entry :=
  let cube := [p.size, p.size, p.size]
  [⟨"density.npy", arrayFile (.singles (p.cells.map (·.density))) cube⟩,
   ⟨"voxel_ids.npy", arrayFile (.words (p.cells.map (·.voxelId))) cube⟩,
   ⟨"shapes.npy", arrayFile (.octets (p.cells.map (·.shape))) cube⟩,
   ⟨"origin.npy", arrayFile (.integers [p.origin.x, p.origin.y, p.origin.z]) [3]⟩,
   ⟨"biome.npy", arrayFile (.text p.biome) []⟩,
   ⟨"seed.npy", arrayFile (seedElements p.seed) []⟩]

/-- The file of a patch. -/
def file (p : Patch) : List UInt8 := Archive.bytes p.arrays

end Terrain.Patch
