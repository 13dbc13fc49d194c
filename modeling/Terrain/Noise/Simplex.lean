import Terrain.Noise.Generator
import Terrain.Noise.Plane
import Terrain.Noise.Space

/-!
# Simplex noise

The generator of a seed reads one permutation, in the plane as in space. The permutation is made
once for a generator, however often the generator is asked.
-/

namespace Terrain.Noise

/-- The generator of simplex noise of a seed. -/
def simplex (seed : Int) : Generator :=
  let perm := permutation seed
  ⟨Plane.noise perm, Space.noise perm⟩

end Terrain.Noise
