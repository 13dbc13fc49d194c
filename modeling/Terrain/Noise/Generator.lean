import Terrain.Log
import Terrain.Noise.Lattice
import Terrain.Voxel

/-!
# Generators of noise

Noise comes of a generator that is made for a seed and only read afterwards. How a generator works
is its own affair: all that is asked of it is a number for a point of the plane and for a place of
the world, and that it says so where it has none. `Noise.simplex` is the one the program runs with.
-/

namespace Terrain

/-- A source of noise: a number for every place, or why there is none. -/
abbrev Noise := Position → Except Noise.Refusal Float

namespace Noise

/-- A generator of noise, in the plane and in space. -/
structure Generator where
  plane : Float → Float → Except Refusal Float
  space : Int → Int → Int → Except Refusal Float

/-- The noise that sampler fields ask a generator for: that in space, at the place itself. -/
def Generator.source (g : Generator) : Noise := fun p => g.space p.x p.y p.z

/-- The record of a noise source that is ready. -/
def readyRecord (seed : Int) : Log.Record :=
  ⟨.noise, .debug, "NoiseSampler initialized with seed=" ++ toString seed⟩

end Noise
end Terrain
