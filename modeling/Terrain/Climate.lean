import Terrain.Noise.Generator

/-!
# Climate

The climate of a world gives every place the signals that profiles read: the depth below a flat
surface, and moisture and temperature from two independent noises in the plane.

* The two noises are generators of their own, with the seeds next to the world's, so they do not
  agree with each other.
* Scales are not looked at. Where a generator has no noise the place has no climate; the moisture
  is asked for first.
-/

namespace Terrain

open Number

/-- The climate of a world: its seed, the height of its surface, and its noises and their scales. -/
structure Climate where
  seed : Int
  surfaceLevel : Int
  temperatureScale : Float
  moistureScale : Float
  temperature : Noise.Generator
  moisture : Noise.Generator

namespace Climate

/-- The climate of a seed, with a generator for every seed. -/
def ofSeed (generator : Int → Noise.Generator) (seed surfaceLevel : Int)
    (temperatureScale moistureScale : Float) : Climate :=
  ⟨seed, surfaceLevel, temperatureScale, moistureScale, generator (seed + 1),
    generator (seed + 2)⟩

/-- The record of a climate that is ready. -/
def readyRecord (seed : Int) : Log.Record :=
  ⟨.climate, .info, "ClimateField initialized with seed=" ++ toString seed⟩

/-- The signal of a noise at a column of the world. -/
def signal (g : Noise.Generator) (scale : Float) (x z : Int) : Except Noise.Refusal Float := do
  let v ← g.plane ((← Noise.asFloat x) * scale) ((← Noise.asFloat z) * scale)
  return (v + 1) / 2

/-- The distance below the surface, negative above it. -/
def depth (c : Climate) (y : Int) : Except Noise.Refusal Float :=
  Noise.asFloat (c.surfaceLevel - y)

/-- What a profile can read at a place; the density is not the climate's. -/
def contextAt (c : Climate) (p : Position) (density : Float) :
    Except Noise.Refusal Context := do
  let depth ← c.depth p.y
  let moisture ← signal c.moisture c.moistureScale p.x p.z
  let temperature ← signal c.temperature c.temperatureScale p.x p.z
  return ⟨p, depth, moisture, temperature, density⟩

end Climate
end Terrain
