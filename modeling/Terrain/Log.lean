/-!
# The log

What the program does is told in records. A record has a level, and the part of the program that
tells it; only records at or above a chosen level are shown.
-/

namespace Terrain.Log

/-- Levels, the least important first. -/
inductive Level where
  | debug
  | info
  | warning
  | error
  deriving DecidableEq, Repr

/-- The level by number: a higher one is more important. -/
def Level.rank : Level → Nat
  | .debug => 10
  | .info => 20
  | .warning => 30
  | .error => 40

/-- The level by name. -/
def Level.name : Level → String
  | .debug => "DEBUG"
  | .info => "INFO"
  | .warning => "WARNING"
  | .error => "ERROR"

/-- All levels. -/
def Level.all : List Level := [.debug, .info, .warning, .error]

/-- The parts of the program that keep a log. -/
inductive Source where
  | formulas
  | profiles
  | registry
  | voxels
  | noise
  | climate
  | patches
  | command
  deriving DecidableEq, Repr

/-- The name a source signs its records with. -/
def Source.name : Source → String
  | .formulas => "biomes.compiler"
  | .profiles => "biomes.profile"
  | .registry => "biomes.registry"
  | .voxels => "biomes.voxels"
  | .noise => "biomes.noise"
  | .climate => "biomes.climate"
  | .patches => "biomes.sampling"
  | .command => "sample_biomes"

/-- A record of the log. -/
structure Record where
  source : Source
  level : Level
  text : String
  deriving DecidableEq, Repr

/-- A record as it is shown. -/
def Record.line (r : Record) : String :=
  r.source.name ++ " - " ++ r.level.name ++ " - " ++ r.text

/-- The records at or above a level. -/
def atLeast (l : Level) (records : List Record) : List Record :=
  records.filter fun r => l.rank ≤ r.level.rank

end Terrain.Log
