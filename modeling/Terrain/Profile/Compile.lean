import Terrain.Formula.Evaluate
import Terrain.Log
import Terrain.Profile.Sampler

/-!
# Profiles

A profile document declares sampler fields and three formulas: the density at a place, the type of
the voxel there, and its shape.

* `Profile.compile` binds the fields in the order they are listed and then builds the three
  formulas; the first mistake ends it (`compileDocument`).
* A mistake in a formula is reported under its key. A key that is missing or has a value of
  another type is reported without one.
* `Profile.read` starts from the JSON text.
-/

namespace Terrain

open Formula

/-! ## 1. Profiles -/

/-- A compiled profile: its fields, and the nodes of its three formulas in one graph. -/
structure Profile where
  name : String
  fields : List Field
  graph : Graph
  density : Nat
  voxelId : Nat
  shape : Nat

namespace Profile

/-- The number of nodes below the three formulas, each counted once. -/
def nodeCount (p : Profile) : Nat :=
  (p.graph.reachableFrom [p.density, p.voxelId, p.shape]).length

/-- The state every voxel is in. -/
def defaultState : Nat := 0

/-- The density at a place. -/
def sampleDensity (p : Profile) (s : Stack) (noise : Noise) (c : Context) : Answer Float := do
  (← p.graph.evaluate s noise c p.density).number?

/-- The voxel at a place: its type is evaluated first, and then its shape. -/
def sampleVoxel (p : Profile) (s : Stack) (noise : Noise) (c : Context) : Answer Voxel := do
  let id ← (← p.graph.evaluate s noise c p.voxelId).voxel?
  let shape ← (← p.graph.evaluate s noise c p.shape).shape?
  return ⟨id, shape, defaultState⟩

/-- The profile in words. -/
def summary (p : Profile) : String :=
  let names := p.fields.map fun f => String.ofList (Text.quoted f.name)
  "BiomeProfile(name=" ++ Value.quotedString p.name ++ ", fields=[" ++
    String.intercalate ", " names ++ "])"

/-! ## 2. Keys of a document -/

/-- The key of the list of samplers. -/
def samplersKey : String := "Samplers"

/-- The key of the formula of the density. -/
def densityKey : String := "Voxel Density"

/-- The key of the formula of the voxel type. -/
def typeKey : String := "Voxel Type"

/-- The key of the formula of the shape. -/
def shapeKey : String := "Voxel Shape"

/-! ## 3. Compiling -/

/-- Builds the formula under a key of the document. -/
def compileKey (s : Setting) (k : Kind) (entries : List (Value × Value)) (key : String) :
    Compile Nat := do
  let text ← demand (Value.requireText entries key "document")
  inField key (compileFormula s k text)

/-- Binds the samplers of a document and builds its three formulas. -/
def compileEntries (s : Setting) (name : String) (entries : List (Value × Value)) :
    Compile Profile := do
  bindSamplers s (← demand (Value.requireList entries samplersKey "document"))
  let density ← compileKey s .number entries densityKey
  let voxelId ← compileKey s .voxel entries typeKey
  let shape ← compileKey s .shape entries shapeKey
  let w ← get
  return ⟨name, w.fields, w.draft.graph, density, voxelId, shape⟩

/-- Compiles a document, which must be a map. -/
def compileDocument (s : Setting) (name : String) (document : Value) : Compile Profile :=
  match document with
  | .map entries => compileEntries s name entries
  | v => refuse (.notMap v.form)

/-! ## 4. Reading and compiling, with the log -/

/-- The record of a step of the building. -/
def stepRecord : Step → Log.Record
  | .visit k t =>
    ⟨.formulas, .debug, "Building " ++ k.label ++ " instruction: " ++ String.ofList t⟩
  | .bind name n =>
    ⟨.formulas, .debug, "Bound sampler field " ++ named name ++ " (" ++ n.label ++ ")"⟩

/-- The record of a profile that is compiled. -/
def compiledRecord (p : Profile) : Log.Record :=
  ⟨.profiles, .debug,
    "Compiled biome profile '" ++ p.name ++ "': " ++ toString p.fields.length ++ " fields, " ++
      toString p.nodeCount ++ " nodes"⟩

/-- The profile of a document, or why there is none, and the log of compiling it. -/
def compile (s : Setting) (name : String) (document : Value) :
    Except Failure Profile × List Log.Record :=
  let (r, w) := (compileDocument s name document).run Workshop.empty
  let steps := w.draft.steps.toList.map stepRecord
  match r with
  | .ok p => (.ok p, steps ++ [compiledRecord p])
  | .error f => (.error f, steps)

/-- What a reader of profile documents puts up with. -/
def Setting.jsonLimits (s : Setting) : Json.Limits := ⟨s.jsonRoom, Number.digitLimit⟩

/-- The document of a JSON text. -/
def document (s : Setting) (t : Text) : Except Failure Value :=
  match Json.read s.jsonLimits t with
  | .ok v => .ok v
  | .error (.malformed what place) => .error (.refused (Fault.json what place).somewhere)
  | .error .tooDeep => .error (.refused Fault.jsonTooDeep.somewhere)
  | .error (.tooManyDigits n) => .error (.aborted (.tooManyDigits n))

/-- The profile of a JSON text, or why there is none, and the log of compiling it. -/
def read (s : Setting) (name : String) (t : Text) : Except Failure Profile × List Log.Record :=
  match document s t with
  | .ok v => compile s name v
  | .error f => (.error f, [])

end Profile
end Terrain
