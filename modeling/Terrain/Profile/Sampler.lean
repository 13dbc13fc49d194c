import Terrain.Formula.Build
import Terrain.Profile.Fault

/-!
# Sampler fields

A profile declares named fields: noise of a wavelength and an amplitude, or a formula. They are
bound one after the other, and a formula sees the fields bound before it.

* A field is bound only when its whole declaration is in order; until then the fields are as they
  were (`Workshop.fields`).
* The first thing wrong with a declaration is reported: its name, a name that is taken, its type,
  and then what its type asks for.
* What is wrong after the name is known is reported under that name.
-/

namespace Terrain.Profile

open Terrain.Formula

/-! ## 1. The workshop -/

/-- Where a profile is compiled: the fields bound so far, and what was built for them. -/
structure Workshop where
  fields : List Field
  draft : Draft

/-- Nothing bound yet. -/
def Workshop.empty : Workshop := ⟨[], .empty⟩

/-- What a workshop is set up with: the ids of voxel types, and the room for nested formulas and
    for nested JSON. -/
structure Setting where
  voxelId : Text → Option Nat
  room : Nat
  jsonRoom : Nat

/-- The setting with the room that there is by default. -/
def Setting.standard (voxelId : Text → Option Nat) : Setting :=
  ⟨voxelId, nestingLimit, Json.nestingLimit⟩

/-- Compiling: it may fail, and what was bound and built till then remains. -/
abbrev Compile := ExceptT Failure (StateM Workshop)

/-- Refuses the profile. -/
def refuse {α : Type} (f : Fault) : Compile α := throw (.refused f.somewhere)

/-- A required entry, or the refusal for want of it. -/
def demand {α : Type} (x : Except Value.Lack α) : Compile α :=
  match x with
  | .ok a => return a
  | .error l => refuse (.lack l)

/-- The failure of a compilation is told to lie in a field. -/
def inField {α : Type} (name : String) (x : Compile α) : Compile α :=
  ExceptT.mk do
    match ← x.run with
    | .ok a => return .ok a
    | .error f => return .error (f.within none (some name))

/-- Builds a formula with the fields bound so far. -/
def compileFormula (s : Setting) (k : Kind) (text : String) : Compile Nat :=
  ExceptT.mk fun w =>
    match (build ⟨s.voxelId, w.fields⟩ s.room k text.toList).run w.draft with
    | (.ok root, d) => (.ok root, { w with draft := d })
    | (.error (.refused r), d) => (.error (.refused (ofFormula r)), { w with draft := d })
    | (.error .noRoom, d) =>
      (.error (.refused (ofFormula (.nesting text.toList))), { w with draft := d })

/-! ## 2. Declarations -/

/-- The double of a required number. A whole number beyond the doubles ends the load. -/
def demandNumber (entries : List (Value × Value)) (key : String) : Compile Float := do
  match ← demand (Value.requireNumber entries key "sampler") with
  | .inr x => return x
  | .inl n =>
    match Number.ofInt? n with
    | some x => return x
    | none => throw (.aborted .tooLarge)

/-- Makes a node. -/
def make (n : Node) : Compile Nat :=
  modifyGet fun w =>
    (w.draft.graph.size, { w with draft := { w.draft with graph := w.draft.graph.push n } })

/-- The node of a sampler whose name is known and free. -/
def samplerNode (s : Setting) (entries : List (Value × Value)) : Compile Nat := do
  let type ← demand (Value.requireText entries "Type" "sampler")
  if type = "Simplex" then
    let wavelength ← demandNumber entries "Wavelength"
    let amplitude ← demandNumber entries "Amplitude"
    make (.noise wavelength amplitude)
  else if type = "Formula" then
    compileFormula s .number (← demand (Value.requireText entries "Formula" "sampler"))
  else refuse (.samplerType type)

/-- Binds a name to a node, and tells so. -/
def bindField (name : String) (root : Nat) : Compile Unit :=
  modify fun w =>
    let steps :=
      match w.draft.graph.node? root with
      | some n => w.draft.steps.push (.bind name.toList n)
      | none => w.draft.steps
    { fields := w.fields ++ [⟨name.toList, root⟩], draft := { w.draft with steps := steps } }

/-- Whether a name is bound. -/
def Workshop.binds (w : Workshop) (name : String) : Bool :=
  w.fields.any (·.name == name.toList)

/-- Binds the field that one entry declares. -/
def bindSampler (s : Setting) (entries : List (Value × Value)) : Compile Nat := do
  let name ← demand (Value.requireText entries "Name" "sampler")
  let root ← inField name do
    if (← get).binds name then refuse (.fieldTwice name)
    samplerNode s entries
  bindField name root
  return root

/-- Binds the fields that the entries declare, in order, up to the first that fails. -/
def bindSamplers (s : Setting) : List Value → Compile Unit
  | [] => return ()
  | .map entries :: rest => do
    let _ ← bindSampler s entries
    bindSamplers s rest
  | v :: _ => refuse (.samplerNotMap v.form)

end Terrain.Profile
