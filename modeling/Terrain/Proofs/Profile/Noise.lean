import Terrain.Proofs.Formula.Noise
import Terrain.Proofs.Profile.Binding
import Terrain.Proofs.Profile.Interpreter

/-!
# Profiles that differ in noise

The wavelength and the amplitude that a document declares go into the nodes of noise and no further.
Two documents that differ in nothing else compile to profiles that answer alike, and what they answer
at a place depends on the noise at that place alone.

* `SameButNoise`: two documents differ at most in the wavelengths and amplitudes of their noise.
* `alike_of_compile`: they compile to the same fields and roots, in graphs that are alike.
* `noise_noninterference`: the two profiles answer alike, and ask noise the same.
-/

namespace Terrain.Profile

open Terrain.Formula

variable {s : Setting} {w w' v v' : Workshop} {entries entries' : List (Value × Value)}
variable {root root' : Nat}

/-! ## 1. Documents that differ in noise -/

/-- Two entries have the same values, but for the wavelength and the amplitude. -/
def SameEntry (entries entries' : List (Value × Value)) : Prop :=
  ∀ key, key ≠ "Wavelength" → key ≠ "Amplitude" →
    Value.lookup key entries' = Value.lookup key entries

/-- Two samplers are the same, or both are noise and differ in its wavelength or amplitude. -/
inductive SameSampler : Value → Value → Prop
  | same (v : Value) : SameSampler v v
  | noise {entries entries' : List (Value × Value)}
      (htype : Value.lookup "Type" entries = some (.text "Simplex"))
      (hsame : SameEntry entries entries') : SameSampler (.map entries) (.map entries')

/-- **Two documents are the same but for noise**: they list samplers that are, and have the same
    values under all other keys. -/
inductive SameButNoise : Value → Value → Prop
  | document {entries entries' : List (Value × Value)} {samplers samplers' : List Value}
      (hlist : Value.lookup samplersKey entries = some (.list samplers))
      (hlist' : Value.lookup samplersKey entries' = some (.list samplers'))
      (hsamplers : List.Forall₂ SameSampler samplers samplers')
      (hsame : ∀ key, key ≠ samplersKey → Value.lookup key entries' = Value.lookup key entries) :
      SameButNoise (.map entries) (.map entries')

theorem requireText_congr {key : String} (h : Value.lookup key entries' = Value.lookup key entries)
    (what : String) : Value.requireText entries' key what = Value.requireText entries key what := by
  unfold Value.requireText
  rw [h]

/-! ## 2. Compiling them -/

/-- Two workshops have the same fields, in graphs that are alike. -/
structure Workshop.Alike (w v : Workshop) : Prop where
  fields : v.fields = w.fields
  graph : w.draft.graph.Alike v.draft.graph

theorem Workshop.Alike.scope_eq (h : w.Alike v) (s : Setting) : v.scope s = w.scope s := by
  unfold Workshop.scope
  rw [h.fields]

/-- Declarations that are the same but for noise make nodes that are alike. -/
theorem alike_samplerNode (hsame : SameEntry entries entries') (hw : w.Alike v)
    (h : (samplerNode s entries).run w = (.ok root, w'))
    (h' : (samplerNode s entries').run v = (.ok root', v')) : root' = root ∧ w'.Alike v' := by
  obtain ⟨hfields, hadded⟩ := run_samplerNode_ok h
  obtain ⟨hfields', hadded'⟩ := run_samplerNode_ok h'
  have hkept : v'.fields = w'.fields := by rw [hfields', hfields, hw.fields]
  rw [requireText_congr (hsame "Type" (by decide) (by decide)),
    requireText_congr (hsame "Formula" (by decide) (by decide))] at hadded'
  rcases hadded with ⟨htype, _, _, rfl, hdraft⟩ | ⟨htype, text, htext, hbuilt⟩
  · rcases hadded' with ⟨-, _, _, rfl, hdraft'⟩ | ⟨htype', -⟩
    · refine ⟨hw.graph.size_eq, hkept, ?_⟩
      rw [hdraft, hdraft']
      exact hw.graph.push (.noise _ _ _ _)
    · simp [htype] at htype'
  · rcases hadded' with ⟨htype', -⟩ | ⟨-, text', htext', hbuilt'⟩
    · simp [htype] at htype'
    · rw [htext] at htext'
      cases htext'
      rw [hw.scope_eq] at hbuilt'
      obtain ⟨hroot, hgraph⟩ := hbuilt.alike hbuilt' hw.graph
      exact ⟨hroot, hkept, hgraph⟩

theorem alike_bindSampler (hsame : SameEntry entries entries') (hw : w.Alike v)
    (h : (bindSampler s entries).run w = (.ok root, w'))
    (h' : (bindSampler s entries').run v = (.ok root', v')) : w'.Alike v' := by
  obtain ⟨name, w₁, hname, -, hnode, hfields, hgraph⟩ := run_bindSampler_ok h
  obtain ⟨name', v₁, hname', -, hnode', hfields', hgraph'⟩ := run_bindSampler_ok h'
  rw [requireText_congr (hsame "Name" (by decide) (by decide)), hname] at hname'
  cases hname'
  obtain ⟨rfl, halike⟩ := alike_samplerNode hsame hw hnode hnode'
  refine ⟨by rw [hfields, hfields', halike.fields], ?_⟩
  rw [hgraph, hgraph']
  exact halike.graph

/-- **Samplers that are the same but for noise are bound alike.** -/
theorem alike_bindSamplers {u u' : Unit} {samplers samplers' : List Value}
    (hsamplers : List.Forall₂ SameSampler samplers samplers') (hw : w.Alike v)
    (h : (bindSamplers s samplers).run w = (.ok u, w'))
    (h' : (bindSamplers s samplers').run v = (.ok u', v')) : w'.Alike v' := by
  induction hsamplers generalizing w v with
  | nil =>
    cases h
    cases h'
    exact hw
  | cons hsampler _ ih =>
    obtain ⟨entries, root, w₁, rfl, hfirst, hrest⟩ := run_bindSamplers_cons_ok h
    obtain ⟨entries', root', v₁, rfl, hfirst', hrest'⟩ := run_bindSamplers_cons_ok h'
    have hsame : SameEntry entries entries' := by
      cases hsampler with
      | same => exact fun _ _ _ => rfl
      | noise _ hsame => exact hsame
    exact ih (alike_bindSampler hsame hw hfirst hfirst') hrest hrest'

/-- A formula that both documents have is compiled alike. -/
theorem alike_compileKey {k : Kind} {key : String}
    (hsame : Value.lookup key entries' = Value.lookup key entries) (hw : w.Alike v)
    (h : (compileKey s k entries key).run w = (.ok root, w'))
    (h' : (compileKey s k entries' key).run v = (.ok root', v')) : root' = root ∧ w'.Alike v' := by
  obtain ⟨text, htext, hbuilt, hfields⟩ := run_compileKey_ok h
  obtain ⟨text', htext', hbuilt', hfields'⟩ := run_compileKey_ok h'
  rw [requireText_congr hsame, htext] at htext'
  cases htext'
  rw [hw.scope_eq] at hbuilt'
  obtain ⟨hroot, hgraph⟩ := hbuilt.alike hbuilt' hw.graph
  exact ⟨hroot, by rw [hfields, hfields', hw.fields], hgraph⟩

/-- Two profiles have the same fields and the same roots, in graphs that are alike. -/
structure Alike (p q : Profile) : Prop where
  fields : q.fields = p.fields
  graph : p.graph.Alike q.graph
  density : q.density = p.density
  voxelId : q.voxelId = p.voxelId
  shape : q.shape = p.shape

/-- **Documents that are the same but for noise compile alike.** -/
theorem alike_of_compile {name name' : String} {document document' : Value} {p q : Profile}
    {log log' : List Log.Record} (hsame : SameButNoise document document')
    (h : compile s name document = (.ok p, log)) (h' : compile s name' document' = (.ok q, log')) :
    p.Alike q := by
  obtain ⟨entries, w, rfl, hrun⟩ := compile_ok h
  obtain ⟨entries', w', rfl, hrun'⟩ := compile_ok h'
  cases hsame with
  | @document _ _ samplers samplers' hlist hlist' hsamplers hkeys =>
    obtain ⟨all, w₁, w₂, w₃, u, hall, hbind, hdensity, hvoxel, hshape, hp⟩ :=
      run_compileEntries_ok hrun
    obtain ⟨all', v₁, v₂, v₃, u', hall', hbind', hdensity', hvoxel', hshape', hq⟩ :=
      run_compileEntries_ok hrun'
    rw [requireList_eq_ok_iff, hlist] at hall
    rw [requireList_eq_ok_iff, hlist'] at hall'
    cases hall
    cases hall'
    have hempty : Workshop.empty.Alike Workshop.empty := ⟨rfl, .refl _⟩
    have h₁ := alike_bindSamplers hsamplers hempty hbind hbind'
    obtain ⟨hrootD, h₂⟩ := alike_compileKey (hkeys densityKey (by decide)) h₁ hdensity hdensity'
    obtain ⟨hrootV, h₃⟩ := alike_compileKey (hkeys typeKey (by decide)) h₂ hvoxel hvoxel'
    obtain ⟨hrootS, h₄⟩ := alike_compileKey (hkeys shapeKey (by decide)) h₃ hshape hshape'
    refine ⟨?_, ?_, hrootD, hrootV, hrootS⟩
    · rw [hp, hq]
      exact h₄.fields
    · rw [hp, hq]
      exact h₄.graph

/-! ## 3. Answering alike -/

namespace Alike

variable {p q : Profile} {noise noise' : Noise} {c : Context}

/-- **The node counts are equal.** -/
theorem nodeCount_eq (hpq : p.Alike q) : q.nodeCount = p.nodeCount := by
  unfold nodeCount Graph.reachableFrom
  rw [hpq.density, hpq.voxelId, hpq.shape, funext hpq.graph.reachable_eq]

theorem sampleDensity_eq (hpq : p.Alike q) (stack : Stack)
    (hnoise : noise' c.position = noise c.position) :
    q.sampleDensity stack noise' c = p.sampleDensity stack noise c := by
  unfold sampleDensity Graph.evaluate
  rw [hpq.density, hpq.graph.evaluateIn_eq _ hnoise]

theorem sampleVoxel_eq (hpq : p.Alike q) (stack : Stack)
    (hnoise : noise' c.position = noise c.position) :
    q.sampleVoxel stack noise' c = p.sampleVoxel stack noise c := by
  unfold sampleVoxel Graph.evaluate
  rw [hpq.voxelId, hpq.shape, hpq.graph.evaluateIn_eq _ hnoise, hpq.graph.evaluateIn_eq _ hnoise]

end Alike

/-- **The noise of other places, and the numbers that noise is declared with, do not matter.** Two
    documents that are the same but for noise compile to profiles with as many nodes. At every place,
    with noise that is the same there, both answer the same density and the same voxel, and both ask
    noise as often, always at the place itself. Neither is stuck: the density and the voxel are there
    unless noise is refused at the place or the calls that this takes are more than may be open. -/
theorem noise_noninterference {name name' : String} {document document' : Value} {p q : Profile}
    {log log' : List Log.Record} (hsame : SameButNoise document document')
    (h : compile s name document = (.ok p, log)) (h' : compile s name' document' = (.ok q, log')) :
    q.nodeCount = p.nodeCount ∧
    ∀ (calls : Calls) (noise noise' : Noise) (c : Context),
      noise' c.position = noise c.position →
      Settles noise c (fun room => p.sampleDensity ⟨calls, room⟩ noise c) (fun _ => True) ∧
      Settles noise c (fun room => p.sampleVoxel ⟨calls, room⟩ noise c) (·.state = 0) ∧
      ∀ room, q.sampleDensity ⟨calls, room⟩ noise' c = p.sampleDensity ⟨calls, room⟩ noise c ∧
        q.sampleVoxel ⟨calls, room⟩ noise' c = p.sampleVoxel ⟨calls, room⟩ noise c ∧
        (∀ place ∈ (p.sampleDensity ⟨calls, room⟩ noise c).queries, place = c.position) ∧
        ∀ place ∈ (p.sampleVoxel ⟨calls, room⟩ noise c).queries, place = c.position := by
  have hpq := alike_of_compile hsame h h'
  refine ⟨hpq.nodeCount_eq, fun calls noise noise' c hnoise => ?_⟩
  obtain ⟨hdensity, hvoxel⟩ := settles_of_compile h calls noise c
  exact ⟨hdensity, hvoxel, fun room => ⟨hpq.sampleDensity_eq _ hnoise, hpq.sampleVoxel_eq _ hnoise,
    hdensity.asked room, hvoxel.asked room⟩⟩

/-- Voxel types with one name. -/
def mossSetting : Setting := .standard fun t => if t = "moss".toList then some 3 else none

/-- The entry of a field of noise. -/
def noiseEntry (wavelength amplitude : Value) : List (Value × Value) :=
  [(.text "Name", .text "hills"), (.text "Type", .text "Simplex"),
    (.text "Wavelength", wavelength), (.text "Amplitude", amplitude)]

/-- A document that chooses by a field of noise. -/
def rolling (wavelength amplitude : Value) : Value :=
  .map [(.text samplersKey, .list [.map (noiseEntry wavelength amplitude),
      .map (formulaEntry "ground" "Add(hills, Depth)")]),
    (.text densityKey, .text "If(Less(hills, Depth), ground, hills)"),
    (.text typeKey, .text "If(Less(ground, 0.5), Voxel(moss), Voxel( moss ))"),
    (.text shapeKey, .text "SLAB")]

theorem sameEntry_noiseEntry (a b a' b' : Value) :
    SameEntry (noiseEntry a b) (noiseEntry a' b') := by
  intro key hwavelength hamplitude
  simp [Value.lookup, noiseEntry, List.find?_cons, hwavelength.symm, hamplitude.symm]

theorem sameButNoise_rolling (a b a' b' : Value) :
    SameButNoise (rolling a b) (rolling a' b') := by
  refine .document rfl rfl (.cons (.noise rfl (sameEntry_noiseEntry a b a' b'))
    (.cons (.same _) .nil)) fun key hkey => ?_
  simp [Value.lookup, List.find?_cons, hkey.symm]

theorem noise_noninterference_rolling : ∃ p q log log',
    compile mossSetting "rolling" (rolling (.float 32.0) (.float 4.0)) = (.ok p, log) ∧
    compile mossSetting "rolling" (rolling (.int 7) (.float 0.5)) = (.ok q, log') ∧
    q.nodeCount = p.nodeCount ∧
    ∀ (calls : Calls) (noise noise' : Noise) (c : Context),
      noise' c.position = noise c.position →
      Settles noise c (fun room => p.sampleDensity ⟨calls, room⟩ noise c) (fun _ => True) ∧
      Settles noise c (fun room => p.sampleVoxel ⟨calls, room⟩ noise c) (·.state = 0) ∧
      ∀ room, q.sampleDensity ⟨calls, room⟩ noise' c = p.sampleDensity ⟨calls, room⟩ noise c ∧
        q.sampleVoxel ⟨calls, room⟩ noise' c = p.sampleVoxel ⟨calls, room⟩ noise c ∧
        (∀ place ∈ (p.sampleDensity ⟨calls, room⟩ noise c).queries, place = c.position) ∧
        ∀ place ∈ (p.sampleVoxel ⟨calls, room⟩ noise c).queries, place = c.position := by
  have hok : (compile mossSetting "rolling"
      (rolling (.float 32.0) (.float 4.0))).1.toOption.isSome = true := by
    decide +kernel
  have hok' : (compile mossSetting "rolling"
      (rolling (.int 7) (.float 0.5))).1.toOption.isSome = true := by
    decide +kernel
  obtain ⟨p, log, h⟩ := Attempt.exists_run_of_isSome hok
  obtain ⟨q, log', h'⟩ := Attempt.exists_run_of_isSome hok'
  exact ⟨p, q, log, log', h, h', noise_noninterference (sameButNoise_rolling _ _ _ _) h h'⟩

end Terrain.Profile
