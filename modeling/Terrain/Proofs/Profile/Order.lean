import Terrain.Proofs.Profile.Binding

/-!
# The order of a workshop

The graph of a workshop is filled by everything the workshop is asked for, and a request that fails
leaves the nodes it made. Whatever it is asked for, no node is made before its children, and no
field is bound to a node that is not there.

* `Workshop.InOrder`: every child was made before its parent, and every field has a node.
* `inOrder_serve`, `inOrder_runs`: whatever comes of the requests, that stays so.
* `ordered_of_compile`: it is so in the graph of a profile.
-/

namespace Terrain.Profile

open Terrain.Formula Terrain.Attempt

variable {s : Setting} {w w' : Workshop}

/-- The nodes of the fields. -/
def Workshop.roots (w : Workshop) : List Nat := w.fields.map (·.root)

/-- Every child was made before its parent, and every field has a node. -/
def Workshop.InOrder (w : Workshop) : Prop := w.draft.InOrder w.roots

/-- A number is that of a node of a workshop. -/
def Workshop.Has (i : Nat) (w : Workshop) : Prop := w.draft.Has i

theorem Workshop.inOrder_empty : Workshop.empty.InOrder :=
  ⟨Graph.ordered_empty, List.forall_mem_nil _⟩

/-- Where everything below the fields is there, it is enough that children come first. -/
theorem Workshop.Sound.inOrder (hw : w.Sound) (hg : w.draft.graph.Ordered) : w.InOrder := by
  refine ⟨hg, fun i hi => ?_⟩
  obtain ⟨f, hf, rfl⟩ := List.mem_map.1 hi
  exact (hw.whole f hf).lt_size

/-! ## 1. Parts -/

theorem secures_refuse (f : Fault) : Secures Workshop.InOrder Workshop.Has (refuse f) :=
  fun _ hw => ⟨hw, nofun⟩

theorem secures_inField {x : Compile Nat} (hx : Secures Workshop.InOrder Workshop.Has x)
    (name : String) : Secures Workshop.InOrder Workshop.Has (inField name x) := by
  intro w hw
  obtain ⟨hkept, hgiven⟩ := hx w hw
  rw [run_inField]
  refine ⟨hkept, fun i hi => hgiven i ?_⟩
  rcases hx : (x.run w).1 with f | j <;> rw [hx] at hi <;> cases hi
  rfl

/-- Building a formula leaves the order, also if it fails. -/
theorem secures_compileFormula (s : Setting) (k : Kind) (text : String) :
    Secures Workshop.InOrder Workshop.Has (compileFormula s k text) := by
  intro w hw
  have hsecures := secures_build (w.scope s) s.room w.roots
    (fun f hf => List.mem_map_of_mem hf) k text.toList w.draft hw
  rw [run_compileFormula]
  rcases hrun : (build (w.scope s) s.room k text.toList).run w.draft with ⟨(r | _) | i, d⟩ <;>
    rw [hrun] at hsecures
  · exact ⟨hsecures.1, nofun⟩
  · exact ⟨hsecures.1, nofun⟩
  · refine ⟨hsecures.1, fun j hj => ?_⟩
    cases hj
    exact hsecures.2 i rfl

/-- A node without children may always be made. -/
theorem secures_make {n : Node} (hn : n.children = []) :
    Secures Workshop.InOrder Workshop.Has (make n) := by
  intro w hw
  have hchildren : ∀ j ∈ n.children, j ∈ w.roots := by
    rw [hn]
    exact List.forall_mem_nil _
  have hmade := secures_makeNode hchildren w.draft hw
  refine ⟨hmade.1, fun i hi => ?_⟩
  cases hi
  exact hmade.2 _ rfl

theorem secures_samplerNode (s : Setting) (entries : List (Value × Value)) :
    Secures Workshop.InOrder Workshop.Has (samplerNode s entries) := by
  refine .after (leads_demand _) fun type => ?_
  split
  · exact .after (leads_demandNumber _ _) fun _ => .after (leads_demandNumber _ _) fun _ =>
      secures_make rfl
  · split
    · exact .after (leads_demand _) fun text => secures_compileFormula s .number text
    · exact secures_refuse _

/-! ## 2. Requests -/

/-- An entry leaves the order, whatever comes of it. -/
theorem secures_bindSampler (s : Setting) (entries : List (Value × Value)) :
    Secures Workshop.InOrder Workshop.Has (bindSampler s entries) := by
  refine .after (leads_demand _) fun name => .bind (secures_inField ?_ name) fun root w hw => ?_
  · refine .after (fun w => rfl) fun v => ?_
    split
    · exact secures_refuse _
    · exact secures_samplerNode s entries
  · -- the field that is bound has the node that was made for it
    obtain ⟨hw, hroot⟩ := hw
    have hnodes : ∀ i ∈ w.roots ++ [root], w.draft.Has i :=
      List.forall_mem_append.2 ⟨hw.nodes, List.forall_mem_singleton.2 hroot⟩
    have hroots : (w.fields ++ [(⟨name.toList, root⟩ : Field)]).map (·.root) =
        w.roots ++ [root] := List.map_append
    rw [← hroots] at hnodes
    refine ⟨⟨⟨hw.graph, hnodes⟩, hroot⟩, fun i hi => ?_⟩
    cases hi
    exact hroot

theorem inOrder_bindSamplers (s : Setting) : ∀ samplers : List Value,
    Leads (fun w w' => w.InOrder → w'.InOrder) (bindSamplers s samplers)
  | [] => fun w hw => hw
  | v :: rest => by
    cases v with
    | map entries =>
      have htrans {w₁ w₂ w₃ : Workshop} (h : w₁.InOrder → w₂.InOrder)
          (h' : w₂.InOrder → w₃.InOrder) : w₁.InOrder → w₃.InOrder := h' ∘ h
      exact .bind htrans (fun w hw => (secures_bindSampler s entries w hw).1) fun _ =>
        inOrder_bindSamplers s rest
    | _ => exact fun w hw => hw

/-- **Whatever comes of a request, children come first.** -/
theorem inOrder_serve (hw : w.InOrder) (s : Setting) (r : Request) : (w.serve s r).InOrder := by
  cases r with
  | bind entries => exact (secures_bindSampler s entries w hw).1
  | bindAll samplers => exact inOrder_bindSamplers s samplers w hw
  | build k text => exact (secures_compileFormula s k text w hw).1

/-- **In a run of requests, children come first.** -/
theorem inOrder_runs (s : Setting) : ∀ (rs : List Request) {w : Workshop}, w.InOrder →
    (w.runs s rs).InOrder
  | [], _, hw => hw
  | r :: rs, _, hw => inOrder_runs s rs (inOrder_serve hw s r)

/-! ## 3. Documents -/

theorem secures_compileKey (s : Setting) (k : Kind) (entries : List (Value × Value))
    (key : String) : Secures Workshop.InOrder Workshop.Has (compileKey s k entries key) :=
  .after (leads_demand _) fun text => secures_inField (secures_compileFormula s k text) key

/-- **In the graph of a profile that compiles, children come first.** -/
theorem ordered_of_compile {name : String} {document : Value} {p : Profile}
    {log : List Log.Record} (h : compile s name document = (.ok p, log)) : p.graph.Ordered := by
  obtain ⟨entries, w, rfl, hrun⟩ := compile_ok h
  obtain ⟨samplers, w₁, w₂, w₃, u, -, hsamplers, hdensity, hvoxel, hshape, hp⟩ :=
    run_compileEntries_ok hrun
  have key {k : Kind} {key : String} {root : Nat} {w w' : Workshop}
      (hkey : (compileKey s k entries key).run w = (.ok root, w')) (hw : w.InOrder) :
      w'.InOrder := by
    have hkept := (secures_compileKey s k entries key w hw).1
    rwa [hkey] at hkept
  have h₁ := inOrder_bindSamplers s samplers Workshop.empty Workshop.inOrder_empty
  rw [hsamplers] at h₁
  rw [hp]
  exact (key hshape (key hvoxel (key hdensity h₁))).graph

/-- A workshop that starts with the depth as a field is in order. -/
theorem inOrder_depthWorkshop : depthWorkshop.InOrder :=
  ⟨Graph.ordered_empty.push (n := .signal .depth) (List.forall_mem_nil _),
    List.forall_mem_singleton.2 Nat.one_pos⟩

end Terrain.Profile
