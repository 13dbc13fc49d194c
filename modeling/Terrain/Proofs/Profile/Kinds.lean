import Terrain.Proofs.Formula.Kinds
import Terrain.Proofs.Profile.Order

/-!
# The kinds of a workshop

Every field is a number, and a formula that names a field is built on the field's own node. So what
a workshop builds is of the kind it was asked for, down to the last node of the last field.

* `Workshop.Regular`: children come first, and every field answers numbers.
* `regular_runs`: whatever comes of the requests, that stays so.
* `built_safe`: what is built after a run of requests never gets stuck.
-/

namespace Terrain.Profile

open Terrain.Formula

variable {s : Setting} {w w' : Workshop} {entries : List (Value × Value)} {root : Nat}

/-! ## 1. Fields are numbers -/

/-- Every field answers numbers. -/
def Workshop.Numeric (w : Workshop) : Prop := ∀ f ∈ w.fields, w.draft.graph.HasKind f.root .number

theorem Workshop.Keeps.numeric (h : w.Keeps w') (hw : w.Numeric) : w'.Numeric := by
  intro f hf
  rw [h.fields] at hf
  exact (hw f hf).grow h.graph

/-- An entry that is bound makes a number of the fields before it. -/
theorem numeric_bindSampler (hw : w.Numeric)
    (h : (bindSampler s entries).run w = (.ok root, w')) : w'.Numeric := by
  obtain ⟨name, w₁, -, -, hnode, hfields, hgraph⟩ := run_bindSampler_ok h
  obtain ⟨hkept, hadded⟩ := run_samplerNode_ok hnode
  have hkeeps := keeps_samplerNode s entries w
  rw [hnode] at hkeeps
  intro f hf
  rw [hgraph]
  rw [hfields] at hf
  rcases List.mem_append.1 hf with hf | hf
  · exact hkeeps.numeric hw f hf
  · obtain rfl := List.mem_singleton.1 hf
    rcases hadded with ⟨-, wavelength, amplitude, rfl, hdraft⟩ | ⟨-, text, -, hbuilt⟩
    · rw [hdraft]
      exact .node (Graph.node?_push_size _ _) rfl (List.forall_mem_nil _)
    · exact hbuilt.hasKind hw

theorem BindsAll.numeric {all : List (List (Value × Value))} (h : BindsAll s w all w')
    (hw : w.Numeric) : w'.Numeric := by
  induction h with
  | nil w => exact hw
  | cons first _ ih => exact ih (numeric_bindSampler hw first)

/-- Whatever comes of a request, the fields are numbers. -/
theorem numeric_serve (hw : w.Numeric) (s : Setting) (r : Request) : (w.serve s r).Numeric := by
  obtain ⟨all, w₁, hall, hkeeps, -⟩ := exists_bindsAll s w r
  exact hkeeps.numeric (hall.numeric hw)

/-! ## 2. Formulas of a kind -/

/-- Children come first, and every field answers numbers. -/
structure Workshop.Regular (w : Workshop) : Prop where
  inOrder : w.InOrder
  numeric : w.Numeric

theorem Workshop.regular_empty : Workshop.empty.Regular :=
  ⟨Workshop.inOrder_empty, List.forall_mem_nil _⟩

/-- **A run of requests leaves a workshop regular**, whatever comes of each of them. -/
theorem regular_runs (s : Setting) : ∀ (rs : List Request) {w : Workshop}, w.Regular →
    (w.runs s rs).Regular
  | [], _, hw => hw
  | r :: rs, _, hw =>
    regular_runs s rs ⟨inOrder_serve hw.inOrder s r, numeric_serve hw.numeric s r⟩

/-- **What is built as a formula of a kind never gets stuck**, with the fields of any run of
    requests in scope. It answers a result of the kind wherever noise is not refused and the calls
    that this takes may be open. -/
theorem built_safe (hw : w.Regular) (rs : List Request) {room : Nat} {k : Kind} {text : Text}
    {d : Draft} (h : (build ((w.runs s rs).scope s) room k text).run (w.runs s rs).draft =
      (.ok root, d)) : d.graph.Safe root k :=
  ((built_of_run h).hasKind (regular_runs s rs hw).numeric).safe

/-- A workshop that starts with the depth as a field is regular. -/
theorem regular_depthWorkshop : depthWorkshop.Regular := by
  have hkind : depthWorkshop.draft.graph.HasKind 0 .number :=
    .node (n := .signal .depth) rfl rfl (List.forall_mem_nil _)
  exact ⟨inOrder_depthWorkshop, List.forall_mem_singleton.2 hkind⟩

/-- The building of a formula that names two fields, one of which is part of the other. -/
def nestedBuilding : Except Stop Nat × Draft :=
  (build ((depthWorkshop.runs plainSetting mixedRequests).scope plainSetting) nestingLimit .number
    "If(Less(low wet, wet), wet, Subtract(Depth, low))".toList).run
    (depthWorkshop.runs plainSetting mixedRequests).draft

theorem built_safe_nested : depthWorkshop.Regular ∧
    ∃ d, nestedBuilding = (.ok 7, d) ∧ d.graph.Safe 7 .number := by
  have hrun : nestedBuilding.1 = .ok 7 := by decide +kernel
  rcases hbuilding : nestedBuilding with ⟨r, d⟩
  rw [hbuilding] at hrun
  cases hrun
  exact ⟨regular_depthWorkshop, d, rfl, built_safe regular_depthWorkshop mixedRequests hbuilding⟩

end Terrain.Profile
