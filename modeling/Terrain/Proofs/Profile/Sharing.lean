import Terrain.Proofs.Formula.Sharing
import Terrain.Proofs.Profile.Order

/-!
# Sharing in a workshop

All that a workshop builds is in one graph. A formula that names a field is built on the field's
node, so a field that is named often, under its own name or another, is there once.

* `Economical`: what every formula of a run shares, and what becomes of the graph.
* `economical_runs`: every run of requests is economical, whatever comes of each of them.
-/

namespace Terrain.Profile

open Terrain.Formula

variable {s : Setting} {w : Workshop}

/-- **What a run of requests makes of the graph**, whatever each of them comes to. -/
structure Economical (s : Setting) (w : Workshop) (rs : List Request) : Prop where
  /-- A formula that is built next makes a node for each formula that is visited and names no
      field, and shares the fields it names. -/
  shares : ∀ room k text root d,
    (build ((w.runs s rs).scope s) room k text).run (w.runs s rs).draft = (.ok root, d) →
      ∃ visits, Shares ((w.runs s rs).scope s) k text (w.runs s rs).draft root d visits
  /-- Every child was made before its parent. -/
  ordered : (w.runs s rs).draft.graph.Ordered
  /-- No chain of children is closed. -/
  acyclic : ∀ i, ∀ j ∈ (w.runs s rs).draft.graph.childrenOf i,
    i ∉ (w.runs s rs).draft.graph.reachable j
  /-- A node that is there stays what it is. -/
  kept : ∀ more i n, (w.runs s rs).draft.graph.node? i = some n →
    (w.runs s (rs ++ more)).draft.graph.node? i = some n

/-- **A run of requests is economical**, from every workshop in which children come first and
    everything below the fields is there. -/
theorem economical_runs (hw : w.Sound) (hg : w.draft.graph.Ordered) (rs : List Request) :
    Economical s w rs := by
  have hsound := (grows_runs s rs w).sound hw
  have hordered := (inOrder_runs s rs (hw.inOrder hg)).graph
  refine ⟨fun room k text root d h => ?_, hordered, fun i j hj => hordered.not_mem_reachable hj,
    fun more i n hn => ?_⟩
  · exact (built_of_run h).exists_shares hsound.whole
  · rw [runs_append]
    exact (grows_runs s more (w.runs s rs)).graph.node?_of_some hn

/-- Requests that bind a field under a second name, and one that fails when nodes are made. -/
def aliasRequests : List Request :=
  [.bind (formulaEntry "deep" "low"), .bind (formulaEntry "wet" "Add(deep, Moisture)"),
    .bind (formulaEntry "dry" "Subtract(Add(wet, low), dry)")]

theorem economical_runs_alias : depthWorkshop.Sound ∧ depthWorkshop.draft.graph.Ordered ∧
    (depthWorkshop.runs plainSetting aliasRequests).fields =
      [⟨"low".toList, 0⟩, ⟨"deep".toList, 0⟩, ⟨"wet".toList, 2⟩] ∧
    Economical plainSetting depthWorkshop aliasRequests := by
  have hsound : depthWorkshop.Sound := by
    refine ⟨List.nodup_singleton _, List.forall_mem_singleton.2 ?_⟩
    exact .node (n := .signal .depth) rfl (List.forall_mem_nil _)
  have hordered := inOrder_depthWorkshop.graph
  exact ⟨hsound, hordered, by decide +kernel, economical_runs hsound hordered aliasRequests⟩

end Terrain.Profile
