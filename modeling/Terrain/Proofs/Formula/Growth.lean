import Mathlib.Data.List.Basic
import Terrain.Formula.Evaluate

/-!
# Graphs that grow

Building only adds nodes at the end of a graph. What a node answers depends on the nodes below it
alone, so it is the same in every graph that grew out of the one the node was made in.

* `Graph.Starts g h`: the nodes of `g` are the first nodes of `h`.
* `evaluateIn_of_starts`: a node of `g` answers in `h` what it answers in `g`, if all below it is
  there.
* `Graph.Starts.table_eq`: what lies below a node of `g` is in `h` what it is in `g`, if all of it
  is there.
* `Graph.Ordered.push`: a graph stays ordered if the children of a new node are there before it.
-/

namespace Terrain.Formula

variable {g h : Graph} {i : Nat}

/-! ## 1. The order of growth -/

/-- One graph is the start of another. -/
def Graph.Starts (g h : Graph) : Prop := g.nodes.toList <+: h.nodes.toList

namespace Graph.Starts

theorem refl (g : Graph) : g.Starts g := List.prefix_rfl

theorem trans {k : Graph} (hgh : g.Starts h) (hhk : h.Starts k) : g.Starts k :=
  List.IsPrefix.trans hgh hhk

theorem push (g : Graph) (n : Node) : g.Starts (g.push n) := by
  unfold Graph.Starts Graph.push
  rw [Array.toList_push]
  exact List.prefix_append _ _

theorem size_le (hgh : g.Starts h) : g.size ≤ h.size := hgh.length_le

/-- The nodes that were there are there unchanged. -/
theorem node?_eq (hgh : g.Starts h) (hi : i < g.size) : h.node? i = g.node? i := by
  obtain ⟨t, ht⟩ := hgh
  have hi' : i < g.nodes.toList.length := hi
  unfold Graph.node?
  rw [← Array.getElem?_toList, ← Array.getElem?_toList, ← ht, List.getElem?_append_left hi']

/-- A node that is found is found in every graph that grew out of the graph. -/
theorem node?_of_some (hgh : g.Starts h) {n : Node} (hn : g.node? i = some n) :
    h.node? i = some n := by
  rw [hgh.node?_eq (Graph.lt_size_of_node? hn), hn]

end Graph.Starts

/-! ## 2. Whole trees -/

/-- Everything below a node is in the graph. -/
inductive Graph.Whole (g : Graph) : Nat → Prop
  | node {i : Nat} {n : Node} (hn : g.node? i = some n) (below : ∀ j ∈ n.children, g.Whole j) :
      g.Whole i

namespace Graph.Whole

theorem grow (hgh : g.Starts h) (hi : g.Whole i) : h.Whole i := by
  induction hi with
  | node hn _ ih => exact .node (hgh.node?_of_some hn) ih

theorem lt_size (hi : g.Whole i) : i < g.size := by
  cases hi with
  | node hn _ => exact lt_size_of_node? hn

theorem childrenOf (hi : g.Whole i) : ∀ j ∈ g.childrenOf i, g.Whole j := by
  cases hi with
  | node hn below =>
    unfold Graph.childrenOf
    rw [hn]
    exact below

end Graph.Whole

/-! ## 3. Answers stay -/

/-- **A node answers in a grown graph what it answered before**, with any room. -/
theorem Graph.evaluateIn_of_starts (s : Calls) (noise : Noise) (c : Context) (hgh : g.Starts h)
    (hi : g.Whole i) : ∀ room, h.evaluateIn s noise c room i = g.evaluateIn s noise c room i := by
  induction hi with
  | @node i n hn _ ih =>
    intro room
    cases room with
    | zero => rw [evaluateIn, evaluateIn]
    | succ room =>
      rw [evaluateIn, evaluateIn, hgh.node?_of_some hn, hn]
      cases n with
      | add l r | subtract l r | less l r =>
        dsimp only
        rw [ih l (by simp [Node.children]), ih r (by simp [Node.children])]
      | choose p t e =>
        dsimp only
        rw [ih p (by simp [Node.children]), ih t (by simp [Node.children]),
          ih e (by simp [Node.children])]
      | _ => rfl

/-! ## 4. Trees stay -/

namespace Graph.Starts

theorem childrenOf_eq (hgh : g.Starts h) (hi : i < g.size) : h.childrenOf i = g.childrenOf i := by
  unfold Graph.childrenOf
  rw [hgh.node?_eq hi]

/-- What lies below whole nodes is listed alike. -/
theorem listFrom_eq (hgh : g.Starts h) {listed stack : List Nat}
    (hstack : ∀ i ∈ stack, g.Whole i) : h.listFrom listed stack = g.listFrom listed stack := by
  fun_induction g.listFrom listed stack with
  | case1 listed => rw [Graph.listFrom]
  | case2 listed i rest hnew ih =>
    obtain ⟨hi, hrest⟩ := List.forall_mem_cons.1 hstack
    have hnew' : i ∉ listed ∧ i < h.size := ⟨hnew.1, Nat.lt_of_lt_of_le hnew.2 hgh.size_le⟩
    rw [Graph.listFrom, dif_pos hnew', hgh.childrenOf_eq hnew.2]
    refine ih fun j hj => ?_
    rcases List.mem_append.1 hj with hj | hj
    · exact hi.childrenOf j (List.mem_reverse.1 hj)
    · exact hrest j hj
  | case3 listed i rest hold ih =>
    obtain ⟨hi, hrest⟩ := List.forall_mem_cons.1 hstack
    have hold' : ¬ (i ∉ listed ∧ i < h.size) := fun hnew => hold ⟨hnew.1, hi.lt_size⟩
    rw [Graph.listFrom, dif_neg hold']
    exact ih hrest

/-- The same nodes are reachable from a whole node, in the same order. -/
theorem reachable_eq (hgh : g.Starts h) (hi : g.Whole i) : h.reachable i = g.reachable i :=
  hgh.listFrom_eq fun _ hj => List.mem_singleton.1 hj ▸ hi

end Graph.Starts

/-- Only nodes of the graph are listed. -/
theorem Graph.lt_size_of_mem_listFrom {listed stack : List Nat}
    (hlisted : ∀ i ∈ listed, i < g.size) : ∀ i ∈ g.listFrom listed stack, i < g.size := by
  fun_induction g.listFrom listed stack with
  | case1 listed => exact hlisted
  | case2 listed i rest hnew ih =>
    refine ih fun j hj => ?_
    rcases List.mem_append.1 hj with hj | hj
    · exact hlisted j hj
    · rw [List.mem_singleton.1 hj]
      exact hnew.2
  | case3 listed i rest hold ih => exact ih hlisted

/-- **A whole tree is in a grown graph what it was before.** -/
theorem Graph.Starts.table_eq (hgh : g.Starts h) (hi : g.Whole i) : h.table i = g.table i := by
  unfold Graph.table
  rw [hgh.reachable_eq hi]
  dsimp only
  refine List.filterMap_congr fun j hj => ?_
  rw [hgh.node?_eq (Graph.lt_size_of_mem_listFrom (List.forall_mem_nil _) j hj)]

/-! ## 5. Order -/

/-- Every child was made before its parent. -/
def Graph.Ordered (g : Graph) : Prop := ∀ i n, g.node? i = some n → ∀ j ∈ n.children, j < i

theorem Graph.ordered_empty : Graph.empty.Ordered := by
  intro i n hn
  exact absurd (Graph.lt_size_of_node? hn) (Nat.not_lt_zero i)

theorem Graph.Ordered.push (hg : g.Ordered) {n : Node} (hn : ∀ j ∈ n.children, j < g.size) :
    (g.push n).Ordered := by
  intro i m hm
  have hi := Graph.lt_size_of_node? hm
  rw [Graph.size_push] at hi
  by_cases hnew : i = g.size
  · subst hnew
    rw [Graph.node?_push_size] at hm
    cases hm
    exact hn
  · rw [Graph.node?_push_of_lt (by omega)] at hm
    exact hg i m hm

end Terrain.Formula
