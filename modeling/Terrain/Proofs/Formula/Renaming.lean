import Mathlib.Logic.Function.Basic
import Terrain.Proofs.Formula.Growth

/-!
# Graphs whose nodes have other numbers

What is reachable from a node depends on children alone, and what a formula is does not depend on
the numbers of its nodes. So if one graph holds the nodes of another under other numbers, the same
nodes are reachable there, in the same order.

* `Graph.Fits f g h`: the children of the node `f i` of `h` are those of the node `i` of `g`.
* `Graph.Fits.reachable_eq`: what is reachable is renamed.
* `Graph.Renames f g h`: the node `f i` of `h` is the node `i` of `g`, with its children renamed.
* `Graph.Renames.table_eq`: a tree is the same under other numbers, what it shares included.
* `SameTree`: two nodes are the same tree, with the same nodes of those that were there before.
-/

namespace Terrain.Formula

variable {f : Nat → Nat} {g h : Graph}

/-! ## 1. Nodes -/

theorem Node.rename_rename (f f' : Nat → Nat) (n : Node) :
    (n.rename f).rename f' = n.rename (f' ∘ f) := by
  cases n <;> rfl

@[simp] theorem Node.rename_id (n : Node) : n.rename id = n := by
  cases n <;> rfl

/-- Only the numbers of the children matter. -/
theorem Node.rename_congr {f f' : Nat → Nat} {n : Node} (h : ∀ i ∈ n.children, f i = f' i) :
    n.rename f = n.rename f' := by
  cases n <;> simp_all [Node.rename, Node.children]

/-! ## 2. Graphs that fit -/

/-- One graph fits another: no two nodes of the one are one node of the other, what is a node of the
    one is a node of the other, and children are renamed with their parents. -/
structure Graph.Fits (f : Nat → Nat) (g h : Graph) : Prop where
  injective : Function.Injective f
  lt_size_iff : ∀ i, f i < h.size ↔ i < g.size
  childrenOf : ∀ i, h.childrenOf (f i) = (g.childrenOf i).map f

namespace Graph.Fits

theorem mem_map_iff (hm : Fits f g h) {i : Nat} {l : List Nat} : f i ∈ l.map f ↔ i ∈ l :=
  List.mem_map_of_injective hm.injective

/-- What lies below renamed nodes is listed alike. -/
theorem listFrom_eq (hm : Fits f g h) (listed stack : List Nat) :
    h.listFrom (listed.map f) (stack.map f) = (g.listFrom listed stack).map f := by
  fun_induction g.listFrom listed stack with
  | case1 listed => rw [List.map_nil, Graph.listFrom]
  | case2 listed i rest hnew ih =>
    have hnew' : f i ∉ listed.map f ∧ f i < h.size := by
      rwa [hm.mem_map_iff, hm.lt_size_iff]
    rw [List.map_cons, Graph.listFrom, dif_pos hnew', hm.childrenOf, ← ih]
    simp only [List.map_append, List.map_reverse, List.map_cons, List.map_nil]
  | case3 listed i rest hold ih =>
    have hold' : ¬ (f i ∉ listed.map f ∧ f i < h.size) := by
      rwa [hm.mem_map_iff, hm.lt_size_iff]
    rw [List.map_cons, Graph.listFrom, dif_neg hold', ih]

/-- **The same nodes are reachable, in the same order.** -/
theorem reachable_eq (hm : Fits f g h) (i : Nat) :
    h.reachable (f i) = (g.reachable i).map f :=
  hm.listFrom_eq [] [i]

/-- Renamed nodes stand at the places that they stood at. -/
theorem idxOf_map (hm : Fits f g h) (l : List Nat) (i : Nat) :
    (l.map f).idxOf (f i) = l.idxOf i := by
  induction l with
  | nil => rfl
  | cons j l ih =>
    simp only [List.map_cons, List.idxOf_cons, beq_eq_decide, hm.injective.eq_iff, ih]

end Graph.Fits

/-! ## 3. Graphs that hold the same nodes -/

/-- The nodes of a graph are those of another, under other numbers. -/
structure Graph.Renames (f : Nat → Nat) (g h : Graph) : Prop where
  injective : Function.Injective f
  node? : ∀ i, h.node? (f i) = (g.node? i).map (Node.rename f)

theorem Graph.node?_eq_none_iff {i : Nat} : g.node? i = none ↔ g.size ≤ i := by
  unfold Graph.node? Graph.size
  exact Array.getElem?_eq_none_iff

namespace Graph.Renames

theorem fits (hr : Renames f g h) : Fits f g h where
  injective := hr.injective
  lt_size_iff i := by
    rw [← Nat.not_le, ← Nat.not_le, ← Graph.node?_eq_none_iff, ← Graph.node?_eq_none_iff, hr.node?,
      Option.map_eq_none_iff]
  childrenOf i := by
    unfold Graph.childrenOf
    rw [hr.node?]
    cases g.node? i with
    | none => rfl
    | some n => exact Node.children_rename f n

/-- **A tree is the same under other numbers**, with what it shares. -/
theorem table_eq (hr : Renames f g h) (i : Nat) : h.table (f i) = g.table i := by
  unfold Graph.table
  rw [hr.fits.reachable_eq]
  dsimp only
  rw [List.filterMap_map]
  refine List.filterMap_congr fun j _ => ?_
  rw [Function.comp_apply, hr.node?, Option.map_map]
  refine congrArg (Option.map · (g.node? j)) (funext fun n => ?_)
  rw [Function.comp_apply, Node.rename_rename]
  exact Node.rename_congr fun m _ => hr.fits.idxOf_map (g.reachable i) m

end Graph.Renames

/-! ## 4. Trees that share nodes -/

/-- Two nodes are the same tree: a renaming takes what is reachable from the one, in order, to what
    is reachable from the other, and leaves alone the nodes that were there before, which have the
    numbers below `old`. The two trees are equal, with what they share. -/
structure SameTree (old : Nat) (g : Graph) (i : Nat) (h : Graph) (j : Nat) : Prop where
  renamed : ∃ f : Nat → Nat, Function.Injective f ∧ (∀ m < old, f m = m) ∧ f i = j ∧
    h.reachable j = (g.reachable i).map f ∧
    ∀ m ∈ g.reachable i, h.node? (f m) = (g.node? m).map (Node.rename f)
  table : h.table j = g.table i

theorem Graph.Renames.sameTree {old : Nat} (hr : Graph.Renames f g h)
    (hold : ∀ m < old, f m = m) (i : Nat) : SameTree old g i h (f i) where
  renamed := ⟨f, hr.injective, hold, rfl, hr.fits.reachable_eq i, fun m _ => hr.node? m⟩
  table := hr.table_eq i

end Terrain.Formula
