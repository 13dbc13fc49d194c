import Mathlib.Data.List.Nodup
import Terrain.Proofs.Formula.Growth

/-!
# What is reachable from a node

A node lies below another if a chain of children leads to it. The nodes are listed by working off a
stack, on which a node may stand several times; what is listed is listed once.

* `Graph.Below g i j`: the node `j` is `i`, or lies below it.
* `mem_reachable_iff`, `nodup_reachable`: the nodes reachable from a node are those below it, each
  listed once.
-/

namespace Terrain.Formula

variable {g h : Graph} {i j m : Nat}

/-! ## 1. Chains of children -/

/-- A node is another, or a chain of children leads to it from there. -/
inductive Graph.Below (g : Graph) (i : Nat) : Nat → Prop
  | self (hi : i < g.size) : g.Below i i
  | child {j m : Nat} (above : g.Below i j) (hm : m ∈ g.childrenOf j) (hsize : m < g.size) :
      g.Below i m

namespace Graph.Below

theorem lt_size (hj : g.Below i j) : j < g.size := by
  cases hj with
  | self hi => exact hi
  | child _ _ hsize => exact hsize

theorem start_lt_size (hj : g.Below i j) : i < g.size := by
  induction hj with
  | self hi => exact hi
  | child _ _ _ ih => exact ih

theorem trans (hj : g.Below i j) (hm : g.Below j m) : g.Below i m := by
  induction hm with
  | self _ => exact hj
  | child _ hm hsize ih => exact .child ih hm hsize

theorem grow (hgh : g.Starts h) (hj : g.Below i j) : h.Below i j := by
  induction hj with
  | self hi => exact .self (Nat.lt_of_lt_of_le hi hgh.size_le)
  | child above hm hsize ih =>
    rw [← hgh.childrenOf_eq above.lt_size] at hm
    exact .child ih hm (Nat.lt_of_lt_of_le hsize hgh.size_le)

/-- What lies below a child of a node that is added lies below that node. -/
theorem push {n : Node} (hj : g.Below j m) (hchild : j ∈ n.children) :
    (g.push n).Below g.size m := by
  have hsize : (g.push n).size = g.size + 1 := Graph.size_push g n
  have hchildren : j ∈ (g.push n).childrenOf g.size := by
    unfold Graph.childrenOf
    rw [Graph.node?_push_size]
    exact hchild
  have hstart := hj.start_lt_size
  have hbelow : (g.push n).Below g.size j := .child (.self (by omega)) hchildren (by omega)
  exact hbelow.trans (hj.grow (.push g n))

end Graph.Below

/-! ## 2. Working off the stack -/

/-- What is listed, and what stands on the stack, is listed at the end. -/
theorem Graph.mem_listFrom {listed stack : List Nat} :
    ∀ j, j ∈ listed ∨ (j ∈ stack ∧ j < g.size) → j ∈ g.listFrom listed stack := by
  fun_induction g.listFrom listed stack with
  | case1 listed =>
    intro j hj
    rcases hj with hj | ⟨hj, -⟩
    · exact hj
    · cases hj
  | case2 listed i rest hnew ih =>
    intro j hj
    refine ih j ?_
    rcases hj with hj | ⟨hj, hsize⟩
    · exact .inl (List.mem_append_left _ hj)
    · rcases List.mem_cons.1 hj with rfl | hj
      · exact .inl (List.mem_append_right _ (List.mem_singleton.2 rfl))
      · exact .inr ⟨List.mem_append_right _ hj, hsize⟩
  | case3 listed i rest hold ih =>
    intro j hj
    refine ih j ?_
    rcases hj with hj | ⟨hj, hsize⟩
    · exact .inl hj
    · rcases List.mem_cons.1 hj with rfl | hj
      · exact .inl (Decidable.not_not.1 fun hnot => hold ⟨hnot, hsize⟩)
      · exact .inr ⟨hj, hsize⟩

/-- The children of what is listed are listed at the end, if they are listed or on the stack. -/
theorem Graph.childrenOf_listFrom {listed stack : List Nat}
    (hlisted : ∀ i ∈ listed, ∀ m ∈ g.childrenOf i, m < g.size → m ∈ listed ∨ m ∈ stack) :
    ∀ i ∈ g.listFrom listed stack, ∀ m ∈ g.childrenOf i, m < g.size →
      m ∈ g.listFrom listed stack := by
  fun_induction g.listFrom listed stack with
  | case1 listed =>
    intro i hi m hm hsize
    exact (hlisted i hi m hm hsize).resolve_right List.not_mem_nil
  | case2 listed i rest hnew ih =>
    refine ih fun j hj m hm hsize => ?_
    rcases List.mem_append.1 hj with hj | hj
    · rcases hlisted j hj m hm hsize with hm | hm
      · exact .inl (List.mem_append_left _ hm)
      · rcases List.mem_cons.1 hm with rfl | hm
        · exact .inl (List.mem_append_right _ (List.mem_singleton.2 rfl))
        · exact .inr (List.mem_append_right _ hm)
    · obtain rfl := List.mem_singleton.1 hj
      exact .inr (List.mem_append_left _ (List.mem_reverse.2 hm))
  | case3 listed i rest hold ih =>
    refine ih fun j hj m hm hsize => ?_
    rcases hlisted j hj m hm hsize with hm | hm
    · exact .inl hm
    · rcases List.mem_cons.1 hm with rfl | hm
      · exact .inl (Decidable.not_not.1 fun hnot => hold ⟨hnot, hsize⟩)
      · exact .inr hm

/-- Nothing is listed but what was listed and what lies below the stack. -/
theorem Graph.below_of_mem_listFrom {listed stack : List Nat} :
    ∀ j ∈ g.listFrom listed stack, j ∈ listed ∨ ∃ i ∈ stack, g.Below i j := by
  fun_induction g.listFrom listed stack with
  | case1 listed => exact fun j hj => .inl hj
  | case2 listed i rest hnew ih =>
    have hi : g.Below i i := .self hnew.2
    intro j hj
    rcases ih j hj with hj | ⟨m, hm, hbelow⟩
    · rcases List.mem_append.1 hj with hj | hj
      · exact .inl hj
      · obtain rfl := List.mem_singleton.1 hj
        exact .inr ⟨j, List.mem_cons_self, hi⟩
    · rcases List.mem_append.1 hm with hm | hm
      · -- the node on the stack is a child of the one that was taken from it
        have hchild : g.Below i m := .child hi (List.mem_reverse.1 hm) hbelow.start_lt_size
        exact .inr ⟨i, List.mem_cons_self, hchild.trans hbelow⟩
      · exact .inr ⟨m, List.mem_cons_of_mem _ hm, hbelow⟩
  | case3 listed i rest hold ih =>
    intro j hj
    rcases ih j hj with hj | ⟨m, hm, hbelow⟩
    · exact .inl hj
    · exact .inr ⟨m, List.mem_cons_of_mem _ hm, hbelow⟩

/-- **What is reachable from a node is what lies below it.** -/
theorem Graph.mem_reachable_iff : j ∈ g.reachable i ↔ g.Below i j := by
  unfold Graph.reachable
  constructor
  · intro hj
    rcases Graph.below_of_mem_listFrom j hj with hj | ⟨m, hm, hbelow⟩
    · cases hj
    · rwa [List.mem_singleton.1 hm] at hbelow
  · intro hj
    induction hj with
    | self hi => exact Graph.mem_listFrom i (.inr ⟨List.mem_singleton.2 rfl, hi⟩)
    | child above hm hsize ih =>
      exact Graph.childrenOf_listFrom (fun i hi => by cases hi) _ ih _ hm hsize

/-- Where children come first, nothing below a node was made after it. -/
theorem Graph.Ordered.le_of_below (hg : g.Ordered) (hj : g.Below i j) : j ≤ i := by
  induction hj with
  | self _ => exact Nat.le_refl _
  | @child j m above hm _ ih =>
    unfold Graph.childrenOf at hm
    split at hm
    · rename_i n hn
      exact Nat.le_trans (Nat.le_of_lt (hg j n hn m hm)) ih
    · cases hm

/-- **Where children come first, no chain of children is closed.** -/
theorem Graph.Ordered.not_mem_reachable (hg : g.Ordered) (hj : j ∈ g.childrenOf i) :
    i ∉ g.reachable j := by
  intro hi
  have hle := hg.le_of_below (Graph.mem_reachable_iff.1 hi)
  unfold Graph.childrenOf at hj
  split at hj
  · rename_i n hn
    exact Nat.not_lt.2 hle (hg i n hn j hj)
  · cases hj

/-- Nothing is listed twice. -/
theorem Graph.nodup_listFrom {listed stack : List Nat} (hlisted : listed.Nodup) :
    (g.listFrom listed stack).Nodup := by
  fun_induction g.listFrom listed stack with
  | case1 listed => exact hlisted
  | case2 listed i rest hnew ih =>
    refine ih (hlisted.append (List.nodup_singleton i) ?_)
    exact List.disjoint_singleton.2 hnew.1
  | case3 listed i rest hold ih => exact ih hlisted

/-- **Every node that is reachable is listed once.** -/
theorem Graph.nodup_reachable (g : Graph) (i : Nat) : (g.reachable i).Nodup :=
  Graph.nodup_listFrom List.nodup_nil

end Terrain.Formula
