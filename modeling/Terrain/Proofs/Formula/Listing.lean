import Mathlib.Data.Set.Card
import Terrain.Proofs.Formula.Reaching

/-!
# The loop that lists what is reachable

What is reachable from a node is listed in a loop over a stack. A turn takes the top off the stack;
if it is not listed yet it is listed, and its children go on the stack, where each of them may stand
already. So a node may be taken off many times, and is listed the first time.

* `Graph.turn?` is one turn, `Graph.Turns` a number of them.
* `exists_turns`: the loop ends, and takes a turn for what is on the stack and one for each child of
  what is listed.
* `Listing.ParentsFirst`: every node that is listed stands after one of its parents, unless it is
  the root. `ParentsFirst.turn` is one turn, `ParentsFirst.turns` a run.
* `enumerates_reachable`: all that is true of the list of what is reachable from a node.
* `encard_below`: what is reachable from several nodes is counted once.
-/

namespace Terrain.Formula

variable {g : Graph} {root i j n : Nat} {nodes : List Nat}

/-! ## 1. Turns -/

/-- A listing in progress: the nodes that are listed, and the stack with its top first. -/
structure Listing where
  listed : List Nat
  stack : List Nat

/-- One turn of the loop. There is none if the stack is empty. -/
def Graph.turn? (g : Graph) (l : Listing) : Option Listing :=
  match l.stack with
  | [] => none
  | i :: rest =>
    if i ∉ l.listed ∧ i < g.size then
      some ⟨l.listed ++ [i], (g.childrenOf i).reverse ++ rest⟩
    else some ⟨l.listed, rest⟩

/-- A number of turns, one after the other. -/
inductive Graph.Turns (g : Graph) : Nat → Listing → Listing → Prop
  | none (l : Listing) : g.Turns 0 l l
  | next {n : Nat} {l l' last : Listing} (first : g.turn? l = some l') (rest : g.Turns n l' last) :
      g.Turns (n + 1) l last

/-- **What a turn does**: the top of the stack is listed and its children go on the stack, or it is
    only taken off, being listed already or no node. -/
theorem Graph.turn?_cases {l l' : Listing} (h : g.turn? l = some l') :
    ∃ i rest, l.stack = i :: rest ∧
      ((i ∉ l.listed ∧ i < g.size ∧
          l' = ⟨l.listed ++ [i], (g.childrenOf i).reverse ++ rest⟩) ∨
        (¬ (i ∉ l.listed ∧ i < g.size) ∧ l' = ⟨l.listed, rest⟩)) := by
  unfold Graph.turn? at h
  split at h
  · cases h
  · rename_i i rest hstack
    refine ⟨i, rest, hstack, ?_⟩
    split at h
    · rename_i hnew
      exact .inl ⟨hnew.1, hnew.2, (Option.some.inj h).symm⟩
    · rename_i hold
      exact .inr ⟨hold, (Option.some.inj h).symm⟩

/-- How many children nodes have, each counted for each of its parents. -/
def Graph.childCount (g : Graph) (nodes : List Nat) : Nat :=
  (nodes.map fun i => (g.childrenOf i).length).sum

/-- **The loop ends**, after a turn for each node on the stack and one for each child of a node that
    is listed in it. -/
theorem Graph.exists_turns (g : Graph) (listed stack : List Nat) :
    ∃ nodes, g.listFrom listed stack = listed ++ nodes ∧
      g.Turns (stack.length + g.childCount nodes) ⟨listed, stack⟩ ⟨listed ++ nodes, []⟩ := by
  fun_induction g.listFrom listed stack with
  | case1 listed =>
    refine ⟨[], (List.append_nil _).symm, ?_⟩
    rw [List.append_nil]
    exact .none _
  | case2 listed i rest hnew ih =>
    -- the turn that lists a node puts its children on the stack, and each has a turn to come
    obtain ⟨nodes, hlist, hturns⟩ := ih
    have hturn : g.turn? ⟨listed, i :: rest⟩ =
        some ⟨listed ++ [i], (g.childrenOf i).reverse ++ rest⟩ := if_pos hnew
    have hcount : (i :: rest).length + g.childCount (i :: nodes) =
        ((g.childrenOf i).reverse ++ rest).length + g.childCount nodes + 1 := by
      simp only [Graph.childCount, List.map_cons, List.sum_cons, List.length_cons,
        List.length_append, List.length_reverse]
      omega
    have happend : listed ++ i :: nodes = (listed ++ [i]) ++ nodes := by simp
    refine ⟨i :: nodes, by rw [hlist, happend], ?_⟩
    rw [hcount, happend]
    exact .next hturn hturns
  | case3 listed i rest hold ih =>
    obtain ⟨nodes, hlist, hturns⟩ := ih
    have hturn : g.turn? ⟨listed, i :: rest⟩ = some ⟨listed, rest⟩ := if_neg hold
    have hcount : (i :: rest).length + g.childCount nodes =
        rest.length + g.childCount nodes + 1 := by
      simp only [List.length_cons]
      omega
    refine ⟨nodes, hlist, ?_⟩
    rw [hcount]
    exact .next hturn hturns

/-- **The loop that starts at a node ends with what is reachable from it.** -/
theorem Graph.turns_reachable (g : Graph) (root : Nat) :
    g.Turns (1 + g.childCount (g.reachable root)) ⟨[], [root]⟩ ⟨g.reachable root, []⟩ := by
  obtain ⟨nodes, hlist, hturns⟩ := g.exists_turns [] [root]
  have hnodes : g.reachable root = nodes := hlist
  rw [hnodes]
  exact hturns

/-! ## 2. Parents first -/

/-- A node may follow a list: it is the root, or a child of a node of the list. -/
def Graph.MayFollow (g : Graph) (root : Nat) (nodes : List Nat) (j : Nat) : Prop :=
  j = root ∨ ∃ i ∈ nodes, j ∈ g.childrenOf i

/-- What may follow a list may follow a longer list. -/
theorem Graph.MayFollow.append (h : g.MayFollow root nodes j) (more : List Nat) :
    g.MayFollow root (nodes ++ more) j := by
  rcases h with hroot | ⟨i, hi, hj⟩
  · exact .inl hroot
  · exact .inr ⟨i, List.mem_append_left more hi, hj⟩

/-- Every node of a list may follow those before it. -/
def Graph.ParentsFirst (g : Graph) (root : Nat) (nodes : List Nat) : Prop :=
  ∀ before j after, nodes = before ++ j :: after → g.MayFollow root before j

/-- A node that may follow is listed next. -/
theorem Graph.ParentsFirst.append_singleton (h : g.ParentsFirst root nodes)
    (hi : g.MayFollow root nodes i) : g.ParentsFirst root (nodes ++ [i]) := by
  intro before j after hsplit
  rcases List.eq_nil_or_concat after with rfl | ⟨after, last, rfl⟩
  · obtain ⟨rfl, hlast⟩ := List.append_inj' hsplit rfl
    obtain rfl := List.singleton_inj.1 hlast
    exact hi
  · rw [List.concat_eq_append, ← List.cons_append, ← List.append_assoc] at hsplit
    exact h before j after (List.append_inj' hsplit rfl).1

/-- **What every turn keeps**: parents are listed first, and all that is on the stack may follow. -/
structure Listing.ParentsFirst (g : Graph) (root : Nat) (l : Listing) : Prop where
  listed : g.ParentsFirst root l.listed
  stack : ∀ j ∈ l.stack, g.MayFollow root l.listed j

namespace Listing.ParentsFirst

variable {l l' : Listing}

theorem start (g : Graph) (root : Nat) : ParentsFirst g root ⟨[], [root]⟩ where
  listed before j after h := by simp at h
  stack j hj := .inl (List.mem_singleton.1 hj)

/-- **A turn keeps parents first.** -/
theorem turn (h : l.ParentsFirst g root) (hturn : g.turn? l = some l') :
    l'.ParentsFirst g root := by
  obtain ⟨i, rest, hstack, ⟨-, -, rfl⟩ | ⟨-, rfl⟩⟩ := Graph.turn?_cases hturn
  · have htop : g.MayFollow root l.listed i := h.stack i (by rw [hstack]; exact List.mem_cons_self)
    refine ⟨h.listed.append_singleton htop, fun j hj => ?_⟩
    rcases List.mem_append.1 hj with hj | hj
    · -- a child of the node that is listed in this turn
      exact .inr ⟨i, List.mem_append_right _ (List.mem_singleton.2 rfl), List.mem_reverse.1 hj⟩
    · have hold := h.stack j (by rw [hstack]; exact List.mem_cons_of_mem i hj)
      exact hold.append [i]
  · exact ⟨h.listed, fun j hj => h.stack j (by rw [hstack]; exact List.mem_cons_of_mem i hj)⟩

/-- **A run keeps parents first.** -/
theorem turns (hrun : g.Turns n l l') (h : l.ParentsFirst g root) : l'.ParentsFirst g root := by
  induction hrun with
  | none => exact h
  | next first _ ih => exact ih (h.turn first)

end Listing.ParentsFirst

/-! ## 3. The whole list -/

/-- **Nodes are all that is reachable from a root, as the loop lists them.** -/
structure Graph.Enumerates (g : Graph) (root : Nat) (nodes : List Nat) : Prop where
  /-- The loop ends with them, after a turn for the root and one for each child of each of them. -/
  ends : g.Turns (1 + g.childCount nodes) ⟨[], [root]⟩ ⟨nodes, []⟩
  /-- The root comes first. -/
  first : nodes.head? = some root
  /-- None is listed twice. -/
  once : nodes.Nodup
  /-- They are the root and what a chain of children leads to from there. -/
  reached : ∀ j, j ∈ nodes ↔ g.Below root j
  /-- Every other node stands after one of its parents. -/
  parents : ∀ before j after, nodes = before ++ j :: after →
    j = root ∨ ∃ i ∈ before, j ∈ g.childrenOf i

/-- **What is reachable from a node of a graph is enumerated**, cycles or none. -/
theorem Graph.enumerates_reachable (hroot : root < g.size) :
    g.Enumerates root (g.reachable root) := by
  have hparents : g.ParentsFirst root (g.reachable root) :=
    (Listing.ParentsFirst.turns (g.turns_reachable root) (.start g root)).listed
  refine ⟨g.turns_reachable root, ?_, g.nodup_reachable root, fun j => Graph.mem_reachable_iff,
    hparents⟩
  have hmem : root ∈ g.reachable root := Graph.mem_reachable_iff.2 (.self hroot)
  -- what comes first has no parent before it
  cases hlist : g.reachable root with
  | nil =>
    rw [hlist] at hmem
    cases hmem
  | cons j after =>
    rcases hparents [] j after hlist with rfl | ⟨i, hi, -⟩
    · rfl
    · cases hi

/-! ## 4. Several roots -/

section Roots

variable {roots : List Nat}

/-- What is listed root by root is what was listed, and what is reachable from the roots. -/
theorem Graph.mem_foldl_reachable : ∀ {roots listed : List Nat},
    j ∈ roots.foldl (fun listed root => listed ++ (g.reachable root).filter (· ∉ listed)) listed ↔
      j ∈ listed ∨ ∃ root ∈ roots, g.Below root j
  | [], listed => by simp
  | root :: roots, listed => by
    rw [List.foldl_cons, Graph.mem_foldl_reachable, List.mem_append, List.mem_filter,
      decide_eq_true_eq, Graph.mem_reachable_iff, List.exists_mem_cons_iff]
    by_cases hj : j ∈ listed <;> simp [hj]

/-- Root by root, nothing is listed twice. -/
theorem Graph.nodup_foldl_reachable : ∀ {roots listed : List Nat}, listed.Nodup →
    (roots.foldl (fun listed root => listed ++ (g.reachable root).filter (· ∉ listed))
      listed).Nodup
  | [], _, hlisted => hlisted
  | root :: roots, listed, hlisted => by
    rw [List.foldl_cons]
    refine Graph.nodup_foldl_reachable (hlisted.append ((g.nodup_reachable root).filter _) ?_)
    intro j hj hnew
    have hnot := (List.mem_filter.1 hnew).2
    exact of_decide_eq_true hnot hj

theorem Graph.mem_reachableFrom_iff :
    j ∈ g.reachableFrom roots ↔ ∃ root ∈ roots, g.Below root j := by
  unfold Graph.reachableFrom
  rw [Graph.mem_foldl_reachable]
  simp

theorem Graph.nodup_reachableFrom (g : Graph) (roots : List Nat) :
    (g.reachableFrom roots).Nodup :=
  Graph.nodup_foldl_reachable List.nodup_nil

/-- **What is reachable from several roots is counted once.** -/
theorem Graph.encard_below (g : Graph) (roots : List Nat) :
    {j | ∃ root ∈ roots, g.Below root j}.encard = (g.reachableFrom roots).length := by
  have hset : {j | ∃ root ∈ roots, g.Below root j} =
      ((g.reachableFrom roots).toFinset : Set Nat) := by
    ext j
    simp only [Set.mem_ofPred_eq, Finset.mem_coe, List.mem_toFinset, Graph.mem_reachableFrom_iff]
  rw [hset, Set.encard_coe_eq_coe_finsetCard,
    List.toFinset_card_of_nodup (g.nodup_reachableFrom roots)]

end Roots

end Terrain.Formula
