import Terrain.Proofs.Formula.Building
import Terrain.Proofs.Formula.Renaming

/-!
# Buildings that are repeated

A building adds nodes at the end of the graph and tells steps; what the graph holds before makes no
difference to it. Repeated on another draft, and in a scope in which the names it meets mean the
same, it adds the same nodes, under the numbers that are next there.

* `Draft.extend`: a draft with nodes added at the end, and steps told.
* `Scope.Mirrors`: the names that a building meets mean the same in another scope.
* `Built.exists_repeats`: what a building adds, on its own draft and on every other.
* `renames_extend`: on a draft that grew out of its own, it comes to the same tree.
-/

namespace Terrain.Formula

open Terrain.Text

variable {s s' : Scope} {room : Nat} {k : Kind} {text t : Text} {d d' e : Draft} {root : Nat}
variable {f : Nat → Nat}

/-! ## 1. Drafts that are extended -/

/-- The draft with nodes added at the end of its graph, and steps told. -/
def Draft.extend (d : Draft) (nodes : List Node) (steps : List Step) : Draft :=
  ⟨⟨d.graph.nodes ++ nodes.toArray⟩, d.steps ++ steps.toArray⟩

/-- The numbers that are next in one graph are renamed to those that are next in another. -/
def Draft.Follows (f : Nat → Nat) (d e : Draft) : Prop :=
  ∀ m, f (d.graph.size + m) = e.graph.size + m

namespace Draft

theorem visited_eq_extend (d : Draft) (k : Kind) (t : Text) :
    d.visited k t = d.extend [] [.visit k t] := by
  simp [visited, extend]

theorem extend_extend (d : Draft) (nodes nodes' : List Node) (steps steps' : List Step) :
    (d.extend nodes steps).extend nodes' steps' =
      d.extend (nodes ++ nodes') (steps ++ steps') := by
  simp [extend]

/-- What is made of a formula is made after what it is made of. -/
theorem made_eq_extend (d : Draft) (k : Kind) (t : Text) (nodes : List Node) (steps : List Step)
    (n : Node) : ((d.visited k t).extend nodes steps).made n =
      d.extend (nodes ++ [n]) (.visit k t :: steps) := by
  simp [visited, extend, made, Graph.push]

@[simp] theorem size_extend (d : Draft) (nodes : List Node) (steps : List Step) :
    (d.extend nodes steps).graph.size = d.graph.size + nodes.length := by
  simp [extend, Graph.size]

/-- The nodes of the draft come first. -/
theorem node?_extend_of_lt {i : Nat} (hi : i < d.graph.size) (nodes : List Node)
    (steps : List Step) : (d.extend nodes steps).graph.node? i = d.graph.node? i :=
  Array.getElem?_append_left hi

/-- The nodes that are added come after them. -/
theorem node?_extend_add (d : Draft) (nodes : List Node) (steps : List Step) (m : Nat) :
    (d.extend nodes steps).graph.node? (d.graph.size + m) = nodes[m]? := by
  have hle : d.graph.nodes.size ≤ d.graph.size + m := Nat.le_add_right _ _
  unfold Graph.node? extend
  rw [Array.getElem?_append_right hle, List.getElem?_toArray]
  exact congrArg (nodes[·]?) (Nat.add_sub_cancel_left _ _)

theorem Follows.extend (h : Follows f d e) (nodes : List Node) (steps : List Step) :
    Follows f (d.extend nodes steps) (e.extend (nodes.map (Node.rename f)) steps) := by
  intro m
  rw [size_extend, size_extend, List.length_map, Nat.add_assoc, Nat.add_assoc]
  exact h _

/-- The number that is next. -/
theorem Follows.next (h : Follows f d e) : f d.graph.size = e.graph.size := h 0

end Draft

/-! ## 2. Scopes that mirror each other -/

/-- A name that is met means the same in another scope: a field is bound to the renamed node, and a
    voxel type that is known has the same id. -/
structure Scope.Mirrors (s s' : Scope) (f : Nat → Nat) (steps : List Step) : Prop where
  field : ∀ t, .visit .number t ∈ steps → s'.field? t = (s.field? t).map f
  voxel : ∀ w id, s.voxelId w = some id → s'.voxelId w = some id

theorem Scope.Mirrors.mono {steps part : List Step} (h : s.Mirrors s' f steps)
    (hpart : part ⊆ steps) : s.Mirrors s' f part :=
  ⟨fun t ht => h.field t (hpart ht), h.voxel⟩

/-- What a text is at first sight, with its nodes renamed. -/
def Form.rename (f : Nat → Nat) : Form → Form
  | .leaf n => .leaf (n.rename f)
  | .bound root => .bound (f root)
  | form => form

theorem bare_rename (f : Nat → Nat) (k : Kind) (t : Text) : (bare k t).rename f = bare k t := by
  cases k with
  | number => unfold bare; cases Signal.named? t <;> rfl
  | shape => unfold bare; cases Shape.named? t <;> rfl
  | _ => rfl

/-- **A text is at first sight the same in both scopes**, if a number that it may name is. -/
theorem classify_of_mirrors (h : k = .number → s'.field? t = (s.field? t).map f) :
    classify s' k t = (classify s k t).rename f := by
  rcases sight_cases s k t with ⟨d, rfl, hd⟩ | ⟨i, rfl, hd, hi⟩ | hu
  · rw [classify_literal hd, classify_literal hd]
    rfl
  · have hi' : s'.field? t = some (f i) := by rw [h rfl, hi]; rfl
    rw [classify_field hd hi, classify_field hd hi']
    rfl
  · have hu' : Unread s' k t := by
      intro hk
      obtain ⟨hd, hnone⟩ := hu hk
      exact ⟨hd, by rw [h hk, hnone]; rfl⟩
    rw [classify_unread hu, classify_unread hu']
    split
    · rfl
    · exact (bare_rename f k t).symm

/-- A formula that is told is at first sight the same in both scopes. -/
theorem Scope.Mirrors.classify {steps : List Step} (h : s.Mirrors s' f (.visit k t :: steps)) :
    classify s' k t = (Formula.classify s k t).rename f := by
  refine classify_of_mirrors fun hk => h.field t ?_
  rw [hk]
  exact List.mem_cons_self

/-- What is a call in one scope is a call in the other. -/
theorem IsCall.of_mirrors {steps : List Step} {call : Call} {args : List Text}
    (hcall : IsCall s k text call args) (h : s.Mirrors s' f (.visit k (strip text) :: steps)) :
    IsCall s' k text call args where
  form := by
    rw [h.classify, hcall.form]
    rfl
  parts := hcall.parts
  allowed := hcall.allowed

theorem Call.rename_of_pairNode? {call : Call} {node : Nat → Nat → Node} {i j : Nat}
    (h : call.pairNode? = some node) : (node i j).rename f = node (f i) (f j) := by
  cases call <;> cases h <;> rfl

/-! ## 3. Repeating -/

/-- **What a building adds.** It extends its draft by nodes and steps. From every other draft, and in
    every scope that mirrors its own in what is told, it adds the same nodes, renamed, and tells the
    same steps. -/
theorem Built.exists_repeats (h : Built s room k text d root d') :
    ∃ nodes steps, d' = d.extend nodes steps ∧
      ∀ (s' : Scope) (f : Nat → Nat) (e : Draft), s.Mirrors s' f steps → d.Follows f e →
        Built s' room k text e (f root) (e.extend (nodes.map (Node.rename f)) steps) := by
  induction h with
  | @leaf room k text d n hne hform =>
    refine ⟨[n], [.visit k (strip text)], d.made_eq_extend k (strip text) [] [] n,
      fun s' f e hs hf => ?_⟩
    have hform' : classify s' k (strip text) = .leaf (n.rename f) := by
      rw [hs.classify, hform]
      rfl
    have hbuilt : Built s' (room + 1) k text e _ _ := .leaf hne hform'
    rw [hf.next]
    exact e.made_eq_extend k (strip text) [] [] (n.rename f) ▸ hbuilt
  | @bound room k text d root hne hform =>
    refine ⟨[], [.visit k (strip text)], d.visited_eq_extend k (strip text),
      fun s' f e hs hf => ?_⟩
    have hform' : classify s' k (strip text) = .bound (f root) := by
      rw [hs.classify, hform]
      rfl
    have hbuilt : Built s' (room + 1) k text e _ _ := .bound hne hform'
    rw [Draft.visited_eq_extend] at hbuilt
    exact hbuilt
  | @pair room k text d d₁ d₂ i j call node l r hcall hnode left right ihl ihr =>
    obtain ⟨ns₁, told₁, rfl, hl⟩ := ihl
    obtain ⟨ns₂, told₂, rfl, hr⟩ := ihr
    refine ⟨ns₁ ++ ns₂ ++ [node i j], .visit k (strip text) :: (told₁ ++ told₂), ?_,
      fun s' f e hs hf => ?_⟩
    · rw [Draft.extend_extend, Draft.made_eq_extend]
    · have hf₁ : (d.visited k (strip text)).Follows f (e.visited k (strip text)) := hf
      have hf₂ := hf₁.extend ns₁ told₁
      have hleft := hl s' f _ (hs.mono (by simp)) hf₁
      have hright := hr s' f _ (hs.mono (by simp)) hf₂
      have hbuilt := Built.pair (hcall.of_mirrors hs) hnode hleft hright
      rw [← Call.rename_of_pairNode? hnode, ← (hf₂.extend ns₂ told₂).next,
        Draft.extend_extend (e.visited _ _), Draft.made_eq_extend] at hbuilt
      rw [List.map_append, List.map_append]
      exact hbuilt
  | @choose room k text d d₁ d₂ d₃ h i j p a b hcall condition whenTrue whenFalse ihp iha ihb =>
    obtain ⟨ns₁, told₁, rfl, hp⟩ := ihp
    obtain ⟨ns₂, told₂, rfl, ha⟩ := iha
    obtain ⟨ns₃, told₃, rfl, hb⟩ := ihb
    refine ⟨ns₁ ++ (ns₂ ++ ns₃) ++ [.choose h i j],
      .visit k (strip text) :: (told₁ ++ (told₂ ++ told₃)), ?_, fun s' f e hs hf => ?_⟩
    · rw [Draft.extend_extend, Draft.extend_extend, Draft.made_eq_extend]
    · have hf₁ : (d.visited k (strip text)).Follows f (e.visited k (strip text)) := hf
      have hf₂ := hf₁.extend ns₁ told₁
      have hf₃ := hf₂.extend ns₂ told₂
      have hcondition := hp s' f _ (hs.mono (by simp)) hf₁
      have htrue := ha s' f _ (hs.mono (by intro; simp +contextual)) hf₂
      have hfalse := hb s' f _ (hs.mono (by intro; simp +contextual)) hf₃
      have hbuilt := Built.choose (hcall.of_mirrors hs) hcondition htrue hfalse
      rw [← (hf₃.extend ns₃ told₃).next, Draft.extend_extend (e.visited _ _),
        Draft.extend_extend (e.visited _ _), List.append_assoc, List.append_assoc,
        Draft.made_eq_extend] at hbuilt
      rw [List.map_append, List.map_append, List.map_append]
      exact hbuilt
  | @voxel room k text d w id hcall hid =>
    refine ⟨[.voxel w id], [.visit k (strip text)], d.made_eq_extend k (strip text) [] [] _,
      fun s' f e hs hf => ?_⟩
    have hbuilt : Built s' (room + 1) k text e _ _ :=
      .voxel (hcall.of_mirrors hs) (hs.voxel w id hid)
    rw [hf.next]
    exact e.made_eq_extend k (strip text) [] [] (.voxel w id) ▸ hbuilt

/-! ## 4. Drafts that grew -/

/-- Numbers from `n` on are moved to `m` and on. -/
def shift (n m i : Nat) : Nat := if i < n then i else m + (i - n)

theorem shift_of_lt {n i : Nat} (hi : i < n) (m : Nat) : shift n m i = i := if_pos hi

theorem shift_add (n m i : Nat) : shift n m (n + i) = m + i := by
  unfold shift
  rw [if_neg (Nat.not_lt.2 (Nat.le_add_right n i)), Nat.add_sub_cancel_left]

/-- Moved away from the numbers below, no two numbers become one. -/
theorem shift_injective {n m : Nat} (h : n ≤ m) : Function.Injective (shift n m) := by
  intro i j hij
  unfold shift at hij
  split at hij <;> split at hij <;> omega

/-- **The same nodes are added to a draft that grew**, under the numbers that are next there. -/
theorem renames_extend (hd : d.graph.Ordered) (hgrow : d.graph.Starts e.graph) (nodes : List Node)
    (steps : List Step) :
    Graph.Renames (shift d.graph.size e.graph.size) (d.extend nodes steps).graph
      (e.extend (nodes.map (Node.rename (shift d.graph.size e.graph.size))) steps).graph where
  injective := shift_injective hgrow.size_le
  node? i := by
    rcases Nat.lt_or_ge i d.graph.size with hi | hi
    · -- a node of the draft has children of the draft, and these keep their numbers
      have hold : (d.graph.node? i).map (Node.rename (shift d.graph.size e.graph.size)) =
          d.graph.node? i := by
        cases hn : d.graph.node? i with
        | none => rfl
        | some n =>
          have hkept : n.rename (shift d.graph.size e.graph.size) = n.rename id :=
            Node.rename_congr fun j hj => shift_of_lt (Nat.lt_trans (hd i n hn j hj) hi) _
          rw [Option.map_some, hkept, Node.rename_id]
      rw [shift_of_lt hi, Draft.node?_extend_of_lt hi, hold,
        Draft.node?_extend_of_lt (Nat.lt_of_lt_of_le hi hgrow.size_le), hgrow.node?_eq hi]
    · obtain ⟨m, rfl⟩ := Nat.exists_eq_add_of_le hi
      rw [shift_add, Draft.node?_extend_add, Draft.node?_extend_add, List.getElem?_map]

end Terrain.Formula
