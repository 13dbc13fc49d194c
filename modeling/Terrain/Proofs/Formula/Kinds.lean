import Terrain.Proofs.Formula.Building
import Terrain.Proofs.Formula.Depth
import Terrain.Proofs.Formula.Reaching

/-!
# Kinds of nodes

A node holds no mark of what it answers, and any node may be the child of any other: a graph may ask
for the sum of two shapes. What the builder makes asks for no such thing.

* `Graph.HasKind g i k`: the node `i` answers the kind `k`, down to its last operand.
* `Graph.Stuck`: an evaluation meets an operand of the wrong kind. An evaluation that ends stuck
  has met one (`stuck_of_halt`).
* `HasKind.settles`, `HasKind.safe`: a node of a kind answers a result of that kind unless noise is
  refused or too many calls are open, and no evaluation of it is stuck.
* `Built.hasKind`: what is built as a formula of a kind is a node of that kind.
-/

namespace Terrain.Formula

open Terrain.Text

variable {g h : Graph} {i j : Nat} {k : Kind} {n : Node}

/-! ## 1. Nodes of a kind -/

/-- What a node answers, as far as the node itself tells it: a choice may answer any kind. -/
def Node.Gives (k : Kind) : Node → Prop
  | .const _ | .noise .. | .signal _ | .add .. | .subtract .. => k = .number
  | .less .. => k = .boolean
  | .voxel .. => k = .voxel
  | .shape _ => k = .shape
  | .choose .. => True

/-- The children of a node that answers a kind, each with the kind it must answer: numbers are put
    together, a condition is a truth value, and both branches of a choice are what the choice is. -/
def Node.operands (k : Kind) : Node → List (Nat × Kind)
  | .add l r | .subtract l r | .less l r => [(l, .number), (r, .number)]
  | .choose p t e => [(p, .boolean), (t, k), (e, k)]
  | _ => []

theorem Node.map_operands (k : Kind) (n : Node) : (n.operands k).map (·.1) = n.children := by
  cases n <;> rfl

/-- **A node answers a kind**, and so do its operands, down to the last. -/
inductive Graph.HasKind (g : Graph) : Nat → Kind → Prop
  | node {i : Nat} {n : Node} {k : Kind} (hn : g.node? i = some n) (hgives : n.Gives k)
      (operands : ∀ p ∈ n.operands k, g.HasKind p.1 p.2) : g.HasKind i k

namespace Graph.HasKind

theorem grow (hgh : g.Starts h) (hi : g.HasKind i k) : h.HasKind i k := by
  induction hi with
  | node hn hgives _ ih => exact .node (hgh.node?_of_some hn) hgives ih

/-- Every node below one that answers a kind answers a kind. -/
theorem exists_kind (hi : g.HasKind i k) (hj : g.Below i j) : ∃ kind, g.HasKind j kind := by
  induction hj with
  | self _ => exact ⟨k, hi⟩
  | child _ hm _ ih =>
    obtain ⟨kind, hkind⟩ := ih
    cases hkind with
    | @node _ n _ hn _ operands =>
      unfold Graph.childrenOf at hm
      rw [hn] at hm
      dsimp only at hm
      rw [← n.map_operands kind] at hm
      obtain ⟨p, hp, rfl⟩ := List.mem_map.1 hm
      exact ⟨p.2, operands p hp⟩

end Graph.HasKind

/-! ## 2. Stuck evaluations -/

section Evaluations

variable {s : Calls} {noise : Noise} {c : Context} {room : Nat}

/-- The operands that a node computes with, each with the kind it must answer. The branches of a
    choice are handed on as they are. -/
def Node.computesWith : Node → List (Nat × Kind)
  | .add l r | .subtract l r | .less l r => [(l, .number), (r, .number)]
  | .choose p _ _ => [(p, .boolean)]
  | _ => []

theorem Node.mem_operands_of_computesWith {p : Nat × Kind} (hp : p ∈ n.computesWith) (k : Kind) :
    p ∈ n.operands k := by
  cases n with
  | choose =>
    rw [List.mem_singleton.1 hp]
    exact List.mem_cons_self
  | _ => exact hp

/-- The evaluation of a node evaluates another, with the room that is left: an operand, or the
    branch that is selected. -/
inductive Graph.Enters (g : Graph) (s : Calls) (noise : Noise) (c : Context) (room i : Nat) :
    Nat → Prop
  | operand {n : Node} {p : Nat × Kind} (hn : g.node? i = some n) (hp : p ∈ n.computesWith) :
      g.Enters s noise c room i p.1
  | branch {p t e : Nat} {b : Bool} (hn : g.node? i = some (.choose p t e))
      (hb : (g.evaluateIn s noise c room p).result = .ok (.boolean b)) :
      g.Enters s noise c room i (if b then t else e)

/-- **An evaluation is stuck**: it meets an operand that answers the wrong kind. -/
inductive Graph.Stuck (g : Graph) (s : Calls) (noise : Noise) (c : Context) : Nat → Nat → Prop
  | wrong {room i : Nat} {n : Node} {p : Nat × Kind} {r : Result} (hn : g.node? i = some n)
      (hp : p ∈ n.computesWith) (hr : (g.evaluateIn s noise c room p.1).result = .ok r)
      (hkind : r.kind ≠ p.2) : g.Stuck s noise c (room + 1) i
  | inside {room i j : Nat} (henters : g.Enters s noise c room i j)
      (hj : g.Stuck s noise c room j) : g.Stuck s noise c (room + 1) i

/-- A node without children answers what it gives. -/
theorem Node.yields_of_leaf {r : Course Result} (hr : n.leaf? s noise c = some r)
    (hgives : n.Gives k) : r.Yields noise c (·.kind = k) := by
  have pure {x : Result} (hx : x.kind = k) :
      (return x : Course Result).Yields noise c (·.kind = k) := .pure hx
  cases n <;> cases hr
  case signal =>
    refine Course.Yields.under ?_ _
    exact pure hgives.symm
  case noise =>
    refine Course.Yields.under (Course.Yields.ask.bind fun x _ => ?_) _
    exact pure hgives.symm
  all_goals exact pure hgives.symm

/-- Joining is stuck at what it joins, or because that is no number. -/
theorem stuck_of_join {op : Float → Float → Result} {a b : Except Halt Result}
    (h : join op a b = .error .stuck) :
    (a = .error .stuck ∨ ∃ x, a = .ok x ∧ x.kind ≠ .number) ∨
      (b = .error .stuck ∨ ∃ y, b = .ok y ∧ y.kind ≠ .number) := by
  cases a with
  | error e => exact .inl (.inl h)
  | ok x =>
    cases b with
    | error e => exact .inr (.inl h)
    | ok y =>
      cases x with
      | number v =>
        refine .inr (.inr ⟨y, rfl, fun hy => ?_⟩)
        cases y <;> cases hy
        cases h
      | _ => exact .inl (.inr ⟨_, rfl, nofun⟩)

/-- Selecting is stuck at the condition, because that is no truth value, or at the branch. -/
theorem stuck_of_select {a b b' : Except Halt Result} (h : select a b b' = .error .stuck) :
    (a = .error .stuck ∨ ∃ x, a = .ok x ∧ x.kind ≠ .boolean) ∨
      ∃ v, a = .ok (.boolean v) ∧ (if v then b else b') = .error .stuck := by
  cases a with
  | error e => exact .inl (.inl h)
  | ok x =>
    cases x with
    | boolean v => exact .inr ⟨v, rfl, by cases v <;> exact h⟩
    | _ => exact .inl (.inr ⟨_, rfl, nofun⟩)

/-- **An evaluation that ends stuck has met an operand of the wrong kind**, where all nodes are
    there. -/
theorem stuck_of_halt (hi : g.Whole i) : ∀ {room : Nat},
    (g.evaluateIn s noise c room i).result = .error .stuck → g.Stuck s noise c room i := by
  induction hi with
  | @node i n hn _ ih =>
    intro room h
    cases room with
    | zero =>
      rw [Graph.evaluateIn] at h
      cases h
    | succ room =>
      -- an operand is stuck itself, or answers the wrong kind
      have operand {p : Nat × Kind} (hp : p ∈ n.computesWith) (hj : p.1 ∈ n.children)
          (hstuck : (g.evaluateIn s noise c room p.1).result = .error .stuck ∨
            ∃ r, (g.evaluateIn s noise c room p.1).result = .ok r ∧ r.kind ≠ p.2) :
          g.Stuck s noise c (room + 1) i := by
        rcases hstuck with hstuck | ⟨r, hr, hkind⟩
        · exact .inside (.operand hn hp) (ih _ hj hstuck)
        · exact .wrong hn hp hr hkind
      have pair {l r : Nat} {op : Float → Float → Result} (hjoins : n.Joins l r op)
          (hwith : n.computesWith = [(l, .number), (r, .number)]) (hchildren : n.children = [l, r]) :
          g.Stuck s noise c (room + 1) i := by
        rw [Graph.evaluateIn_join hn hjoins, result_join] at h
        rcases stuck_of_join h with hstuck | hstuck
        · exact operand (p := (l, .number)) (by simp [hwith]) (by simp [hchildren]) hstuck
        · exact operand (p := (r, .number)) (by simp [hwith]) (by simp [hchildren]) hstuck
      have leaf {r : Course Result} {k : Kind} (hr : n.leaf? s noise c = some r)
          (hgives : n.Gives k) : g.Stuck s noise c (room + 1) i :=
        absurd h ((Graph.Runs.leaf hn hr (Node.yields_of_leaf hr hgives)).settles.ne_stuck _)
      cases n with
      | add l r => exact pair (.add l r) rfl rfl
      | subtract l r => exact pair (.subtract l r) rfl rfl
      | less l r => exact pair (.less l r) rfl rfl
      | choose p t e =>
        rw [Graph.evaluateIn_choose hn, result_select] at h
        rcases stuck_of_select h with hstuck | ⟨v, hv, hbranch⟩
        · exact operand (p := (p, .boolean)) (by simp [Node.computesWith])
            (by simp [Node.children]) hstuck
        · refine .inside (.branch hn hv) ?_
          cases v with
          | true => exact ih t (by simp [Node.children]) hbranch
          | false => exact ih e (by simp [Node.children]) hbranch
      | const | signal | noise => exact leaf (k := .number) rfl rfl
      | voxel => exact leaf (k := .voxel) rfl rfl
      | shape => exact leaf (k := .shape) rfl rfl

/-- The sum of two shapes is stuck. -/
example : Graph.Stuck ⟨#[.shape .cube, .add 0 0]⟩ s noise c 2 1 :=
  .wrong (n := .add 0 0) (r := .shape .cube) rfl List.mem_cons_self rfl nofun

/-! ## 3. Nodes of a kind settle -/

/-- **A node of a kind runs a course** to a result of that kind, at every place and with every
    noise. -/
theorem Graph.HasKind.exists_runs (hi : g.HasKind i k) (s : Calls) (noise : Noise) (c : Context) :
    ∃ r, g.Runs s noise c i k r := by
  induction hi with
  | @node i n k hn hgives _ ih =>
    have pair {l r : Nat} {op : Float → Float → Result} (hjoins : n.Joins l r op)
        (hop : ∀ x y, (op x y).kind = k) (hoperands : n.operands k = [(l, .number), (r, .number)]) :
        ∃ r, g.Runs s noise c i k r := by
      obtain ⟨rl, hl⟩ := ih (l, .number) (by simp [hoperands])
      obtain ⟨rr, hr⟩ := ih (r, .number) (by simp [hoperands])
      exact ⟨_, .pair hn hjoins hop hl hr⟩
    cases n with
    | add l r => exact pair (.add l r) (fun _ _ => hgives.symm) rfl
    | subtract l r => exact pair (.subtract l r) (fun _ _ => hgives.symm) rfl
    | less l r => exact pair (.less l r) (fun _ _ => hgives.symm) rfl
    | choose p t e =>
      obtain ⟨rp, hp⟩ := ih (p, .boolean) (by simp [Node.operands])
      obtain ⟨rt, ht⟩ := ih (t, k) (by simp [Node.operands])
      obtain ⟨re, he⟩ := ih (e, k) (by simp [Node.operands])
      exact ⟨_, .choose hn hp ht he⟩
    | _ => exact ⟨_, .leaf hn rfl (Node.yields_of_leaf (s := s) rfl hgives)⟩

/-- **A node of a kind settles** on a result of that kind. -/
theorem Graph.HasKind.settles (hi : g.HasKind i k) (s : Calls) (noise : Noise) (c : Context) :
    Settles noise c (fun room => g.evaluateIn s noise c room i) (·.kind = k) := by
  obtain ⟨r, hr⟩ := hi.exists_runs s noise c
  exact hr.settles

/-- No evaluation of a node of a kind meets an operand of the wrong kind. -/
theorem Graph.HasKind.not_stuck (hi : g.HasKind i k) : ¬ g.Stuck s noise c room i := by
  intro hstuck
  induction hstuck generalizing k with
  | @wrong room i n p r hn hp hr hkind =>
    cases hi with
    | node hn' _ operands =>
      rw [hn] at hn'
      cases hn'
      have hoperand := operands p (Node.mem_operands_of_computesWith hp k)
      exact hkind ((hoperand.settles s noise c).of_ok hr)
  | inside henters _ ih =>
    cases hi with
    | node hn' _ operands =>
      cases henters with
      | operand hn hp =>
        rw [hn] at hn'
        cases hn'
        exact ih (operands _ (Node.mem_operands_of_computesWith hp k))
      | @branch p t e b hn hb =>
        rw [hn] at hn'
        cases hn'
        cases b with
        | true => exact ih (operands (t, k) (by simp [Node.operands]))
        | false => exact ih (operands (e, k) (by simp [Node.operands]))

end Evaluations

/-- **A node answers a kind and never gets stuck**, and neither does any node below it. -/
structure Graph.Safe (g : Graph) (i : Nat) (k : Kind) : Prop where
  /-- It answers the kind, and so do its operands, down to the last. -/
  kind : g.HasKind i k
  /-- Every node reachable from it has operands that answer the kinds it asks for. -/
  operands : ∀ j ∈ g.reachable i, ∃ n kind, g.node? j = some n ∧ n.Gives kind ∧
    ∀ p ∈ n.operands kind, g.HasKind p.1 p.2
  /-- It answers a result of the kind, unless noise is refused at the place, or the calls that this
      takes are more than may be open. -/
  answers : ∀ s noise c, Settles noise c (fun room => g.evaluateIn s noise c room i) (·.kind = k)
  /-- No evaluation of it, or of a node reachable from it, meets an operand of the wrong kind. -/
  free : ∀ s noise c room, ∀ j ∈ g.reachable i, ¬ g.Stuck s noise c room j

/-- **A node of a kind is safe.** -/
theorem Graph.HasKind.safe (hi : g.HasKind i k) : g.Safe i k := by
  refine ⟨hi, fun j hj => ?_, hi.settles, fun s noise c room j hj => ?_⟩
  · obtain ⟨kind, hkind⟩ := hi.exists_kind (Graph.mem_reachable_iff.1 hj)
    cases hkind with
    | node hn hgives operands => exact ⟨_, kind, hn, hgives, operands⟩
  · obtain ⟨kind, hkind⟩ := hi.exists_kind (Graph.mem_reachable_iff.1 hj)
    exact hkind.not_stuck

/-! ## 4. What is built -/

section Buildings

variable {s : Scope} {room : Nat} {text : Text} {d d' : Draft} {root : Nat} {call : Call}
  {node : Nat → Nat → Node}

/-- The call of two numbers that a formula of a kind may be answers that kind. -/
theorem gives_of_pairNode? (hnode : call.pairNode? = some node) (hmem : call ∈ k.calls) :
    (node i j).Gives k ∧ (node i j).operands k = [(i, .number), (j, .number)] := by
  cases call <;> cases hnode
  all_goals
    cases k <;> first | exact ⟨rfl, rfl⟩ | exact absurd hmem (by decide)

theorem eq_voxel_of_mem_calls (hmem : .voxel ∈ k.calls) : k = .voxel := by
  cases k <;> first | rfl | exact absurd hmem (by decide)

/-- **What is built as a formula of a kind is a node of that kind**, if the fields are numbers. -/
theorem Built.hasKind (h : Built s room k text d root d')
    (hfields : ∀ f ∈ s.fields, d.graph.HasKind f.root .number) : d'.graph.HasKind root k := by
  have kept {d d' : Draft} (hgrow : d.graph.Starts d'.graph)
      (hfields : ∀ f ∈ s.fields, d.graph.HasKind f.root .number) :
      ∀ f ∈ s.fields, d'.graph.HasKind f.root .number := fun f hf => (hfields f hf).grow hgrow
  induction h with
  | leaf _ hform =>
    rcases classify_eq_leaf hform with ⟨_, rfl, _, rfl⟩ | ⟨_, rfl, _, _, rfl⟩ | ⟨_, rfl, _, rfl⟩ <;>
      exact .node (Graph.node?_push_size _ _) rfl (List.forall_mem_nil _)
  | bound _ hform =>
    obtain ⟨rfl, -, hfield⟩ := classify_eq_bound hform
    obtain ⟨f, hf, rfl⟩ := Option.map_eq_some_iff.1 hfield
    exact hfields f (List.mem_of_find?_eq_some hf)
  | pair hcall hnode left right ihl ihr =>
    have hl := (ihl hfields).grow right.starts
    have hr := ihr (kept left.starts hfields)
    obtain ⟨hgives, hoperands⟩ := gives_of_pairNode? hnode hcall.allowed
    refine .node (Graph.node?_push_size _ _) hgives fun p hp => ?_
    rw [hoperands] at hp
    rcases List.mem_pair.1 hp with rfl | rfl
    · exact hl.grow (.push _ _)
    · exact hr.grow (.push _ _)
  | choose _ condition whenTrue whenFalse ihp iha ihb =>
    have hp := (ihp hfields).grow (whenTrue.starts.trans whenFalse.starts)
    have ha := (iha (kept condition.starts hfields)).grow whenFalse.starts
    have hb := ihb (kept (condition.starts.trans whenTrue.starts) hfields)
    refine .node (Graph.node?_push_size _ _) trivial fun p hmem => ?_
    simp only [Node.operands, List.mem_cons, List.not_mem_nil, or_false] at hmem
    rcases hmem with rfl | rfl | rfl
    · exact hp.grow (.push _ _)
    · exact ha.grow (.push _ _)
    · exact hb.grow (.push _ _)
  | voxel hcall _ =>
    exact .node (Graph.node?_push_size _ _) (eq_voxel_of_mem_calls hcall.allowed)
      (List.forall_mem_nil _)

end Buildings

end Terrain.Formula
