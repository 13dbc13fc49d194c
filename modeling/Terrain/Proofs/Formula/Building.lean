import Terrain.Formula.Build
import Terrain.Proofs.Attempt
import Terrain.Proofs.Formula.Growth

/-!
# What a building does

A building that succeeds has made the nodes of the formula from left to right, each after its
children. `Built` says so case by case, and later proofs go by induction on it instead of unfolding
`build`.

* `built_iff`: a building succeeds exactly as `Built` says.
* `Built.starts`, `leads_build`: it only adds nodes at the end of the graph, also if it fails.
* `Built.whole`: everything below the node it gives is in the graph.
* `secures_build`: every node is made after its children, also if the building fails.
-/

namespace Terrain.Formula

open Terrain.Text

/-! ## 1. Steps of a building -/

/-- The draft once a visit is told. -/
def Draft.visited (d : Draft) (k : Kind) (t : Text) : Draft :=
  { d with steps := d.steps.push (.visit k t) }

/-- The draft with one more node. -/
def Draft.made (d : Draft) (n : Node) : Draft := { d with graph := d.graph.push n }

@[simp] theorem Draft.visited_graph (d : Draft) (k : Kind) (t : Text) :
    (d.visited k t).graph = d.graph := rfl

theorem run_makeNode (n : Node) (d : Draft) :
    (makeNode n).run d = (.ok d.graph.size, d.made n) := rfl

theorem run_tell_visit (k : Kind) (t : Text) (d : Draft) :
    (tell (.visit k t)).run d = (.ok (), d.visited k t) := rfl

/-! ## 2. First sight -/

section FirstSight

variable {s : Scope} {k : Kind} {t : Text}

/-- A text is neither a literal nor a field, if it is to be a number. -/
def Unread (s : Scope) (k : Kind) (t : Text) : Prop :=
  k = .number → Number.Decimal.read? t = none ∧ s.field? t = none

/-- A text is a literal, or a field, or neither. -/
theorem sight_cases (s : Scope) (k : Kind) (t : Text) :
    (∃ d, k = .number ∧ Number.Decimal.read? t = some d) ∨
    (∃ root, k = .number ∧ Number.Decimal.read? t = none ∧ s.field? t = some root) ∨
    Unread s k t := by
  by_cases hk : k = .number
  · cases hd : Number.Decimal.read? t with
    | some d => exact .inl ⟨d, hk, rfl⟩
    | none =>
      cases hf : s.field? t with
      | some root => exact .inr (.inl ⟨root, hk, rfl, rfl⟩)
      | none => exact .inr (.inr fun _ => ⟨hd, hf⟩)
  · exact .inr (.inr fun h => absurd h hk)

theorem classify_literal {d : Number.Decimal} (h : Number.Decimal.read? t = some d) :
    classify s .number t = .leaf (.const d.toFloat) := by
  simp only [classify, h]

theorem classify_field {root : Nat} (hd : Number.Decimal.read? t = none)
    (hf : s.field? t = some root) : classify s .number t = .bound root := by
  simp only [classify, hd, hf]

theorem classify_unread (h : Unread s k t) :
    classify s k t = if '(' ∈ t then .call else bare k t := by
  have hc : (if t.contains '(' then Form.call else bare k t) =
      if '(' ∈ t then .call else bare k t := by simp only [List.contains_iff_mem]
  cases k with
  | number =>
    obtain ⟨hd, hf⟩ := h rfl
    simp only [classify, hd, hf]
    exact hc
  | _ => exact hc

/-- No signal has a parenthesis in its name. -/
theorem signal_named?_of_open (h : '(' ∈ t) : Signal.named? t = none := by
  have plain : ∀ p ∈ signals, '(' ∉ p.1.toList := by decide
  unfold Signal.named?
  rw [Option.map_eq_none_iff, List.find?_eq_none]
  intro p hp he
  exact plain p hp (beq_iff_eq.1 he ▸ h)

/-- No shape has a parenthesis in its name. -/
theorem shape_named?_of_open (h : '(' ∈ t) : Shape.named? t = none := by
  have plain : ∀ p ∈ Shape.all, '(' ∉ p.name.toList := by decide
  unfold Shape.named?
  rw [List.find?_eq_none]
  intro p hp he
  exact plain p hp (beq_iff_eq.1 he ▸ h)

/-- What a bare text makes is a signal or a shape. -/
theorem bare_eq_leaf_iff {n : Node} : bare k t = .leaf n ↔
    (k = .number ∧ ∃ sig, Signal.named? t = some sig ∧ n = .signal sig) ∨
    (k = .shape ∧ ∃ shape, Shape.named? t = some shape ∧ n = .shape shape) := by
  cases k with
  | number => unfold bare; cases Signal.named? t <;> simp [eq_comm]
  | shape => unfold bare; cases Shape.named? t <;> simp [eq_comm]
  | _ => simp [bare]

theorem classify_signal {sig : Signal} (hu : Unread s .number t)
    (hsig : Signal.named? t = some sig) : classify s .number t = .leaf (.signal sig) := by
  have ho : '(' ∉ t := by
    intro ho
    rw [signal_named?_of_open ho] at hsig
    cases hsig
  rw [classify_unread hu, if_neg ho, bare_eq_leaf_iff]
  exact .inl ⟨rfl, sig, hsig, rfl⟩

theorem classify_shape {shape : Shape} (hshape : Shape.named? t = some shape) :
    classify s .shape t = .leaf (.shape shape) := by
  have ho : '(' ∉ t := by
    intro ho
    rw [shape_named?_of_open ho] at hshape
    cases hshape
  have hu : Unread s .shape t := nofun
  rw [classify_unread hu, if_neg ho, bare_eq_leaf_iff]
  exact .inr ⟨rfl, shape, hshape, rfl⟩

theorem bare_ne_bound {root : Nat} : bare k t ≠ .bound root := by
  cases k with
  | number => unfold bare; cases Signal.named? t <;> simp
  | shape => unfold bare; cases Shape.named? t <;> simp
  | _ => simp [bare]

theorem bare_ne_call : bare k t ≠ .call := by
  cases k with
  | number => unfold bare; cases Signal.named? t <;> simp
  | shape => unfold bare; cases Shape.named? t <;> simp
  | _ => simp [bare]

/-- A text that is bound is a number, and the name of a field. -/
theorem classify_eq_bound {root : Nat} (h : classify s k t = .bound root) :
    k = .number ∧ Number.Decimal.read? t = none ∧ s.field? t = some root := by
  rcases sight_cases s k t with ⟨d, rfl, hd⟩ | ⟨i, rfl, hd, hi⟩ | hu
  · rw [classify_literal hd] at h
    cases h
  · rw [classify_field hd hi] at h
    cases h
    exact ⟨rfl, hd, hi⟩
  · rw [classify_unread hu] at h
    split at h
    · cases h
    · exact absurd h bare_ne_bound

/-- A text with an opening parenthesis is a call, unless it is a literal or a field. -/
theorem classify_eq_call_iff : classify s k t = .call ↔ '(' ∈ t ∧ Unread s k t := by
  constructor
  · intro h
    rcases sight_cases s k t with ⟨d, rfl, hd⟩ | ⟨i, rfl, hd, hi⟩ | hu
    · rw [classify_literal hd] at h
      cases h
    · rw [classify_field hd hi] at h
      cases h
    · rw [classify_unread hu] at h
      split at h
      · rename_i ho
        exact ⟨ho, hu⟩
      · exact absurd h bare_ne_call
  · intro hex
    obtain ⟨ho, hu⟩ := hex
    rw [classify_unread hu, if_pos ho]

/-- A text that makes a node at first sight is a literal, a signal or a shape. -/
theorem classify_eq_leaf {n : Node} (h : classify s k t = .leaf n) :
    (∃ d, k = .number ∧ Number.Decimal.read? t = some d ∧ n = .const d.toFloat) ∨
    (∃ sig, k = .number ∧ Unread s k t ∧ Signal.named? t = some sig ∧ n = .signal sig) ∨
    (∃ shape, k = .shape ∧ Shape.named? t = some shape ∧ n = .shape shape) := by
  rcases sight_cases s k t with ⟨d, rfl, hd⟩ | ⟨i, rfl, hd, hi⟩ | hu
  · rw [classify_literal hd] at h
    cases h
    exact .inl ⟨d, rfl, hd, rfl⟩
  · rw [classify_field hd hi] at h
    cases h
  · rw [classify_unread hu] at h
    split at h
    · cases h
    · rcases bare_eq_leaf_iff.1 h with ⟨hk, sig, hsig, hn⟩ | ⟨hk, shape, hshape, hn⟩
      · exact .inr (.inl ⟨sig, hk, hu, hsig, hn⟩)
      · exact .inr (.inr ⟨shape, hk, hshape, hn⟩)

end FirstSight

/-! ## 3. Calls -/

/-- The node of a call of two numbers. -/
def Call.pairNode? : Call → Option (Nat → Nat → Node)
  | .add => some .add
  | .subtract => some .subtract
  | .less => some .less
  | _ => none

theorem Call.children_of_pairNode? {call : Call} {node : Nat → Nat → Node} {i j : Nat}
    (h : call.pairNode? = some node) : (node i j).children = [i, j] := by
  cases call <;> cases h <;> rfl

/-- Names of calls tell them apart. -/
theorem Call.name_injective {a b : Call} (h : a.name.toList = b.name.toList) : a = b := by
  revert h
  cases a <;> cases b <;> decide

/-- A name is found among the calls of a kind if it is the name of one of them. -/
theorem Kind.call?_eq_some_iff {k : Kind} {name : Text} {call : Call} :
    k.call? name = some call ↔ call ∈ k.calls ∧ name = call.name.toList := by
  unfold Kind.call?
  constructor
  · intro h
    have hname := List.find?_some h
    exact ⟨List.mem_of_find?_eq_some h, (beq_iff_eq.1 hname).symm⟩
  · intro hex
    obtain ⟨hmem, rfl⟩ := hex
    cases hf : k.calls.find? (·.name.toList == call.name.toList) with
    | none => simpa using List.find?_eq_none.1 hf call hmem
    | some other =>
      have hname := List.find?_some hf
      rw [Call.name_injective (beq_iff_eq.1 hname)]

/-- A text is, as a formula of a kind, a call with arguments. -/
structure IsCall (s : Scope) (k : Kind) (text : Text) (call : Call) (args : List Text) : Prop where
  form : classify s k (strip text) = .call
  parts : takeApart (strip text) = .ok ⟨call.name.toList, args⟩
  allowed : call ∈ k.calls

/-- An empty text is no call. -/
theorem IsCall.ne_nil {s : Scope} {k : Kind} {text : Text} {call : Call} {args : List Text}
    (h : IsCall s k text call args) : strip text ≠ [] := by
  intro he
  have hp := h.parts
  rw [he] at hp
  cases hp

/-! ## 4. Buildings that succeed -/

/-- **A building that succeeds**: the text of a formula of a kind, the draft before, the node it
    gives, and the draft after. -/
inductive Built (s : Scope) : Nat → Kind → Text → Draft → Nat → Draft → Prop
  | leaf {room : Nat} {k : Kind} {text : Text} {d : Draft} {n : Node}
      (hne : strip text ≠ []) (hform : classify s k (strip text) = .leaf n) :
      Built s (room + 1) k text d d.graph.size ((d.visited k (strip text)).made n)
  | bound {room : Nat} {k : Kind} {text : Text} {d : Draft} {root : Nat}
      (hne : strip text ≠ []) (hform : classify s k (strip text) = .bound root) :
      Built s (room + 1) k text d root (d.visited k (strip text))
  | pair {room : Nat} {k : Kind} {text : Text} {d d₁ d₂ : Draft} {i j : Nat} {call : Call}
      {node : Nat → Nat → Node} {l r : Text}
      (hcall : IsCall s k text call [l, r]) (hnode : call.pairNode? = some node)
      (left : Built s room .number l (d.visited k (strip text)) i d₁)
      (right : Built s room .number r d₁ j d₂) :
      Built s (room + 1) k text d d₂.graph.size (d₂.made (node i j))
  | choose {room : Nat} {k : Kind} {text : Text} {d d₁ d₂ d₃ : Draft} {h i j : Nat}
      {p a b : Text} (hcall : IsCall s k text .choose [p, a, b])
      (condition : Built s room .boolean p (d.visited k (strip text)) h d₁)
      (whenTrue : Built s room k a d₁ i d₂) (whenFalse : Built s room k b d₂ j d₃) :
      Built s (room + 1) k text d d₃.graph.size (d₃.made (.choose h i j))
  | voxel {room : Nat} {k : Kind} {text : Text} {d : Draft} {w : Text} {id : Nat}
      (hcall : IsCall s k text .voxel [w]) (hid : s.voxelId w = some id) :
      Built s (room + 1) k text d d.graph.size ((d.visited k (strip text)).made (.voxel w id))

variable {s : Scope} {room : Nat} {k : Kind} {text : Text} {d d' : Draft} {root : Nat}

/-- **A formula is opened**, and `sub` builds what it is made of. -/
def opened (s : Scope) (sub : Kind → Text → Build Nat) (k : Kind) (text : Text) : Build Nat :=
  let t := strip text
  if t.isEmpty then refuse .empty t
  else do
    tell (.visit k t)
    buildForm s sub k t (classify s k t)

/-- A building opens the formula, and has room for one formula less in it. -/
theorem build_succ (s : Scope) (room : Nat) (k : Kind) (text : Text) :
    build s (room + 1) k text = opened s (build s room) k text := rfl

/-- A text that is not blank is told, and opened as what it is at first sight. -/
theorem run_opened {sub : Kind → Text → Build Nat} (hne : strip text ≠ []) :
    (opened s sub k text).run d =
      (buildForm s sub k (strip text) (classify s k (strip text))).run
        (d.visited k (strip text)) := by
  have he : (strip text).isEmpty = false := by simpa using hne
  simp only [opened, he, Bool.false_eq_true, if_false]
  exact Attempt.run_bind_of_ok (run_tell_visit k (strip text) d) _

/-- A text that is not blank is told, and built as what it is at first sight. -/
theorem run_build (hne : strip text ≠ []) :
    (build s (room + 1) k text).run d =
      (buildForm s (build s room) k (strip text) (classify s k (strip text))).run
        (d.visited k (strip text)) :=
  run_opened hne

/-- A call is built from its arguments. -/
theorem run_build_of_isCall {call : Call} {args : List Text} (h : IsCall s k text call args) :
    (build s (room + 1) k text).run d =
      (buildCall s (build s room) k (strip text) call args).run (d.visited k (strip text)) := by
  have hc : k.call? call.name.toList = some call := Kind.call?_eq_some_iff.2 ⟨h.allowed, rfl⟩
  rw [run_build h.ne_nil, h.form]
  simp only [buildForm, h.parts, hc]

/-- Two numbers that are built give a node of two. -/
theorem run_buildPair {sub : Kind → Text → Build Nat} {node : Nat → Nat → Node} {l r : Text}
    {d₁ d₂ : Draft} {i j : Nat} (hl : (sub .number l).run d = (.ok i, d₁))
    (hr : (sub .number r).run d₁ = (.ok j, d₂)) :
    (buildPair sub node l r).run d = (.ok d₂.graph.size, d₂.made (node i j)) := by
  unfold buildPair
  rw [Attempt.run_bind_of_ok hl, Attempt.run_bind_of_ok hr, run_makeNode]

/-- A call of two numbers is built as its node. -/
theorem buildCall_pair {sub : Kind → Text → Build Nat} {t l r : Text} {call : Call}
    {node : Nat → Nat → Node} (h : call.pairNode? = some node) :
    buildCall s sub k t call [l, r] = buildPair sub node l r := by
  cases call <;> cases h <;> rfl

/-- **What `Built` says is what happens.** -/
theorem Built.run (h : Built s room k text d root d') :
    (build s room k text).run d = (.ok root, d') := by
  induction h with
  | leaf hne hform =>
    rw [run_build hne, hform]
    rfl
  | bound hne hform =>
    rw [run_build hne, hform]
    rfl
  | pair hcall hnode _ _ ihl ihr =>
    rw [run_build_of_isCall hcall, buildCall_pair hnode]
    exact run_buildPair ihl ihr
  | choose hcall _ _ _ ihp iha ihb =>
    rw [run_build_of_isCall hcall]
    unfold buildCall
    rw [Attempt.run_bind_of_ok ihp, Attempt.run_bind_of_ok iha, Attempt.run_bind_of_ok ihb,
      run_makeNode]
  | voxel hcall hid =>
    rw [run_build_of_isCall hcall]
    simp only [buildCall, hid]
    rfl

/-- A pair that is built is two numbers that are built. -/
theorem run_buildPair_ok {sub : Kind → Text → Build Nat} {node : Nat → Nat → Node} {l r : Text}
    (h : (buildPair sub node l r).run d = (.ok root, d')) :
    ∃ i j d₁ d₂, (sub .number l).run d = (.ok i, d₁) ∧ (sub .number r).run d₁ = (.ok j, d₂) ∧
      root = d₂.graph.size ∧ d' = d₂.made (node i j) := by
  obtain ⟨i, d₁, hi, h⟩ := Attempt.run_bind_ok h
  obtain ⟨j, d₂, hj, h⟩ := Attempt.run_bind_ok h
  rw [run_makeNode] at h
  cases h
  exact ⟨i, j, d₁, d₂, hi, hj, rfl, rfl⟩

/-- A call that is built has the arguments it takes. -/
theorem run_buildCall_ok {sub : Kind → Text → Build Nat} {t : Text} {call : Call}
    {args : List Text} (h : (buildCall s sub k t call args).run d = (.ok root, d')) :
    (∃ node l r, call.pairNode? = some node ∧ args = [l, r] ∧
      (buildPair sub node l r).run d = (.ok root, d')) ∨
    (∃ p a b i₀ i₁ i₂ d₁ d₂ d₃, call = .choose ∧ args = [p, a, b] ∧
      (sub .boolean p).run d = (.ok i₀, d₁) ∧ (sub k a).run d₁ = (.ok i₁, d₂) ∧
      (sub k b).run d₂ = (.ok i₂, d₃) ∧
      root = d₃.graph.size ∧ d' = d₃.made (.choose i₀ i₁ i₂)) ∨
    (∃ w id, call = .voxel ∧ args = [w] ∧ s.voxelId w = some id ∧
      root = d.graph.size ∧ d' = d.made (.voxel w id)) := by
  unfold buildCall at h
  split at h
  · exact .inl ⟨_, _, _, rfl, rfl, h⟩
  · exact .inl ⟨_, _, _, rfl, rfl, h⟩
  · exact .inl ⟨_, _, _, rfl, rfl, h⟩
  · obtain ⟨i₀, d₁, h₀, h⟩ := Attempt.run_bind_ok h
    obtain ⟨i₁, d₂, h₁, h⟩ := Attempt.run_bind_ok h
    obtain ⟨i₂, d₃, h₂, h⟩ := Attempt.run_bind_ok h
    rw [run_makeNode] at h
    cases h
    exact .inr (.inl ⟨_, _, _, i₀, i₁, i₂, d₁, d₂, d₃, rfl, rfl, h₀, h₁, h₂, rfl, rfl⟩)
  · split at h
    · rename_i hid
      rw [run_makeNode] at h
      cases h
      exact .inr (.inr ⟨_, _, rfl, rfl, hid, rfl, rfl⟩)
    · cases h
  · cases h

/-- **A building that succeeds is one that `Built` tells of.** -/
theorem built_of_run {room : Nat} : ∀ {k : Kind} {text : Text} {d d' : Draft} {root : Nat},
    (build s room k text).run d = (.ok root, d') → Built s room k text d root d' := by
  induction room with
  | zero => intro k text d d' root h; cases h
  | succ room ih =>
    intro k text d d' root h
    by_cases hne : strip text = []
    · rw [build, hne] at h
      cases h
    rw [run_build hne] at h
    cases hform : classify s k (strip text) with
    | leaf n =>
      rw [hform] at h
      cases h
      exact .leaf hne hform
    | bound i =>
      rw [hform] at h
      cases h
      exact .bound hne hform
    | refused f =>
      rw [hform] at h
      cases h
    | call =>
      rw [hform] at h
      unfold buildForm at h
      dsimp only at h
      split at h
      · cases h
      rename_i parts hparts
      split at h
      · cases h
      rename_i call hc
      obtain ⟨hmem, hname⟩ := Kind.call?_eq_some_iff.1 hc
      have hcall : IsCall s k text call parts.arguments :=
        ⟨hform, by rw [hparts, ← hname], hmem⟩
      rcases run_buildCall_ok h with ⟨node, l, r, hnode, hargs, h⟩ |
        ⟨p, a, b, i₀, i₁, i₂, d₁, d₂, d₃, rfl, hargs, h₀, h₁, h₂, rfl, rfl⟩ |
        ⟨w, id, rfl, hargs, hid, rfl, rfl⟩
      · obtain ⟨i, j, d₁, d₂, hi, hj, rfl, rfl⟩ := run_buildPair_ok h
        exact .pair (hargs ▸ hcall) hnode (ih hi) (ih hj)
      · exact .choose (hargs ▸ hcall) (ih h₀) (ih h₁) (ih h₂)
      · exact .voxel (hargs ▸ hcall) hid

theorem built_iff : Built s room k text d root d' ↔
    (build s room k text).run d = (.ok root, d') :=
  ⟨Built.run, built_of_run⟩

/-! ## 5. What stays and what is added -/

/-- The graph of a draft has grown. -/
def Draft.Grows (d d' : Draft) : Prop := d.graph.Starts d'.graph

section Growing

open Attempt

theorem leads_makeNode (n : Node) : Leads Draft.Grows (makeNode n) := fun _ => .push _ _

theorem leads_refuse {α : Type} (f : Fault) (t : Text) :
    Leads Draft.Grows (refuse f t : Build α) := fun _ => .refl _

/-- A call only adds nodes, if its arguments do. -/
theorem leads_buildCall {sub : Kind → Text → Build Nat} (hsub : ∀ k t, Leads Draft.Grows (sub k t))
    (k : Kind) (t : Text) (call : Call) (args : List Text) :
    Leads Draft.Grows (buildCall s sub k t call args) := by
  have hpair (node : Nat → Nat → Node) (l r : Text) : Leads Draft.Grows (buildPair sub node l r) :=
    .bind .trans (hsub _ _) fun _ => .bind .trans (hsub _ _) fun _ => leads_makeNode _
  unfold buildCall
  split
  · exact hpair _ _ _
  · exact hpair _ _ _
  · exact hpair _ _ _
  · exact .bind .trans (hsub _ _) fun _ => .bind .trans (hsub _ _) fun _ =>
      .bind .trans (hsub _ _) fun _ => leads_makeNode _
  · split
    · exact leads_makeNode _
    · exact leads_refuse _ _
  · exact leads_refuse _ _

/-- **A building only adds nodes at the end of the graph, also if it fails.** -/
theorem leads_build (s : Scope) : ∀ (room : Nat) (k : Kind) (text : Text),
    Leads Draft.Grows (build s room k text)
  | 0, k, text => fun d => .refl _
  | room + 1, k, text => by
    have hform (form : Form) :
        Leads Draft.Grows (buildForm s (build s room) k (strip text) form) := by
      unfold buildForm
      split
      · exact leads_makeNode _
      · exact fun _ => .refl _
      · exact leads_refuse _ _
      · split
        · exact leads_refuse _ _
        · split
          · exact leads_refuse _ _
          · exact leads_buildCall (leads_build s room) _ _ _ _
    rw [build]
    split
    · exact leads_refuse _ _
    · exact .bind .trans (fun _ => .refl _) fun _ => hform _

end Growing

/-- A building that succeeds only adds nodes at the end of the graph. -/
theorem Built.starts (h : Built s room k text d root d') : d.graph.Starts d'.graph := by
  have hgrows := leads_build s room k text d
  rw [h.run] at hgrows
  exact hgrows

/-- **What a building gives is whole**, if the fields are. -/
theorem Built.whole (h : Built s room k text d root d')
    (hfields : ∀ f ∈ s.fields, d.graph.Whole f.root) : d'.graph.Whole root := by
  have leaf {d : Draft} {n : Node} (hn : n.children = []) :
      (d.made n).graph.Whole d.graph.size :=
    .node (Graph.node?_push_size _ _) (by rw [hn]; exact List.forall_mem_nil _)
  have kept {d d' : Draft} (hgrow : d.graph.Starts d'.graph)
      (hfields : ∀ f ∈ s.fields, d.graph.Whole f.root) : ∀ f ∈ s.fields, d'.graph.Whole f.root :=
    fun f hf => (hfields f hf).grow hgrow
  induction h with
  | leaf _ hform =>
    refine leaf ?_
    rcases classify_eq_leaf hform with ⟨_, _, _, rfl⟩ | ⟨_, _, _, _, rfl⟩ | ⟨_, _, _, rfl⟩ <;> rfl
  | bound _ hform =>
    obtain ⟨f, hf, rfl⟩ := Option.map_eq_some_iff.1 (classify_eq_bound hform).2.2
    exact hfields f (List.mem_of_find?_eq_some hf)
  | pair _ hnode left right ihl ihr =>
    have hl := ihl hfields
    have hr := ihr (kept left.starts hfields)
    refine .node (Graph.node?_push_size _ _) fun m hm => ?_
    rw [Call.children_of_pairNode? hnode] at hm
    rcases List.mem_pair.1 hm with rfl | rfl
    · exact (hl.grow right.starts).grow (.push _ _)
    · exact hr.grow (.push _ _)
  | choose _ condition whenTrue whenFalse ihp iha ihb =>
    have hp := ihp hfields
    have ha := iha (kept condition.starts hfields)
    have hb := ihb (kept (condition.starts.trans whenTrue.starts) hfields)
    refine .node (Graph.node?_push_size _ _) fun m hm => ?_
    simp only [Node.children, List.mem_cons, List.not_mem_nil, or_false] at hm
    rcases hm with rfl | rfl | rfl
    · exact (hp.grow (whenTrue.starts.trans whenFalse.starts)).grow (.push _ _)
    · exact (ha.grow whenFalse.starts).grow (.push _ _)
    · exact hb.grow (.push _ _)
  | voxel => exact leaf rfl

/-! ## 6. Children come first -/

/-- A number is that of a node of a draft. -/
def Draft.Has (i : Nat) (d : Draft) : Prop := i < d.graph.size

/-- Every node of a draft was made after its children, and the numbers known so far are those of
    nodes. -/
structure Draft.InOrder (known : List Nat) (d : Draft) : Prop where
  graph : d.graph.Ordered
  nodes : ∀ i ∈ known, d.Has i

section Order

open Attempt

variable {known : List Nat}

theorem Draft.inOrder_cons {i : Nat} :
    d.InOrder (i :: known) ↔ d.InOrder known ∧ d.Has i := by
  constructor
  · intro h
    obtain ⟨hi, hknown⟩ := List.forall_mem_cons.1 h.nodes
    exact ⟨⟨h.graph, hknown⟩, hi⟩
  · intro h
    exact ⟨h.1.graph, List.forall_mem_cons.2 ⟨h.2, h.1.nodes⟩⟩

/-- What one part gives is known to the next. -/
theorem secures_bind {x : Build Nat} {f : Nat → Build Nat}
    (hx : Secures (Draft.InOrder known) Draft.Has x)
    (hf : ∀ i, Secures (Draft.InOrder (i :: known)) Draft.Has (f i)) :
    Secures (Draft.InOrder known) Draft.Has (x >>= f) := by
  refine .bind hx fun i d hd => ?_
  obtain ⟨hlast, hgiven⟩ := hf i d (Draft.inOrder_cons.2 hd)
  exact ⟨Draft.inOrder_cons.1 hlast, hgiven⟩

theorem secures_makeNode {n : Node} (hn : ∀ j ∈ n.children, j ∈ known) :
    Secures (Draft.InOrder known) Draft.Has (makeNode n) := by
  intro d hd
  have hsize : d.graph.size < (d.graph.push n).size := by simp
  rw [run_makeNode]
  refine ⟨⟨hd.graph.push fun j hj => hd.nodes j (hn j hj), fun i hi => ?_⟩, fun i hi => ?_⟩
  · exact Nat.lt_trans (hd.nodes i hi) hsize
  · cases hi
    exact hsize

theorem secures_refuse (f : Fault) (t : Text) :
    Secures (Draft.InOrder known) Draft.Has (refuse f t) := fun _ hd => ⟨hd, nofun⟩

/-- A call is made after its arguments. -/
theorem secures_buildCall {sub : Kind → Text → Build Nat}
    (hsub : ∀ known, (∀ f ∈ s.fields, f.root ∈ known) → ∀ k t,
      Secures (Draft.InOrder known) Draft.Has (sub k t))
    (hfields : ∀ f ∈ s.fields, f.root ∈ known) (k : Kind) (t : Text) (call : Call)
    (args : List Text) :
    Secures (Draft.InOrder known) Draft.Has (buildCall s sub k t call args) := by
  have more {l : List Nat} (h : ∀ f ∈ s.fields, f.root ∈ l) (i : Nat) :
      ∀ f ∈ s.fields, f.root ∈ i :: l := fun f hf => List.mem_cons_of_mem i (h f hf)
  have hpair (node : Nat → Nat → Node) (hnode : ∀ i j, (node i j).children = [i, j])
      (l r : Text) : Secures (Draft.InOrder known) Draft.Has (buildPair sub node l r) :=
    secures_bind (hsub _ hfields _ _) fun i => secures_bind (hsub _ (more hfields i) _ _) fun j =>
      secures_makeNode (by simp [hnode])
  unfold buildCall
  split
  · exact hpair _ (fun _ _ => rfl) _ _
  · exact hpair _ (fun _ _ => rfl) _ _
  · exact hpair _ (fun _ _ => rfl) _ _
  · exact secures_bind (hsub _ hfields _ _) fun h => secures_bind (hsub _ (more hfields h) _ _)
      fun i => secures_bind (hsub _ (more (more hfields h) i) _ _) fun j =>
        secures_makeNode (by simp [Node.children])
  · split
    · exact secures_makeNode (List.forall_mem_nil _)
    · exact secures_refuse _ _
  · exact secures_refuse _ _

/-- **Every node is made after its children, also if the building fails**, and what a building
    gives is a node. -/
theorem secures_build (s : Scope) : ∀ (room : Nat) (known : List Nat),
    (∀ f ∈ s.fields, f.root ∈ known) → ∀ (k : Kind) (text : Text),
      Secures (Draft.InOrder known) Draft.Has (build s room k text)
  | 0, known, _, k, text => fun d hd => ⟨hd, nofun⟩
  | room + 1, known, hfields, k, text => by
    have hform (form : Form) (hform : classify s k (strip text) = form) :
        Secures (Draft.InOrder known) Draft.Has
          (buildForm s (build s room) k (strip text) form) := by
      unfold buildForm
      split
      · refine secures_makeNode ?_
        rcases classify_eq_leaf hform with ⟨_, _, _, rfl⟩ | ⟨_, _, _, _, rfl⟩ | ⟨_, _, _, rfl⟩ <;>
          exact List.forall_mem_nil _
      · obtain ⟨f, hf, rfl⟩ := Option.map_eq_some_iff.1 (classify_eq_bound hform).2.2
        intro d hd
        refine ⟨hd, fun i hi => ?_⟩
        cases hi
        exact hd.nodes _ (hfields f (List.mem_of_find?_eq_some hf))
      · exact secures_refuse _ _
      · split
        · exact secures_refuse _ _
        · split
          · exact secures_refuse _ _
          · exact secures_buildCall (secures_build s room) hfields _ _ _ _
    intro d hd
    by_cases hne : strip text = []
    · have hrefused : build s (room + 1) k text = refuse .empty (strip text) := by
        rw [build, hne]
        rfl
      rw [hrefused]
      exact secures_refuse _ _ d hd
    · rw [run_build hne]
      exact hform _ rfl (d.visited k (strip text)) ⟨hd.graph, hd.nodes⟩

end Order

end Terrain.Formula
