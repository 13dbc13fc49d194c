import Mathlib.Data.Finset.Card
import Mathlib.Data.Finset.Union
import Terrain.Proofs.Formula.Building
import Terrain.Proofs.Formula.Reaching
import Terrain.Proofs.Text.Strip

/-!
# Sharing

A building visits formulas one inside the other. A formula that names a field gives the field's own
node; every other makes one node, the last of those that are made for it.

* `Visit`: a formula that is visited, and the node it gives.
* `Passage`: a stretch of a building, with the formulas visited on it. `Passage.append` puts two
  together, `Passage.make` closes one with the node of a call.
* `Built.exists_passage`: a building that succeeds is a passage.
* `Passage.mem_reachable_iff`, `Passage.length_reachable`: what is reachable is what was made, and
  what is reachable from the fields that were named.
-/

namespace Terrain.Formula

open Terrain.Text

variable {s : Scope} {room : Nat} {k : Kind} {text : Text} {d d₁ d₂ d' : Draft} {root : Nat}

/-! ## 1. Visits -/

/-- A formula that a building visits: its kind, its text without outer blanks, and the node it
    gives. -/
structure Visit where
  kind : Kind
  text : Text
  node : Nat

namespace Visit

variable {v : Visit} {visits others : List Visit}

/-- What is told of a visit. -/
def step (v : Visit) : Step := .visit v.kind v.text

/-- The node of the field that a visit names: a number, by a text that is no literal. -/
def field? (s : Scope) (v : Visit) : Option Nat :=
  if v.kind = .number ∧ (Number.Decimal.read? v.text).isNone then s.field? v.text else none

theorem field?_eq_some_iff {i : Nat} :
    v.field? s = some i ↔ classify s v.kind v.text = .bound i := by
  obtain ⟨k, t, m⟩ := v
  unfold field?
  dsimp only
  constructor
  · intro h
    split at h
    · rename_i hfree
      obtain ⟨rfl, hd⟩ := hfree
      exact classify_field (Option.isNone_iff_eq_none.1 hd) h
    · cases h
  · intro h
    obtain ⟨rfl, hd, hi⟩ := classify_eq_bound h
    rw [hd]
    exact hi

/-- What is no field at first sight names none. -/
theorem field?_eq_none {form : Form} (h : classify s v.kind v.text = form)
    (hform : ∀ i, form ≠ .bound i) : v.field? s = none := by
  rw [Option.eq_none_iff_forall_ne_some]
  intro i hi
  exact hform i (h.symm.trans (field?_eq_some_iff.1 hi))

/-- The nodes of the visits that name no field. -/
def made (s : Scope) (visits : List Visit) : List Nat :=
  (visits.filter fun v => (v.field? s).isNone).map (·.node)

/-- The nodes of the fields that are named. -/
def named (s : Scope) (visits : List Visit) : List Nat := visits.filterMap (·.field? s)

theorem made_append : made s (visits ++ others) = made s visits ++ made s others := by
  unfold made
  rw [List.filter_append, List.map_append]

theorem made_cons (h : v.field? s = none) : made s (v :: visits) = v.node :: made s visits := by
  unfold made
  rw [List.filter_cons_of_pos (by rw [h]; rfl), List.map_cons]

theorem mem_made_iff {i : Nat} :
    i ∈ made s visits ↔ ∃ v ∈ visits, v.field? s = none ∧ v.node = i := by
  simp only [made, List.mem_map, List.mem_filter, Option.isNone_iff_eq_none, and_assoc]

theorem mem_named_iff {i : Nat} : i ∈ named s visits ↔ ∃ v ∈ visits, v.field? s = some i := by
  unfold named
  rw [List.mem_filterMap]

end Visit

/-! ## 2. What a visit gives -/

/-- **What a visit gives**, from the draft before it to the draft after it. -/
structure Visit.Gives (s : Scope) (v : Visit) (before after : Draft) : Prop where
  /-- Its node is what its formula is built as. -/
  building : ∃ room, (build s room v.kind v.text).run before = (.ok v.node, after)
  /-- A field gives its own node, and nothing is made. -/
  field : ∀ i, v.field? s = some i → v.node = i ∧ after.graph = before.graph
  /-- Anything else gives a node that was not there, the last that is made. -/
  last : v.field? s = none → before.graph.size ≤ v.node ∧ after.graph.size = v.node + 1

/-- Outer blanks make no difference. -/
theorem build_strip (s : Scope) (room : Nat) (k : Kind) (text : Text) :
    build s room k (strip text) = build s room k text := by
  cases room with
  | zero => rfl
  | succ room => rw [build, build, strip_strip]

/-- A building that succeeds is a visit. -/
theorem Built.gives (h : Built s room k text d root d') :
    Visit.Gives s ⟨k, strip text, root⟩ d d' := by
  refine ⟨⟨room, by rw [build_strip]; exact h.run⟩, fun i hi => ?_, fun hi => ?_⟩
  · have hform : classify s k (strip text) = .bound i := Visit.field?_eq_some_iff.1 hi
    cases h with
    | leaf _ hleaf => exact absurd (hleaf.symm.trans hform) nofun
    | bound _ hbound =>
      cases hbound.symm.trans hform
      exact ⟨rfl, rfl⟩
    | pair hcall | choose hcall | voxel hcall => exact absurd (hcall.form.symm.trans hform) nofun
  · cases h with
    | leaf | voxel => exact ⟨Nat.le_refl _, Graph.size_push _ _⟩
    | bound _ hbound =>
      have hfield := Visit.field?_eq_some_iff (v := ⟨k, strip text, root⟩) |>.2 hbound
      rw [hi] at hfield
      cases hfield
    | pair _ _ left right =>
      exact ⟨(left.starts.trans right.starts).size_le, Graph.size_push _ _⟩
    | choose _ condition whenTrue whenFalse =>
      exact ⟨((condition.starts.trans whenTrue.starts).trans whenFalse.starts).size_le,
        Graph.size_push _ _⟩

/-- A visit on the way from a draft to another, when the visits before it are told. -/
def Visit.Occurs (s : Scope) (d d' : Draft) (earlier : List Visit) (v : Visit) : Prop :=
  ∃ before after, v.Gives s before after ∧
    before.steps.toList = d.steps.toList ++ earlier.map Visit.step ∧
    d.graph.Starts before.graph ∧ after.graph.Starts d'.graph

namespace Visit.Occurs

variable {v : Visit} {earlier visits : List Visit}

/-- It occurs on every longer way. -/
theorem grow (h : v.Occurs s d d₁ earlier) (hgrow : d₁.graph.Starts d₂.graph) :
    v.Occurs s d d₂ earlier := by
  obtain ⟨before, after, hgives, hsteps, hbefore, hafter⟩ := h
  exact ⟨before, after, hgives, hsteps, hbefore, hafter.trans hgrow⟩

/-- It occurs also on a way that starts earlier, after the visits that are told on the way there. -/
theorem later (h : v.Occurs s d₁ d₂ earlier)
    (htold : d₁.steps.toList = d.steps.toList ++ visits.map Visit.step)
    (hgrow : d.graph.Starts d₁.graph) : v.Occurs s d d₂ (visits ++ earlier) := by
  obtain ⟨before, after, hgives, hsteps, hbefore, hafter⟩ := h
  refine ⟨before, after, hgives, ?_, hgrow.trans hbefore, hafter⟩
  rw [hsteps, htold, List.append_assoc, List.map_append]

end Visit.Occurs

/-! ## 3. Passages -/

/-- What is not there has no children. -/
theorem Graph.lt_size_of_mem_childrenOf {g : Graph} {i j : Nat} (h : j ∈ g.childrenOf i) :
    i < g.size := by
  unfold Graph.childrenOf at h
  split at h
  · rename_i n hn
    exact Graph.lt_size_of_node? hn
  · cases h

/-- A node that is added has its own children, and those before it have theirs. -/
theorem Graph.mem_childrenOf_push {g : Graph} {n : Node} {i j : Nat}
    (h : j ∈ (g.push n).childrenOf i) : j ∈ g.childrenOf i ∨ j ∈ n.children := by
  have hi := Graph.lt_size_of_mem_childrenOf h
  rw [Graph.size_push] at hi
  by_cases hnew : i = g.size
  · subst hnew
    unfold Graph.childrenOf at h
    rw [Graph.node?_push_size] at h
    exact .inr h
  · rw [(Graph.Starts.push g n).childrenOf_eq (by omega)] at h
    exact .inl h

/-- **A stretch of a building**: the draft before it, the draft after it, and what is visited on it. -/
structure Passage (s : Scope) (d d' : Draft) (visits : List Visit) : Prop where
  /-- The visits are told one after the other. -/
  told : d'.steps.toList = d.steps.toList ++ visits.map Visit.step
  /-- Nodes are only added at the end of the graph. -/
  starts : d.graph.Starts d'.graph
  /-- Each visit gives its node when those before it are told. -/
  occurs : ∀ earlier v later, visits = earlier ++ v :: later → v.Occurs s d d' earlier
  /-- No two visits make the same node. -/
  nodup : (Visit.made s visits).Nodup
  /-- The nodes that visits make are those that were not there. -/
  mem_made : ∀ i, i ∈ Visit.made s visits ↔ d.graph.size ≤ i ∧ i < d'.graph.size
  /-- A node that was not there has only children that visits give. -/
  parts : ∀ i, d.graph.size ≤ i → ∀ j ∈ d'.graph.childrenOf i, ∃ v ∈ visits, v.node = j

namespace Passage

variable {visits others : List Visit}

/-- Nothing is visited on the way from a draft to itself. -/
theorem nil (s : Scope) (d : Draft) : Passage s d d [] where
  told := (List.append_nil _).symm
  starts := .refl _
  occurs earlier v later h := by simp at h
  nodup := List.nodup_nil
  mem_made i := by
    constructor
    · intro h
      cases h
    · intro h
      omega
  parts i hi j hj := absurd (Graph.lt_size_of_mem_childrenOf hj) (Nat.not_lt.2 hi)

/-- **Two stretches, one after the other.** -/
theorem append (h₁ : Passage s d d₁ visits) (h₂ : Passage s d₁ d₂ others) :
    Passage s d d₂ (visits ++ others) where
  told := by rw [h₂.told, h₁.told, List.append_assoc, List.map_append]
  starts := h₁.starts.trans h₂.starts
  occurs earlier v later h := by
    have second (middle : List Visit) (hothers : others = middle ++ v :: later) :
        v.Occurs s d d₂ (visits ++ middle) :=
      (h₂.occurs middle v later hothers).later h₁.told h₁.starts
    -- the visit is one of the second stretch, or one of the first
    rcases List.append_eq_append_iff.1 h with ⟨middle, rfl, hothers⟩ | ⟨middle, hvisits, hlater⟩
    · exact second middle hothers
    · cases middle with
      | nil =>
        rw [List.append_nil] at hvisits
        subst hvisits
        simpa using second [] hlater.symm
      | cons u middle =>
        cases hlater
        exact (h₁.occurs earlier v middle hvisits).grow h₂.starts
  nodup := by
    rw [Visit.made_append]
    refine h₁.nodup.append h₂.nodup fun i hi hi' => ?_
    have hlt := ((h₁.mem_made i).1 hi).2
    have hge := ((h₂.mem_made i).1 hi').1
    omega
  mem_made i := by
    have hle₁ := h₁.starts.size_le
    have hle₂ := h₂.starts.size_le
    rw [Visit.made_append, List.mem_append, h₁.mem_made, h₂.mem_made]
    omega
  parts i hi j hj := by
    by_cases hold : i < d₁.graph.size
    · rw [h₂.starts.childrenOf_eq hold] at hj
      obtain ⟨v, hv, hnode⟩ := h₁.parts i hi j hj
      exact ⟨v, List.mem_append_left _ hv, hnode⟩
    · obtain ⟨v, hv, hnode⟩ := h₂.parts i (Nat.not_lt.1 hold) j hj
      exact ⟨v, List.mem_append_right _ hv, hnode⟩

/-- The first visit of a stretch is told before the stretch goes on. -/
theorem occurs_cons {v : Visit} {d₃ : Draft} (hfirst : v.Gives s d d')
    (h : Passage s (d.visited v.kind v.text) d₃ visits) (hgrow : d₃.graph.Starts d'.graph) :
    ∀ earlier u later, v :: visits = earlier ++ u :: later → u.Occurs s d d' earlier := by
  intro earlier u later hsplit
  cases earlier with
  | nil =>
    cases hsplit
    exact ⟨d, d', hfirst, (List.append_nil _).symm, .refl _, .refl _⟩
  | cons v' earlier =>
    cases hsplit
    have hoccurs := (h.occurs earlier u later rfl).grow hgrow
    have htold : (d.visited v.kind v.text).steps.toList =
        d.steps.toList ++ [v].map Visit.step := by
      simp [Draft.visited, Visit.step]
    exact hoccurs.later htold (.refl _)

/-- A field is visited. -/
theorem bound {i : Nat} {t : Text} (hgives : Visit.Gives s ⟨k, t, i⟩ d (d.visited k t))
    (hfield : Visit.field? s ⟨k, t, i⟩ = some i) : Passage s d (d.visited k t) [⟨k, t, i⟩] where
  told := by simp [Draft.visited, Visit.step]
  starts := .refl _
  occurs := occurs_cons hgives (nil s _) (.refl _)
  nodup := by
    have hmade : Visit.made s [⟨k, t, i⟩] = [] := by simp [Visit.made, hfield]
    rw [hmade]
    exact List.nodup_nil
  mem_made j := by
    have hmade : Visit.made s [⟨k, t, i⟩] = [] := by simp [Visit.made, hfield]
    rw [hmade, Draft.visited_graph]
    constructor
    · intro h
      cases h
    · intro h
      omega
  parts j hj m hm := absurd (Graph.lt_size_of_mem_childrenOf hm) (Nat.not_lt.2 hj)

/-- **A formula is visited, then its parts, and at last its node is made.** -/
theorem make {t : Text} {n : Node} (h : Passage s (d.visited k t) d₁ visits)
    (hgives : Visit.Gives s ⟨k, t, d₁.graph.size⟩ d (d₁.made n))
    (hfield : Visit.field? s ⟨k, t, d₁.graph.size⟩ = none)
    (hn : ∀ j ∈ n.children, ∃ v ∈ visits, v.node = j) :
    Passage s d (d₁.made n) (⟨k, t, d₁.graph.size⟩ :: visits) where
  told := by
    change d₁.steps.toList = _
    rw [h.told]
    simp [Draft.visited, Visit.step]
  starts := h.starts.trans (.push _ _)
  occurs := occurs_cons hgives h (.push _ _)
  nodup := by
    rw [Visit.made_cons hfield, List.nodup_cons]
    refine ⟨fun hmem => ?_, h.nodup⟩
    exact Nat.lt_irrefl _ ((h.mem_made _).1 hmem).2
  mem_made i := by
    have hle : d.graph.size ≤ d₁.graph.size := h.starts.size_le
    have hsize : (d₁.made n).graph.size = d₁.graph.size + 1 := Graph.size_push _ _
    rw [Visit.made_cons hfield, List.mem_cons, h.mem_made, Draft.visited_graph, hsize]
    dsimp only
    omega
  parts i hi j hj := by
    have hparts : ∃ v ∈ visits, v.node = j := by
      rcases Graph.mem_childrenOf_push hj with hj | hj
      · exact h.parts i hi j hj
      · exact hn j hj
    obtain ⟨v, hv, hnode⟩ := hparts
    exact ⟨v, List.mem_cons_of_mem _ hv, hnode⟩

/-- A formula without parts is visited, and its node is made. -/
theorem alone {t : Text} {n : Node}
    (hgives : Visit.Gives s ⟨k, t, d.graph.size⟩ d ((d.visited k t).made n))
    (hfield : Visit.field? s ⟨k, t, d.graph.size⟩ = none) (hn : n.children = []) :
    Passage s d ((d.visited k t).made n) [⟨k, t, d.graph.size⟩] :=
  .make (.nil s _) hgives hfield (by rw [hn]; exact List.forall_mem_nil _)

end Passage

/-- **A building that succeeds is a passage**, and all that its visits give lies below its root. -/
theorem Built.exists_passage (h : Built s room k text d root d')
    (hfields : ∀ f ∈ s.fields, f.root < d.graph.size) :
    ∃ visits, Passage s d d' (⟨k, strip text, root⟩ :: visits) ∧
      ∀ v ∈ ⟨k, strip text, root⟩ :: visits, d'.graph.Below root v.node := by
  have kept {d d' : Draft} (hgrow : d.graph.Starts d'.graph)
      (hfields : ∀ f ∈ s.fields, f.root < d.graph.size) :
      ∀ f ∈ s.fields, f.root < d'.graph.size :=
    fun f hf => Nat.lt_of_lt_of_le (hfields f hf) hgrow.size_le
  have self (d : Draft) (n : Node) : (d.made n).graph.Below d.graph.size d.graph.size :=
    .self (Nat.lt_of_lt_of_eq (Nat.lt_succ_self _) (Graph.size_push _ _).symm)
  induction h with
  | @leaf room k text d n hne hform =>
    have hbuilt : Built s (room + 1) k text d _ _ := .leaf hne hform
    have hn : n.children = [] := by
      rcases classify_eq_leaf hform with ⟨_, _, _, rfl⟩ | ⟨_, _, _, _, rfl⟩ | ⟨_, _, _, rfl⟩ <;> rfl
    exact ⟨[], .alone hbuilt.gives (Visit.field?_eq_none hform nofun) hn,
      List.forall_mem_singleton.2 (self _ n)⟩
  | @bound room k text d i hne hform =>
    have hbuilt : Built s (room + 1) k text d i _ := .bound hne hform
    obtain ⟨f, hf, rfl⟩ := Option.map_eq_some_iff.1 (classify_eq_bound hform).2.2
    have hroot := hfields f (List.mem_of_find?_eq_some hf)
    exact ⟨[], .bound hbuilt.gives (Visit.field?_eq_some_iff.2 hform),
      List.forall_mem_singleton.2 (.self hroot)⟩
  | @pair _ k text d d₁ d₂ i j call node l r hcall hnode left right ihl ihr =>
    obtain ⟨ls, hl, hbelowl⟩ := ihl hfields
    obtain ⟨rs, hr, hbelowr⟩ := ihr (kept left.starts hfields)
    have hfield : Visit.field? s ⟨k, strip text, d₂.graph.size⟩ = none :=
      Visit.field?_eq_none hcall.form nofun
    have hchildren := Call.children_of_pairNode? hnode (i := i) (j := j)
    refine ⟨_, .make (hl.append hr) (Built.pair hcall hnode left right).gives hfield ?_, ?_⟩
    · rw [hchildren]
      refine List.forall_mem_cons.2 ⟨?_, List.forall_mem_singleton.2 ?_⟩
      · exact ⟨_, List.mem_append_left _ List.mem_cons_self, rfl⟩
      · exact ⟨_, List.mem_append_right _ List.mem_cons_self, rfl⟩
    · refine List.forall_mem_cons.2 ⟨self _ _, List.forall_mem_append.2 ⟨fun v hv => ?_, ?_⟩⟩
      · exact ((hbelowl v hv).grow right.starts).push (by rw [hchildren]; simp)
      · exact fun v hv => (hbelowr v hv).push (by rw [hchildren]; simp)
  | @choose _ k text d d₁ d₂ d₃ h i j p a b hcall condition whenTrue whenFalse ihp iha ihb =>
    obtain ⟨ps, hp, hbelowp⟩ := ihp hfields
    obtain ⟨as, ha, hbelowa⟩ := iha (kept condition.starts hfields)
    obtain ⟨bs, hb, hbelowb⟩ := ihb (kept (condition.starts.trans whenTrue.starts) hfields)
    have hfield : Visit.field? s ⟨k, strip text, d₃.graph.size⟩ = none :=
      Visit.field?_eq_none hcall.form nofun
    refine ⟨_, .make ((hp.append ha).append hb)
      (Built.choose hcall condition whenTrue whenFalse).gives hfield ?_, ?_⟩
    · refine List.forall_mem_cons.2 ⟨?_, List.forall_mem_cons.2 ⟨?_,
        List.forall_mem_singleton.2 ?_⟩⟩
      · exact ⟨_, List.mem_append_left _ (List.mem_append_left _ List.mem_cons_self), rfl⟩
      · exact ⟨_, List.mem_append_left _ (List.mem_append_right _ List.mem_cons_self), rfl⟩
      · exact ⟨_, List.mem_append_right _ List.mem_cons_self, rfl⟩
    · refine List.forall_mem_cons.2 ⟨self _ _, List.forall_mem_append.2
        ⟨List.forall_mem_append.2 ⟨fun v hv => ?_, fun v hv => ?_⟩, fun v hv => ?_⟩⟩
      · exact ((hbelowp v hv).grow (whenTrue.starts.trans whenFalse.starts)).push
          (by simp [Node.children])
      · exact ((hbelowa v hv).grow whenFalse.starts).push (by simp [Node.children])
      · exact (hbelowb v hv).push (by simp [Node.children])
  | @voxel room k text d w id hcall hid =>
    have hbuilt : Built s (room + 1) k text d _ _ := .voxel hcall hid
    exact ⟨[], .alone hbuilt.gives (Visit.field?_eq_none hcall.form nofun) rfl,
      List.forall_mem_singleton.2 (self _ _)⟩

/-! ## 4. What is reachable -/

section Reachable

variable {visits : List Visit}

/-- A field that is named is one of the fields. -/
theorem Visit.exists_field_of_mem_named {i : Nat} (hi : i ∈ named s visits) :
    ∃ f ∈ s.fields, f.root = i := by
  obtain ⟨v, -, hv⟩ := mem_named_iff.1 hi
  obtain ⟨-, -, hfield⟩ := classify_eq_bound (field?_eq_some_iff.1 hv)
  obtain ⟨f, hf, rfl⟩ := Option.map_eq_some_iff.1 hfield
  exact ⟨f, List.mem_of_find?_eq_some hf, rfl⟩

/-- What a visit gives is a node that was not there, or a field that is named. -/
theorem Passage.new_or_named (h : Passage s d d' visits) {v : Visit} (hv : v ∈ visits) :
    (d.graph.size ≤ v.node ∧ v.node < d'.graph.size) ∨ v.node ∈ Visit.named s visits := by
  cases hfield : v.field? s with
  | none => exact .inl ((h.mem_made _).1 (Visit.mem_made_iff.2 ⟨v, hv, hfield, rfl⟩))
  | some i =>
    obtain ⟨earlier, later, hsplit⟩ := List.append_of_mem hv
    obtain ⟨before, after, hgives, -⟩ := h.occurs earlier v later hsplit
    rw [(hgives.field i hfield).1]
    exact .inr (Visit.mem_named_iff.2 ⟨v, hv, hfield⟩)

/-- **What is reachable is what was made, and what is reachable from the fields that were named.** -/
theorem Passage.mem_reachable_iff (h : Passage s d d' visits)
    (hwhole : ∀ f ∈ s.fields, d.graph.Whole f.root)
    (hroot : ∃ v ∈ visits, v.node = root)
    (hbelow : ∀ v ∈ visits, d'.graph.Below root v.node) (j : Nat) :
    j ∈ d'.graph.reachable root ↔ (d.graph.size ≤ j ∧ j < d'.graph.size) ∨
      ∃ i ∈ Visit.named s visits, j ∈ d.graph.reachable i := by
  have hkept : ∀ i ∈ Visit.named s visits, d'.graph.reachable i = d.graph.reachable i := by
    intro i hi
    obtain ⟨f, hf, rfl⟩ := Visit.exists_field_of_mem_named hi
    exact h.starts.reachable_eq (hwhole f hf)
  have hstart : ∀ i ∈ Visit.named s visits, d'.graph.Below i i := by
    intro i hi
    obtain ⟨f, hf, rfl⟩ := Visit.exists_field_of_mem_named hi
    exact .self (Nat.lt_of_lt_of_le (hwhole f hf).lt_size h.starts.size_le)
  have hgiven {v : Visit} (hv : v ∈ visits) : (d.graph.size ≤ v.node ∧ v.node < d'.graph.size) ∨
      ∃ i ∈ Visit.named s visits, d'.graph.Below i v.node :=
    (h.new_or_named hv).imp id fun hi => ⟨_, hi, hstart _ hi⟩
  have hreach : (∃ i ∈ Visit.named s visits, j ∈ d.graph.reachable i) ↔
      ∃ i ∈ Visit.named s visits, d'.graph.Below i j := by
    refine exists_congr fun i => and_congr_right fun hi => ?_
    rw [← hkept i hi, Graph.mem_reachable_iff]
  rw [hreach, Graph.mem_reachable_iff]
  clear hreach
  constructor
  · intro hj
    induction hj with
    | self hi =>
      obtain ⟨v, hv, rfl⟩ := hroot
      exact hgiven hv
    | child above hm hsize ih =>
      -- the node above was made, or lies below a field, and so does its child
      rcases ih with ⟨hnew, -⟩ | ⟨i, hi, hij⟩
      · obtain ⟨v, hv, rfl⟩ := h.parts _ hnew _ hm
        exact hgiven hv
      · exact .inr ⟨i, hi, .child hij hm hsize⟩
  · intro hor
    rcases hor with hnew | ⟨i, hi, hij⟩
    · obtain ⟨v, hv, -, rfl⟩ := Visit.mem_made_iff.1 ((h.mem_made j).2 hnew)
      exact hbelow v hv
    · obtain ⟨v, hv, hfield⟩ := Visit.mem_named_iff.1 hi
      obtain ⟨earlier, later, hsplit⟩ := List.append_of_mem hv
      obtain ⟨before, after, hgives, -⟩ := h.occurs earlier v later hsplit
      have hroot := hbelow v hv
      rw [(hgives.field i hfield).1] at hroot
      exact hroot.trans hij

/-- **How much is reachable**: what was made, and the union of what is reachable from the fields that
    were named. -/
theorem Passage.length_reachable (h : Passage s d d' visits)
    (hwhole : ∀ f ∈ s.fields, d.graph.Whole f.root)
    (hroot : ∃ v ∈ visits, v.node = root)
    (hbelow : ∀ v ∈ visits, d'.graph.Below root v.node) :
    (d'.graph.reachable root).length = (visits.countP fun v => (v.field? s).isNone) +
      ((Visit.named s visits).toFinset.biUnion fun i => (d.graph.reachable i).toFinset).card := by
  have hsets : (d'.graph.reachable root).toFinset = (Visit.made s visits).toFinset ∪
      (Visit.named s visits).toFinset.biUnion fun i => (d.graph.reachable i).toFinset := by
    ext j
    rw [List.mem_toFinset, h.mem_reachable_iff hwhole hroot hbelow, Finset.mem_union,
      List.mem_toFinset, h.mem_made]
    simp
  have hdisjoint : Disjoint (Visit.made s visits).toFinset
      ((Visit.named s visits).toFinset.biUnion fun i => (d.graph.reachable i).toFinset) := by
    rw [Finset.disjoint_left]
    intro j hnew hold
    have hge := ((h.mem_made j).1 (List.mem_toFinset.1 hnew)).1
    obtain ⟨i, -, hj⟩ := Finset.mem_biUnion.1 hold
    have hlt := (Graph.mem_reachable_iff.1 (List.mem_toFinset.1 hj)).lt_size
    omega
  calc (d'.graph.reachable root).length
      = (d'.graph.reachable root).toFinset.card :=
        (List.toFinset_card_of_nodup (Graph.nodup_reachable _ _)).symm
    _ = (Visit.made s visits).toFinset.card + _ := by
        rw [hsets, Finset.card_union_of_disjoint hdisjoint]
    _ = (visits.countP fun v => (v.field? s).isNone) + _ := by
        rw [List.toFinset_card_of_nodup h.nodup, Visit.made, List.length_map,
          ← List.countP_eq_length_filter]

end Reachable

/-- **A building shares exactly the fields**: what it visits, what is made and what is reachable. -/
structure Shares (s : Scope) (k : Kind) (text : Text) (d : Draft) (root : Nat) (d' : Draft)
    (visits : List Visit) : Prop where
  /-- The whole formula is visited first, and gives the root. -/
  first : visits.head? = some ⟨k, strip text, root⟩
  /-- Each formula that is visited gives the node of the field it names, or makes one node. -/
  passage : Passage s d d' visits
  /-- What is reachable is what was made, and what is reachable from the fields that were named. -/
  reachable : ∀ j, j ∈ d'.graph.reachable root ↔ (d.graph.size ≤ j ∧ j < d'.graph.size) ∨
    ∃ i ∈ Visit.named s visits, j ∈ d.graph.reachable i
  /-- What lies below several fields is counted once. -/
  count : (d'.graph.reachable root).length = (visits.countP fun v => (v.field? s).isNone) +
    ((Visit.named s visits).toFinset.biUnion fun i => (d.graph.reachable i).toFinset).card

/-- **What a building that succeeds shares**, if everything below the fields is there. -/
theorem Built.exists_shares (h : Built s room k text d root d')
    (hwhole : ∀ f ∈ s.fields, d.graph.Whole f.root) : ∃ visits, Shares s k text d root d' visits := by
  obtain ⟨visits, hpassage, hbelow⟩ := h.exists_passage fun f hf => (hwhole f hf).lt_size
  have hroot : ∃ v ∈ ⟨k, strip text, root⟩ :: visits, v.node = root :=
    ⟨_, List.mem_cons_self, rfl⟩
  exact ⟨_, rfl, hpassage, hpassage.mem_reachable_iff hwhole hroot hbelow,
    hpassage.length_reachable hwhole hroot hbelow⟩

end Terrain.Formula
