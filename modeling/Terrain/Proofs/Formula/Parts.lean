import Terrain.Proofs.Formula.Leaves
import Terrain.Proofs.Formula.Reading
import Terrain.Proofs.Formula.Splitting

/-!
# The parts of a formula

What is to be made of a formula is known before any of its arguments is looked at: it is refused,
or it is a node that is bound already, or it is a node over parts that are formulas themselves.
Building it is building the parts from left to right, and then the node.

* `plan`: what is to be made of a text.
* `run_build_plan`: a building carries out the plan of its text.
* `fails_build_iff`: it fails at its own text, or at the first of its parts that fails.
* `exists_comesTo_build`: whether it fails, and for what, does not depend on what was built before.
* `sameUnless_build`: with more room it comes to the same, unless it is short of room.
-/

namespace Terrain.Formula

open Terrain.Text Terrain.Attempt

variable {s : Scope} {k : Kind} {t text : Text} {room : Nat} {d : Draft} {e : Stop}

/-! ## 1. Plans -/

/-- A text that is to be a formula of a kind. -/
structure Part where
  kind : Kind
  text : Text
  deriving DecidableEq, Repr

/-- What is to be made of a formula: nothing, a node that is there, or a node over parts, which it
    names by their places. -/
inductive Plan where
  | refused (f : Fault)
  | bound (root : Nat)
  | node (n : Node) (parts : List Part)

/-- The parts that are to be built, from left to right. -/
def Plan.parts : Plan → List Part
  | .node _ parts => parts
  | _ => []

/-- What is to be made of a call. -/
def Call.plan (s : Scope) (k : Kind) (call : Call) (args : List Text) : Plan :=
  match call, args with
  | .add, [l, r] => .node (.add 0 1) [⟨.number, l⟩, ⟨.number, r⟩]
  | .subtract, [l, r] => .node (.subtract 0 1) [⟨.number, l⟩, ⟨.number, r⟩]
  | .less, [l, r] => .node (.less 0 1) [⟨.number, l⟩, ⟨.number, r⟩]
  | .choose, [p, a, b] => .node (.choose 0 1 2) [⟨.boolean, p⟩, ⟨k, a⟩, ⟨k, b⟩]
  | .voxel, [w] =>
    match s.voxelId w with
    | some id => .node (.voxel w id) []
    | none => .refused (.unknownVoxel w)
  | call, args => .refused (.arity call.name.toList call.arity args.length)

/-- What is to be made of a text without outer blanks, as a formula of a kind. -/
def plan (s : Scope) (k : Kind) (t : Text) : Plan :=
  if t = [] then .refused .empty
  else
    match classify s k t with
    | .leaf n => .node n []
    | .bound root => .bound root
    | .refused f => .refused f
    | .call =>
      match takeApart t with
      | .error f => .refused f
      | .ok parts =>
        match k.call? parts.name with
        | none => .refused (.unsupported k parts.name)
        | some call => call.plan s k parts.arguments

/-- Carries out the plan of a text, where `sub` builds the parts. -/
def Plan.carryOut (sub : Kind → Text → Build Nat) (t : Text) : Plan → Build Nat
  | .refused f => refuse f t
  | .bound root => return root
  | .node n parts => do
    let roots ← parts.mapM fun p => sub p.kind p.text
    makeNode (n.rename fun i => roots.getD i 0)

/-! ## 2. Buildings carry out plans -/

/-- A call is built as planned. -/
theorem buildCall_eq (s : Scope) (sub : Kind → Text → Build Nat) (k : Kind) (t : Text) (call : Call)
    (args : List Text) : buildCall s sub k t call args = (call.plan s k args).carryOut sub t := by
  unfold buildCall Call.plan
  split
  case h_5 w =>
    change _ = (match s.voxelId w with
      | some id => Plan.node (.voxel w id) []
      | none => .refused (.unknownVoxel w)).carryOut sub t
    cases s.voxelId w <;> rfl
  all_goals simp [Plan.carryOut, buildPair, Node.rename]

/-- The draft once a text is looked at: it is told, unless it is empty. -/
def Draft.entered (d : Draft) (k : Kind) (t : Text) : Draft := if t = [] then d else d.visited k t

/-- **A formula that is opened carries out the plan of its text.** -/
theorem run_opened_plan (sub : Kind → Text → Build Nat) : (opened s sub k text).run d =
    ((plan s k (strip text)).carryOut sub (strip text)).run (d.entered k (strip text)) := by
  unfold plan Draft.entered
  by_cases hne : strip text = []
  · rw [opened, hne]
    rfl
  rw [run_opened hne, if_neg hne, if_neg hne]
  unfold buildForm
  cases hform : classify s k (strip text) with
  | leaf n =>
    -- a node that is made at first sight has no children
    rcases classify_eq_leaf hform with ⟨_, _, _, rfl⟩ | ⟨_, _, _, _, rfl⟩ | ⟨_, _, _, rfl⟩ <;> rfl
  | bound root => rfl
  | refused f => rfl
  | call =>
    dsimp only
    cases takeApart (strip text) with
    | error f => rfl
    | ok parts =>
      dsimp only
      cases k.call? parts.name with
      | none => rfl
      | some call =>
        dsimp only
        rw [buildCall_eq]

/-- **A building carries out the plan of its text.** -/
theorem run_build_plan : (build s (room + 1) k text).run d =
    ((plan s k (strip text)).carryOut (build s room) (strip text)).run
      (d.entered k (strip text)) :=
  run_opened_plan (build s room)

/-- A plan fails at its own text, or at the first of its parts that fails. -/
theorem Plan.fails_carryOut_iff {p : Plan} {sub : Kind → Text → Build Nat} :
    Fails (p.carryOut sub t) e d ↔
      (∃ f, p = .refused f ∧ e = .refused ⟨f, t⟩) ∨
      ∃ before q after roots d', p.parts = before ++ q :: after ∧
        (before.mapM fun q => sub q.kind q.text).run d = (.ok roots, d') ∧
        Fails (sub q.kind q.text) e d' := by
  cases p with
  | refused f =>
    constructor
    · intro h
      cases h
      exact .inl ⟨f, rfl, rfl⟩
    · intro hor
      rcases hor with ⟨f', hf, rfl⟩ | ⟨before, q, after, roots, d', h, -⟩
      · cases hf
        rfl
      · simp [Plan.parts] at h
  | bound root =>
    constructor
    · nofun
    · intro hor
      rcases hor with ⟨f', hf, -⟩ | ⟨before, q, after, roots, d', h, -⟩
      · cases hf
      · simp [Plan.parts] at h
  | node n parts =>
    unfold Plan.carryOut
    rw [fails_bind_iff, fails_mapM_iff]
    constructor
    · intro hor
      rcases hor with h | ⟨roots, d', -, h⟩
      · exact .inr h
      · cases h
    · intro hor
      rcases hor with ⟨f', hf, -⟩ | h
      · cases hf
      · exact .inl h

/-- **A building fails at its own text, or at the first of its parts that fails.** -/
theorem fails_build_iff : Fails (build s (room + 1) k text) e d ↔
    (∃ f, plan s k (strip text) = .refused f ∧ e = .refused ⟨f, strip text⟩) ∨
    ∃ before q after roots d', (plan s k (strip text)).parts = before ++ q :: after ∧
      (before.mapM fun q => build s room q.kind q.text).run (d.entered k (strip text)) =
        (.ok roots, d') ∧
      Fails (build s room q.kind q.text) e d' := by
  rw [← Plan.fails_carryOut_iff]
  unfold Fails
  rw [run_build_plan]

/-! ## 3. What parts are -/

/-- Without its outer blanks, a text is a piece of itself. -/
theorem strip_piece (t : Text) : strip t <:+: t := by
  obtain ⟨a, b, -, -, ht⟩ := padded_strip t
  exact ⟨a, b, ht.symm⟩

/-- An argument of a call is a piece of the call. -/
theorem infix_of_takeApart {parts : Parts} (h : takeApart t = .ok parts) :
    ∀ a ∈ parts.arguments, a <:+: t := by
  obtain ⟨n, ps, rest, -, -, -, -, rfl, rfl⟩ := takeApart_eq_ok_iff.1 h
  intro a ha
  obtain ⟨p, hp, rfl⟩ := List.mem_map.1 ha
  exact (strip_piece p).trans <| (infix_joined hp).trans <| (List.prefix_append _ _).isInfix.trans
    ((List.suffix_cons '(' _).trans (List.suffix_append n _)).isInfix

/-- The parts of a call are arguments of it. -/
theorem Call.text_mem_of_mem_plan {call : Call} {args : List Text} :
    ∀ q ∈ (call.plan s k args).parts, q.text ∈ args := by
  unfold Call.plan
  split
  case h_5 w => cases s.voxelId w <;> simp [Plan.parts]
  all_goals simp [Plan.parts]

/-- A formula with parts is a call, and its parts are arguments of it. -/
theorem exists_takeApart_of_mem_plan {q : Part} (hq : q ∈ (plan s k t).parts) :
    ∃ parts, takeApart t = .ok parts ∧ q.text ∈ parts.arguments := by
  unfold plan at hq
  split at hq
  · cases hq
  split at hq
  · cases hq
  · cases hq
  · cases hq
  split at hq
  · cases hq
  rename_i parts hparts
  split at hq
  · cases hq
  · exact ⟨parts, hparts, Call.text_mem_of_mem_plan q hq⟩

/-- A part is a piece of the text. -/
theorem infix_of_mem_plan {q : Part} (hq : q ∈ (plan s k (strip text)).parts) :
    q.text <:+: text := by
  obtain ⟨parts, hparts, hmem⟩ := exists_takeApart_of_mem_plan hq
  exact (infix_of_takeApart hparts _ hmem).trans (strip_piece text)

/-- A part and the two parentheses of the text it stands in are no longer than the text. -/
theorem length_part_of_mem_plan {q : Part} (hq : q ∈ (plan s k (strip text)).parts) :
    q.text.length + 2 ≤ text.length := by
  obtain ⟨parts, hparts, hmem⟩ := exists_takeApart_of_mem_plan hq
  exact Nat.le_trans (length_argument_of_takeApart hparts hmem) (length_strip_le text)

/-! ## 4. What a building does not depend on -/

/-- **Whether a building fails, and for what, does not depend on what was built before.** -/
theorem exists_comesTo_build (s : Scope) : ∀ (room : Nat) (k : Kind) (text : Text),
    ∃ v, ComesTo v (build s room k text)
  | 0, _, _ => ⟨.error .noRoom, fun _ => rfl⟩
  | room + 1, k, text => by
    suffices ∃ v, ComesTo v ((plan s k (strip text)).carryOut (build s room) (strip text)) by
      obtain ⟨v, hv⟩ := this
      refine ⟨v, fun d => ?_⟩
      rw [run_build_plan]
      exact hv _
    cases plan s k (strip text) with
    | refused f => exact ⟨.error (.refused ⟨f, strip text⟩), fun _ => rfl⟩
    | bound root => exact ⟨.ok (), fun _ => rfl⟩
    | node n parts =>
      obtain ⟨v, hv⟩ := exists_comesTo_mapM (l := parts)
        fun q _ => exists_comesTo_build s room q.kind q.text
      exact ⟨_, hv.bind (w := .ok ()) fun _ _ => rfl⟩

/-- **With more room a building comes to the same**, unless it is short of room. -/
theorem sameUnless_build (s : Scope) : ∀ {room more : Nat}, room ≤ more →
    ∀ (k : Kind) (text : Text), SameUnless (· = .noRoom) (build s room k text) (build s more k text)
  | 0, _, _, _, _ => fun _ => .inl ⟨.noRoom, rfl, rfl⟩
  | room + 1, more + 1, hle, k, text => by
    suffices SameUnless (· = Stop.noRoom)
        ((plan s k (strip text)).carryOut (build s room) (strip text))
        ((plan s k (strip text)).carryOut (build s more) (strip text)) by
      intro d
      rw [run_build_plan, run_build_plan]
      unfold Fails
      rw [run_build_plan]
      exact this _
    cases plan s k (strip text) with
    | refused f => exact .refl _ _
    | bound root => exact .refl _ _
    | node n parts =>
      exact .bind (.mapM fun q _ => sameUnless_build s (Nat.le_of_succ_le_succ hle) q.kind q.text)
        fun _ => .refl _ _

/-- What is built, or refused, is the same with more room. -/
theorem run_build_of_le {more : Nat} (hle : room ≤ more)
    (h : ¬ Fails (build s room k text) .noRoom d) :
    (build s more k text).run d = (build s room k text).run d := by
  rcases sameUnless_build s hle k text d with ⟨_, rfl, hfails⟩ | hsame
  · exact absurd hfails h
  · exact hsame

/-- What is refused is refused with more room, whatever was built before. -/
theorem fails_build_of_le {more : Nat} {r : Refusal} (hle : room ≤ more)
    (h : Fails (build s room k text) (.refused r) d) (d' : Draft) :
    Fails (build s more k text) (.refused r) d' := by
  obtain ⟨v, hv⟩ := exists_comesTo_build s more k text
  have hmore : Fails (build s more k text) (.refused r) d := by
    unfold Fails at h ⊢
    rw [run_build_of_le hle (by unfold Fails; rw [h]; nofun)]
    exact h
  exact hv.fails_iff.2 (hv.fails_iff.1 hmore)

/-- What is built is built with more room, whatever was built before. -/
theorem exists_gives_build_of_le {more root : Nat} (hle : room ≤ more)
    (h : Gives (build s room k text) root d) (d' : Draft) :
    ∃ root', Gives (build s more k text) root' d' := by
  obtain ⟨v, hv⟩ := exists_comesTo_build s more k text
  have hmore : Gives (build s more k text) root d := by
    unfold Gives at h ⊢
    rw [run_build_of_le hle (by unfold Fails; rw [h]; nofun)]
    exact h
  exact hv.exists_gives_iff.2 (hv.exists_gives_iff.1 ⟨root, hmore⟩)

end Terrain.Formula
