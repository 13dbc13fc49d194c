import Terrain.Proofs.Formula.Depth
import Terrain.Proofs.Formula.Grammar

/-!
# The leaves of a formula

A formula that answers a voxel type or a shape is choices, down to leaves that name a type or a
shape. What it answers at a place is what one of its leaves names.

* `Term.leaves` are the ends of the choices of a term.
* `Offers s k t leaf`: the text `t` is a term with this leaf, and the leaf stands in a piece of it.
* `exists_leaf_of_evaluateIn`: an answer is what an offered leaf names.
-/

namespace Terrain.Formula

open Terrain.Text

/-! ## 1. Leaves -/

/-- What a term is at the ends of its choices. -/
def Term.leaves : Term → List Term
  | .choose _ a b => a.leaves ++ b.leaves
  | e => [e]

/-- A leaf names a result: the id of a voxel type, or a shape. -/
inductive Term.Names (s : Scope) : Term → Result → Prop
  | voxel {w : Text} {id : Nat} (hid : s.voxelId w = some id) : Names s (.voxel w) (.voxel id)
  | shape (f : Shape) : Names s (.shape f) (.shape f)

/-- A text is a term with a leaf, and a piece of it is the text of the leaf. -/
structure Offers (s : Scope) (k : Kind) (t : Text) (leaf : Term) : Prop where
  term : ∃ e, Renders s k e t ∧ leaf ∈ e.leaves
  piece : ∃ u, u <:+: t ∧ Renders s k leaf u

variable {s : Scope} {k : Kind} {t : Text} {e leaf : Term} {call : Call} {args : List Text}

/-! ## 2. Leaves in texts -/

/-- A piece stands in the pieces joined. -/
theorem infix_joined {p : Text} : ∀ {ps : List Text}, p ∈ ps → p <:+: joined ps
  | [q], h => by
    rw [List.mem_singleton.1 h]
    exact List.infix_rfl
  | q :: r :: ps, h => by
    rcases List.mem_cons.1 h with rfl | h
    · exact (List.prefix_append p _).isInfix
    · exact (infix_joined h).trans ((List.suffix_cons ',' _).trans (List.suffix_append q _)).isInfix

/-- An argument stands in the text of its call. -/
theorem Called.arg_within {a : Text} (h : Called call args t) (ha : a ∈ args) : a <:+: t := by
  obtain ⟨n, after, -, -, rfl⟩ := h
  exact (infix_joined ha).trans <| (List.prefix_append _ _).isInfix.trans
    ((List.suffix_cons '(' _).trans (List.suffix_append n _)).isInfix

/-- **A leaf of a term stands in a piece of the text of the term.** -/
theorem Renders.exists_piece (h : Renders s k e t) (hleaf : leaf ∈ e.leaves) :
    ∃ u, u <:+: t ∧ Renders s k leaf u := by
  -- what is no choice is its own leaf
  have whole {j : Kind} {f : Term} {v : Text} (hf : Renders s j f v) (hl : leaf ∈ [f]) :
      ∃ u, u <:+: v ∧ Renders s j leaf u := by
    rw [List.mem_singleton.1 hl]
    exact ⟨v, List.infix_rfl, hf⟩
  induction h with
  | choose hk condition whenTrue whenFalse ht _ iha ihb =>
    rcases List.mem_append.1 hleaf with hl | hl
    · obtain ⟨u, hu, hleaf⟩ := iha hl
      exact ⟨u, hu.trans (ht.arg_within (by simp)), hleaf⟩
    · obtain ⟨u, hu, hleaf⟩ := ihb hl
      exact ⟨u, hu.trans (ht.arg_within (by simp)), hleaf⟩
  | literal hw ht => exact whole (.literal hw ht) hleaf
  | field hd hf ht => exact whole (.field hd hf ht) hleaf
  | signal hname hf ht => exact whole (.signal hname hf ht) hleaf
  | shape ht => exact whole (.shape ht) hleaf
  | pair hk left right ht => exact whole (.pair hk left right ht) hleaf
  | voxel hid hw htrim ha ht => exact whole (.voxel hid hw htrim ha ht) hleaf

/-- What a text is read as offers its leaves. -/
theorem Reading.offers (h : Reading s k t e) (hleaf : leaf ∈ e.leaves) : Offers s k t leaf where
  term := ⟨e, h.renders, hleaf⟩
  piece := h.renders.exists_piece hleaf

/-! ## 3. Leaves and answers -/

section Answers

variable {g : Graph} {calls : Calls} {noise : Noise} {c : Context} {room i : Nat} {r : Result}

/-- A call of two numbers gives a number or a truth value. -/
theorem kind_of_pairKind? (h : call.pairKind? = some k) : k = .number ∨ k = .boolean := by
  cases call <;> cases h
  · exact .inl rfl
  · exact .inl rfl
  · exact .inr rfl

/-- What is selected is one of the branches. -/
theorem eq_of_select {a b b' : Except Halt Result} (h : select a b b' = .ok r) :
    b = .ok r ∨ b' = .ok r := by
  cases a with
  | error e => cases h
  | ok x =>
    cases x with
    | boolean v =>
      cases v with
      | true => exact .inl h
      | false => exact .inr h
    | _ => cases h

/-- **What a formula of voxel types or of shapes answers is what one of its leaves names.** -/
theorem exists_leaf_of_evaluateIn (he : Reading s k t e) (hn : k ≠ .number) (hb : k ≠ .boolean)
    (hs : e.Stands s g i) (hr : (g.evaluateIn calls noise c room i).result = .ok r) :
    ∃ leaf, Offers s k t leaf ∧ leaf.Names s r := by
  suffices ∃ leaf ∈ e.leaves, leaf.Names s r by
    obtain ⟨leaf, hleaf, hnames⟩ := this
    exact ⟨leaf, he.offers hleaf, hnames⟩
  induction he generalizing i room with
  | bare _ hbare =>
    cases hbare with
    | literal | field | signal => exact absurd rfl hn
    | shape =>
      obtain ⟨left, rfl⟩ := Graph.exists_left_of_ok hr
      rw [Graph.evaluateIn, show g.node? i = _ from hs] at hr
      cases hr
      exact ⟨_, List.mem_singleton.2 rfl, .shape _⟩
  | pair hcall hnode =>
    rcases kind_of_pairKind? (pairKind?_eq_some_iff.2 ⟨hcall.allowed, _, hnode⟩) with rfl | rfl
    · exact absurd rfl hn
    · exact absurd rfl hb
  | choose _ _ _ _ _ iht ihf =>
    obtain ⟨h, j, m, hi, -, hj, hm⟩ := hs
    obtain ⟨left, rfl⟩ := Graph.exists_left_of_ok hr
    rw [Graph.evaluateIn_choose hi, result_select] at hr
    rcases eq_of_select hr with hbranch | hbranch
    · obtain ⟨leaf, hleaf, hnames⟩ := iht hn hb hj hbranch
      exact ⟨leaf, List.mem_append_left _ hleaf, hnames⟩
    · obtain ⟨leaf, hleaf, hnames⟩ := ihf hn hb hm hbranch
      exact ⟨leaf, List.mem_append_right _ hleaf, hnames⟩
  | voxel =>
    obtain ⟨id, hid, hi⟩ := hs
    obtain ⟨left, rfl⟩ := Graph.exists_left_of_ok hr
    rw [Graph.evaluateIn, hi] at hr
    cases hr
    exact ⟨_, List.mem_singleton.2 rfl, .voxel hid⟩

end Answers

end Terrain.Formula
