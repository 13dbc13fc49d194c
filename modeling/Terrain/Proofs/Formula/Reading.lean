import Terrain.Proofs.Formula.Building

/-!
# What a text is read as

A building that succeeds reads the text as a term: the formula without its blanks, with its calls
taken apart. The term does not depend on the room nor on what was built before.

* `Reading s k t e`: as a formula of kind `k`, the text `t` is read as the term `e`.
* `Reading.unique`: a text is read as one term at most.
* `Built.reading`, `Reading.built`: a building succeeds exactly if its text is read as a term that
  is no deeper than the room, and the node it gives stands for the term.
-/

namespace Terrain.Formula

open Terrain.Text

/-! ## 1. Terms -/

/-- A formula without its blanks: a literal, a name, or a call with its arguments. -/
inductive Term where
  | literal (d : Number.Decimal)
  | field (name : Text)
  | signal (s : Signal)
  | shape (s : Shape)
  | voxel (name : Text)
  | pair (call : Call) (left right : Term)
  | choose (condition whenTrue whenFalse : Term)

/-- How many formulas of a term lie one inside the other; a field is one, however it is made. -/
def Term.depth : Term → Nat
  | .pair _ l r => max l.depth r.depth + 1
  | .choose p a b => max p.depth (max a.depth b.depth) + 1
  | _ => 1

/-- A node of a graph stands for a term: it is made like it, down to the fields. -/
def Term.Stands (s : Scope) (g : Graph) : Term → Nat → Prop
  | .literal d, i => g.node? i = some (.const d.toFloat)
  | .field name, i => s.field? name = some i
  | .signal sig, i => g.node? i = some (.signal sig)
  | .shape form, i => g.node? i = some (.shape form)
  | .voxel w, i => ∃ id, s.voxelId w = some id ∧ g.node? i = some (.voxel w id)
  | .pair call l r, i => ∃ node j m, call.pairNode? = some node ∧
      g.node? i = some (node j m) ∧ l.Stands s g j ∧ r.Stands s g m
  | .choose p a b, i => ∃ h j m, g.node? i = some (.choose h j m) ∧
      p.Stands s g h ∧ a.Stands s g j ∧ b.Stands s g m

variable {s : Scope} {g h : Graph} {k : Kind} {t : Text} {e f : Term}

/-- A node stands for the same term in a graph that grew. -/
theorem Term.Stands.grow (hgh : g.Starts h) : ∀ {e : Term} {i : Nat},
    e.Stands s g i → e.Stands s h i
  | .literal _, _, he => hgh.node?_of_some he
  | .field _, _, he => he
  | .signal _, _, he => hgh.node?_of_some he
  | .shape _, _, he => hgh.node?_of_some he
  | .voxel _, _, ⟨id, hid, he⟩ => ⟨id, hid, hgh.node?_of_some he⟩
  | .pair _ _ _, _, ⟨node, j, m, hnode, he, hl, hr⟩ =>
    ⟨node, j, m, hnode, hgh.node?_of_some he, hl.grow hgh, hr.grow hgh⟩
  | .choose _ _ _, _, ⟨i, j, m, he, hp, ha, hb⟩ =>
    ⟨i, j, m, hgh.node?_of_some he, hp.grow hgh, ha.grow hgh, hb.grow hgh⟩

/-! ## 2. Readings -/

/-- A text without outer blanks is read as a term at first sight. -/
inductive Bare (s : Scope) : Kind → Text → Term → Prop
  | literal {t : Text} {d : Number.Decimal} (hd : Number.Decimal.read? t = some d) :
      Bare s .number t (.literal d)
  | field {t : Text} (hd : Number.Decimal.read? t = none) (hf : s.field? t ≠ none) :
      Bare s .number t (.field t)
  | signal {t : Text} {sig : Signal} (hu : Unread s .number t)
      (hsig : Signal.named? t = some sig) : Bare s .number t (.signal sig)
  | shape {t : Text} {shape : Shape} (hshape : Shape.named? t = some shape) :
      Bare s .shape t (.shape shape)

/-- **A text is read as a term**, as a formula of a kind. -/
inductive Reading (s : Scope) : Kind → Text → Term → Prop
  | bare {k : Kind} {t : Text} {e : Term} (hne : strip t ≠ []) (he : Bare s k (strip t) e) :
      Reading s k t e
  | pair {k : Kind} {t : Text} {call : Call} {node : Nat → Nat → Node} {l r : Text} {el er : Term}
      (hcall : IsCall s k t call [l, r]) (hnode : call.pairNode? = some node)
      (left : Reading s .number l el) (right : Reading s .number r er) :
      Reading s k t (.pair call el er)
  | choose {k : Kind} {t : Text} {p a b : Text} {ep ea eb : Term}
      (hcall : IsCall s k t .choose [p, a, b]) (condition : Reading s .boolean p ep)
      (whenTrue : Reading s k a ea) (whenFalse : Reading s k b eb) :
      Reading s k t (.choose ep ea eb)
  | voxel {k : Kind} {t : Text} {w : Text} (hcall : IsCall s k t .voxel [w])
      (hid : s.voxelId w ≠ none) : Reading s k t (.voxel w)

/-! ## 3. Readings are unique -/

/-- What is read at first sight is no call. -/
theorem Bare.not_isCall {call : Call} {args : List Text} (he : Bare s k (strip t) e) :
    ¬ IsCall s k t call args := by
  intro hcall
  obtain ⟨ho, hu⟩ := classify_eq_call_iff.1 hcall.form
  generalize strip t = u at he ho hu
  cases he with
  | literal hd =>
    rw [(hu rfl).1] at hd
    cases hd
  | field _ hf => exact hf (hu rfl).2
  | signal _ hsig =>
    rw [signal_named?_of_open ho] at hsig
    cases hsig
  | shape hshape =>
    rw [shape_named?_of_open ho] at hshape
    cases hshape

theorem Bare.unique (he : Bare s k t e) (hf : Bare s k t f) : e = f := by
  cases he with
  | literal hd =>
    cases hf with
    | literal hd' =>
      rw [hd] at hd'
      cases hd'
      rfl
    | field hd' => rw [hd] at hd'; cases hd'
    | signal hu => rw [(hu rfl).1] at hd; cases hd
  | field hd hn =>
    cases hf with
    | literal hd' => rw [hd] at hd'; cases hd'
    | field => rfl
    | signal hu => exact absurd (hu rfl).2 hn
  | signal hu hsig =>
    cases hf with
    | literal hd => rw [(hu rfl).1] at hd; cases hd
    | field _ hn => exact absurd (hu rfl).2 hn
    | signal _ hsig' =>
      rw [hsig] at hsig'
      cases hsig'
      rfl
  | shape hshape =>
    cases hf with
    | shape hshape' =>
      rw [hshape] at hshape'
      cases hshape'
      rfl

/-- A text is one call at most, with one list of arguments, whatever it is to answer. -/
theorem IsCall.unique {k' : Kind} {c c' : Call} {as as' : List Text} (h : IsCall s k t c as)
    (h' : IsCall s k' t c' as') : c = c' ∧ as = as' := by
  have hparts := h.parts
  rw [h'.parts, Except.ok.injEq, Parts.mk.injEq] at hparts
  exact ⟨Call.name_injective hparts.1.symm, hparts.2.symm⟩

/-- **A text is read as one term at most.** -/
theorem Reading.unique (he : Reading s k t e) : ∀ {f : Term}, Reading s k t f → e = f := by
  induction he with
  | bare _ he =>
    intro f hf
    cases hf with
    | bare _ hf => exact he.unique hf
    | pair hcall | choose hcall | voxel hcall => exact absurd hcall he.not_isCall
  | pair hcall hnode _ _ ihl ihr =>
    intro f hf
    cases hf with
    | bare _ hf => exact absurd hcall hf.not_isCall
    | pair hcall' _ hl hr =>
      obtain ⟨rfl, hargs⟩ := hcall.unique hcall'
      cases hargs
      rw [ihl hl, ihr hr]
    | choose hcall' | voxel hcall' =>
      obtain ⟨rfl, -⟩ := hcall.unique hcall'
      cases hnode
  | choose hcall _ _ _ ihp iha ihb =>
    intro f hf
    cases hf with
    | bare _ hf => exact absurd hcall hf.not_isCall
    | pair hcall' hnode =>
      obtain ⟨rfl, -⟩ := hcall.unique hcall'
      cases hnode
    | choose hcall' hp ha hb =>
      obtain ⟨-, hargs⟩ := hcall.unique hcall'
      cases hargs
      rw [ihp hp, iha ha, ihb hb]
    | voxel hcall' => cases (hcall.unique hcall').1
  | voxel hcall =>
    intro f hf
    cases hf with
    | bare _ hf => exact absurd hcall hf.not_isCall
    | pair hcall' hnode =>
      obtain ⟨rfl, -⟩ := hcall.unique hcall'
      cases hnode
    | choose hcall' => cases (hcall.unique hcall').1
    | voxel hcall' =>
      cases (hcall.unique hcall').2
      rfl

/-! ## 4. Buildings and readings -/

section Buildings

variable {room : Nat} {d d' : Draft} {root : Nat}

/-- **A building that succeeds reads its text**, within its room, and the node it gives stands for
    the term. -/
theorem Built.reading (hb : Built s room k t d root d') :
    ∃ e, Reading s k t e ∧ e.depth ≤ room ∧ e.Stands s d'.graph root := by
  induction hb with
  | leaf hne hform =>
    rcases classify_eq_leaf hform with ⟨d, rfl, hd, rfl⟩ | ⟨sig, rfl, hu, hsig, rfl⟩ |
      ⟨shape, rfl, hshape, rfl⟩
    · exact ⟨_, .bare hne (.literal hd), Nat.le_add_left _ _, Graph.node?_push_size _ _⟩
    · exact ⟨_, .bare hne (.signal hu hsig), Nat.le_add_left _ _, Graph.node?_push_size _ _⟩
    · exact ⟨_, .bare hne (.shape hshape), Nat.le_add_left _ _, Graph.node?_push_size _ _⟩
  | bound hne hform =>
    obtain ⟨rfl, hd, hf⟩ := classify_eq_bound hform
    exact ⟨_, .bare hne (.field hd (by simp [hf])), Nat.le_add_left _ _, hf⟩
  | pair hcall hnode hl hr ihl ihr =>
    obtain ⟨el, hel, hdl, hsl⟩ := ihl
    obtain ⟨er, her, hdr, hsr⟩ := ihr
    have hgrow := Graph.Starts.push
    refine ⟨_, .pair hcall hnode hel her, ?_, _, _, _, hnode, Graph.node?_push_size _ _,
      (hsl.grow hr.starts).grow (hgrow _ _), hsr.grow (hgrow _ _)⟩
    simp only [Term.depth]
    omega
  | choose hcall hp ha hb ihp iha ihb =>
    obtain ⟨ep, hep, hdp, hsp⟩ := ihp
    obtain ⟨ea, hea, hda, hsa⟩ := iha
    obtain ⟨eb, heb, hdb, hsb⟩ := ihb
    have hgrow := Graph.Starts.push
    refine ⟨_, .choose hcall hep hea heb, ?_, _, _, _, Graph.node?_push_size _ _,
      (hsp.grow (ha.starts.trans hb.starts)).grow (hgrow _ _),
      (hsa.grow hb.starts).grow (hgrow _ _), hsb.grow (hgrow _ _)⟩
    simp only [Term.depth]
    omega
  | voxel hcall hid =>
    exact ⟨_, .voxel hcall (by simp [hid]), Nat.le_add_left _ _, _, hid,
      Graph.node?_push_size _ _⟩

/-- The node that a building gives stands for the term that its text is read as. -/
theorem Built.stands (hb : Built s room k t d root d') (he : Reading s k t e) :
    e.Stands s d'.graph root := by
  obtain ⟨f, hf, -, hstands⟩ := hb.reading
  rwa [he.unique hf]

/-- **A text that is read within the room is built**, whatever was built before. -/
theorem Reading.built (he : Reading s k t e) : ∀ {room : Nat}, e.depth ≤ room → ∀ d : Draft,
    ∃ root d', Built s room k t d root d' := by
  -- a term is never of depth zero, so there is room for one formula at least
  have hroom : ∀ {n room : Nat}, n + 1 ≤ room → ∃ r, room = r + 1 ∧ n ≤ r :=
    fun {n room} h => ⟨room - 1, by omega, by omega⟩
  induction he with
  | bare hne hbare =>
    intro room hdepth d
    have hone : 0 + 1 ≤ room := by
      cases hbare <;> exact hdepth
    obtain ⟨r, rfl, -⟩ := hroom hone
    generalize hu : strip _ = u at hne hbare
    subst hu
    cases hbare with
    | literal hd => exact ⟨_, _, .leaf hne (classify_literal hd)⟩
    | field hd hf =>
      obtain ⟨root, hroot⟩ := Option.ne_none_iff_exists'.1 hf
      exact ⟨_, _, .bound hne (classify_field hd hroot)⟩
    | signal hu hsig => exact ⟨_, _, .leaf hne (classify_signal hu hsig)⟩
    | shape hshape => exact ⟨_, _, .leaf hne (classify_shape hshape)⟩
  | pair hcall hnode _ _ ihl ihr =>
    intro room hdepth d
    obtain ⟨r, rfl, hmax⟩ := hroom hdepth
    obtain ⟨i, d₁, hl⟩ := ihl (Nat.le_trans (Nat.le_max_left _ _) hmax) (d.visited _ (strip _))
    obtain ⟨j, d₂, hr⟩ := ihr (Nat.le_trans (Nat.le_max_right _ _) hmax) d₁
    exact ⟨_, _, .pair hcall hnode hl hr⟩
  | choose hcall _ _ _ ihp iha ihb =>
    intro room hdepth d
    obtain ⟨r, rfl, hmax⟩ := hroom hdepth
    rw [Nat.max_le, Nat.max_le] at hmax
    obtain ⟨h, d₁, hp⟩ := ihp hmax.1 (d.visited _ (strip _))
    obtain ⟨i, d₂, ha⟩ := iha hmax.2.1 d₁
    obtain ⟨j, d₃, hb⟩ := ihb hmax.2.2 d₂
    exact ⟨_, _, .choose hcall hp ha hb⟩
  | voxel hcall hid =>
    intro room hdepth d
    obtain ⟨r, rfl, -⟩ := hroom (n := 0) hdepth
    obtain ⟨id, hid⟩ := Option.ne_none_iff_exists'.1 hid
    exact ⟨_, _, .voxel hcall hid⟩

end Buildings

end Terrain.Formula
