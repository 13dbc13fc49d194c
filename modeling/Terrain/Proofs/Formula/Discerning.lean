import Terrain.Proofs.Formula.Grammar
import Terrain.Proofs.Formula.Kinds

/-!
# What kind a formula is of

Three of the four kinds of formulas share the choice, and a choice is of the kind that its branches
are of. Down to its branches, a formula tells its kind: a name of a shape is no number, unless a
field has that name, and every other call belongs to one kind.

* `Scope.Discerns`: no field is named like a shape or like a call.
* `Reading.kind_unique`: a text is read as a term of one kind at most.
* `kind_unique_of_gives`: a text is built as a formula of one kind at most.
-/

namespace Terrain.Formula

open Terrain.Text Terrain.Attempt

variable {s : Scope} {k k' : Kind} {t : Text} {e f : Term} {call : Call} {args : List Text}

/-! ## 1. Formulas without arguments -/

/-- **No field is named like a shape or like a call.** -/
structure Scope.Discerns (s : Scope) : Prop where
  closed : ∀ f ∈ s.fields, '(' ∉ f.name
  noShape : ∀ f ∈ s.fields, ∀ shape : Shape, f.name ≠ shape.name.toList

/-- What is read at first sight has no parenthesis. -/
theorem Bare.closed (hs : s.Discerns) (he : Bare s k t e) : '(' ∉ t := by
  intro hopen
  cases he with
  | literal hd =>
    rw [read?_of_open hopen] at hd
    cases hd
  | field _ hf =>
    obtain ⟨f, hmem, rfl⟩ := exists_of_field? hf
    exact hs.closed f hmem hopen
  | signal _ hsig =>
    rw [signal_named?_of_open hopen] at hsig
    cases hsig
  | shape hshape =>
    rw [shape_named?_of_open hopen] at hshape
    cases hshape

/-- The name of a shape is no number. -/
theorem Bare.not_shape (hs : s.Discerns) (he : Bare s .number t e) : Shape.named? t = none := by
  rw [Option.eq_none_iff_forall_ne_some]
  intro shape hshape
  obtain rfl := shape_named?_eq_some_iff.1 hshape
  cases he with
  | literal hd =>
    have hnone : Number.Decimal.read? shape.name.toList = none := by cases shape <;> decide
    rw [hnone] at hd
    cases hd
  | field _ hf =>
    obtain ⟨f, hmem, hname⟩ := exists_of_field? hf
    exact hs.noShape f hmem shape hname
  | signal _ hsig =>
    have hnone : Signal.named? shape.name.toList = none := by cases shape <;> decide
    rw [hnone] at hsig
    cases hsig

/-- At first sight a text is of one kind at most. -/
theorem Bare.kind_unique (hs : s.Discerns) (he : Bare s k t e) (hf : Bare s k' t f) : k = k' := by
  -- a shape is a shape, and all the rest are numbers
  have number_or_shape {k : Kind} {e : Term} (he : Bare s k t e) :
      k = .number ∨ k = .shape ∧ Shape.named? t ≠ none := by
    cases he with
    | shape hshape => exact .inr ⟨rfl, by simp [hshape]⟩
    | _ => exact .inl rfl
  rcases number_or_shape he with rfl | ⟨rfl, hshape⟩ <;>
    rcases number_or_shape hf with rfl | ⟨rfl, hshape'⟩
  · rfl
  · exact absurd (he.not_shape hs) hshape'
  · exact absurd (hf.not_shape hs) hshape
  · rfl

/-! ## 2. Calls -/

/-- A text that is read at first sight is no call, whatever it is to answer. -/
theorem IsCall.not_bare (hs : s.Discerns) (h : IsCall s k t call args) :
    ¬ Bare s k' (strip t) e :=
  fun he => he.closed hs (classify_eq_call_iff.1 h.form).1

/-- A call of two numbers belongs to one kind. -/
theorem kind_unique_of_pairNode? {node : Nat → Nat → Node} (hnode : call.pairNode? = some node)
    (hmem : call ∈ k.calls) (hmem' : call ∈ k'.calls) : k = k' :=
  Option.some.inj <|
    (pairKind?_eq_some_iff.2 ⟨hmem, node, hnode⟩).symm.trans
      (pairKind?_eq_some_iff.2 ⟨hmem', node, hnode⟩)

/-- **A text is read as a term of one kind at most.** -/
theorem Reading.kind_unique (hs : s.Discerns) (he : Reading s k t e) :
    ∀ {k' : Kind} {f : Term}, Reading s k' t f → k = k' := by
  induction he with
  | bare _ he =>
    intro k' f hf
    cases hf with
    | bare _ hf => exact he.kind_unique hs hf
    | pair hcall | choose hcall | voxel hcall => exact absurd he (hcall.not_bare hs)
  | pair hcall hnode =>
    intro k' f hf
    cases hf with
    | bare _ hf => exact absurd hf (hcall.not_bare hs)
    | pair hcall' =>
      obtain ⟨rfl, -⟩ := hcall.unique hcall'
      exact kind_unique_of_pairNode? hnode hcall.allowed hcall'.allowed
    | choose hcall' | voxel hcall' =>
      obtain ⟨rfl, -⟩ := hcall.unique hcall'
      cases hnode
  | choose hcall _ _ _ _ iha =>
    intro k' f hf
    cases hf with
    | bare _ hf => exact absurd hf (hcall.not_bare hs)
    | pair hcall' hnode =>
      obtain ⟨rfl, -⟩ := hcall.unique hcall'
      cases hnode
    | choose hcall' _ ha =>
      -- both choices have the same branches, and are of the kind that the first of them is of
      obtain ⟨-, hargs⟩ := hcall.unique hcall'
      cases hargs
      exact iha ha
    | voxel hcall' => cases (hcall.unique hcall').1
  | voxel hcall =>
    intro k' f hf
    cases hf with
    | bare _ hf => exact absurd hf (hcall.not_bare hs)
    | pair hcall' hnode =>
      obtain ⟨rfl, -⟩ := hcall.unique hcall'
      cases hnode
    | choose hcall' => cases (hcall.unique hcall').1
    | voxel hcall' =>
      rw [eq_voxel_of_mem_calls hcall.allowed, eq_voxel_of_mem_calls hcall'.allowed]

/-! ## 3. Buildings -/

section Buildings

variable {room room' root root' : Nat} {d d' : Draft}

/-- What is built is read. -/
theorem exists_reading_of_gives (h : Gives (build s room k t) root d) : ∃ e, Reading s k t e := by
  obtain ⟨d', hrun⟩ := gives_iff.1 h
  obtain ⟨e, he, -⟩ := (built_of_run hrun).reading
  exact ⟨e, he⟩

/-- **A text is built as a formula of one kind at most**, if no field is named like a shape or like
    a call. -/
theorem kind_unique_of_gives (hs : s.Discerns) (h : Gives (build s room k t) root d)
    (h' : Gives (build s room' k' t) root' d') : k = k' := by
  obtain ⟨e, he⟩ := exists_reading_of_gives h
  obtain ⟨f, hf⟩ := exists_reading_of_gives h'
  exact he.kind_unique hs hf

/-- A choice between a field and a number. -/
def hillChoice : Text := "If(Less(Depth, 3), hills, 2)".toList

theorem kind_unique_of_gives_hills : hillScope.Discerns ∧
    Gives (build hillScope 3 .number hillChoice) 4 .empty ∧
    ¬ ∃ room root d, Gives (build hillScope room .shape hillChoice) root d := by
  have hs : hillScope.Discerns := by
    constructor
    · decide
    · intro f hf shape
      rw [List.mem_singleton.1 hf]
      cases shape <;> decide
  have hnumber : Gives (build hillScope 3 .number hillChoice) 4 .empty := by
    unfold Gives
    decide +kernel
  refine ⟨hs, hnumber, fun hex => ?_⟩
  obtain ⟨room, root, d, hshape⟩ := hex
  cases kind_unique_of_gives hs hnumber hshape

/-- A field that is named like a shape is a number, and the shape. -/
example : Gives (build ⟨fun _ => none, [⟨"CUBE".toList, 0⟩]⟩ 1 .number "CUBE".toList) 0 .empty ∧
    Gives (build ⟨fun _ => none, [⟨"CUBE".toList, 0⟩]⟩ 1 .shape "CUBE".toList) 0 .empty := by
  unfold Gives
  decide +kernel

end Buildings

end Terrain.Formula
