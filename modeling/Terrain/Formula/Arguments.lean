import Terrain.Text.Blank

/-!
# The arguments of a call

The inside of a call is cut at its commas and ends at its closing parenthesis; commas and
parentheses inside inner calls do neither.

* `cut` reads the text once, with the number of parentheses that are open. Put together again with
  their commas and the closing parenthesis, the pieces are the text (`Cut.text_cut`), so a piece
  is always shorter than the call it stands in.
* `Cut.arguments` are the pieces without the blanks around them. A call that is never closed has
  no last argument: the piece that was being read is dropped.
-/

namespace Terrain.Formula

open Terrain.Text

/-! ## 1. Cutting -/

/-- A text cut at its commas up to its closing parenthesis: the pieces, of which there is at least
    one, and what follows the parenthesis, or nothing if there is none. -/
structure Cut where
  pieces : List Text
  after : Option Text
  deriving DecidableEq, Repr

/-- A character put before the first piece. -/
def Cut.prepend (c : Char) (k : Cut) : Cut :=
  match k.pieces with
  | [] => ⟨[[c]], k.after⟩
  | p :: ps => ⟨(c :: p) :: ps, k.after⟩

/-- The text cut where no parenthesis is open but the call's own, `depth` more being open at its
    start. -/
def cutFrom : Nat → Text → Cut
  | _, [] => ⟨[[]], none⟩
  | depth, c :: r =>
    if c = '(' then (cutFrom (depth + 1) r).prepend c
    else if c = ')' then
      match depth with
      | 0 => ⟨[[]], some r⟩
      | d + 1 => (cutFrom d r).prepend c
    else if c = ',' ∧ depth = 0 then
      let k := cutFrom 0 r
      ⟨[] :: k.pieces, k.after⟩
    else (cutFrom depth r).prepend c

/-- The text after the opening parenthesis of a call, cut into its pieces. -/
def cut (t : Text) : Cut := cutFrom 0 t

/-! ## 2. Arguments -/

/-- The arguments of a call: its pieces without the blanks around them, the unfinished piece of a
    call that is never closed left out. -/
def Cut.arguments (k : Cut) : List Text :=
  (if k.after.isSome then k.pieces else k.pieces.dropLast).map strip

/-- The arguments of the text after the opening parenthesis of a call. -/
def arguments (t : Text) : List Text := (cut t).arguments

/-- The place of the closing parenthesis. -/
def closing? (t : Text) : Option Nat := (cut t).after.map fun rest => t.length - rest.length - 1

/-! ## 3. Nothing is lost -/

/-- The pieces with commas between them. -/
def joined : List Text → Text
  | [] => []
  | [p] => p
  | p :: q :: ps => p ++ ',' :: joined (q :: ps)

/-- The text a cut stands for. -/
def Cut.text (k : Cut) : Text :=
  joined k.pieces ++ (match k.after with | none => [] | some r => ')' :: r)

theorem pieces_prepend_ne_nil (c : Char) (k : Cut) : (k.prepend c).pieces ≠ [] := by
  unfold Cut.prepend; split <;> simp

theorem pieces_cutFrom_ne_nil (depth : Nat) (t : Text) : (cutFrom depth t).pieces ≠ [] := by
  cases t with
  | nil => simp [cutFrom]
  | cons c r =>
    unfold cutFrom
    split
    · exact pieces_prepend_ne_nil _ _
    · split
      · split
        · simp
        · exact pieces_prepend_ne_nil _ _
      · split
        · simp
        · exact pieces_prepend_ne_nil _ _

theorem Cut.text_prepend (c : Char) (k : Cut) (h : k.pieces ≠ []) :
    (k.prepend c).text = c :: k.text := by
  obtain ⟨ps, a⟩ := k
  match ps, h with
  | [p], _ => simp [Cut.prepend, Cut.text, joined]
  | p :: q :: qs, _ => simp [Cut.prepend, Cut.text, joined]

/-- Cutting loses nothing. -/
theorem Cut.text_cutFrom (t : Text) : ∀ depth, (cutFrom depth t).text = t := by
  induction t with
  | nil => intro depth; simp [cutFrom, Cut.text, joined]
  | cons c r ih =>
    intro depth
    have hp (d : Nat) : ((cutFrom d r).prepend c).text = c :: r := by
      rw [Cut.text_prepend c _ (pieces_cutFrom_ne_nil d r), ih d]
    unfold cutFrom
    split
    · exact hp _
    · split
      · split
        · rename_i h _; simp [Cut.text, joined, h]
        · exact hp _
      · split
        · rename_i h
          have hne := pieces_cutFrom_ne_nil 0 r
          have := ih 0
          revert this hne
          cases hk : (cutFrom 0 r).pieces with
          | nil => intro hne; exact absurd rfl hne
          | cons p ps => intro _ this; simp_all [Cut.text, joined]
        · exact hp _

theorem Cut.text_cut (t : Text) : (cut t).text = t := Cut.text_cutFrom t 0

/-- A piece is no longer than all pieces joined. -/
theorem length_le_joined {p : Text} : ∀ {ps : List Text}, p ∈ ps → p.length ≤ (joined ps).length
  | [q], h => by simp at h; subst h; simp [joined]
  | q :: r :: ps, h => by
    rcases List.mem_cons.1 h with rfl | h
    · simp [joined]
    · have := length_le_joined h
      simp only [joined, List.length_append, List.length_cons]; omega

end Terrain.Formula
