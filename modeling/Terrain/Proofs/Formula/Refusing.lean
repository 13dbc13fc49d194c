import Terrain.Proofs.Formula.Parts

/-!
# What a refusal shows

A formula that is refused is shown as far as something is wrong with it: the whole of it, or the
argument that is to blame, or an argument of that. So what is shown stands in the text.

* `Stop.Within`: a building ends for want of room, or shows a piece of a text.
* `plan_ne_tooDeep`: no text is refused for its depth at first sight.
* `build_failsFor`: a building that ends early shows a piece of its text.
-/

namespace Terrain.Formula

open Terrain.Text Terrain.Attempt

variable {s : Scope} {k : Kind} {t u : Text}

/-- A building ends for want of room, or a piece of a text is refused, for something else than its
    depth. -/
def Stop.Within (t : Text) : Stop → Prop
  | .refused r => r.formula <:+: t ∧ r.fault ≠ .tooDeep
  | .noRoom => True

theorem Stop.Within.trans {e : Stop} (he : e.Within u) (hut : u <:+: t) : e.Within t := by
  cases e with
  | refused r => exact ⟨he.1.trans hut, he.2⟩
  | noRoom => trivial

/-- A text that is no formula at first sight is not refused for its depth. -/
theorem classify_ne_tooDeep : classify s k t ≠ .refused .tooDeep := by
  have hbare : bare k t ≠ .refused .tooDeep := by
    cases k with
    | number => unfold bare; cases Signal.named? t <;> simp
    | shape => unfold bare; cases Shape.named? t <;> simp
    | _ => simp [bare]
  intro h
  rcases sight_cases s k t with ⟨d, rfl, hd⟩ | ⟨i, rfl, hd, hi⟩ | hu
  · rw [classify_literal hd] at h
    cases h
  · rw [classify_field hd hi] at h
    cases h
  · rw [classify_unread hu] at h
    split at h
    · cases h
    · exact hbare h

theorem takeApart_ne_tooDeep : takeApart t ≠ .error .tooDeep := by
  unfold takeApart
  dsimp only
  split
  · nofun
  · split <;> nofun

/-- A call is not refused for its depth before its arguments are built. -/
theorem Call.plan_ne_tooDeep {call : Call} {args : List Text} :
    call.plan s k args ≠ .refused .tooDeep := by
  unfold Call.plan
  split
  case h_5 w => cases s.voxelId w <;> simp
  all_goals simp

/-- No text is refused for its depth at first sight. -/
theorem plan_ne_tooDeep : plan s k t ≠ .refused .tooDeep := by
  unfold plan
  split
  · simp
  cases hform : classify s k t with
  | leaf n => nofun
  | bound root => nofun
  | refused f =>
    intro h
    cases h
    exact classify_ne_tooDeep hform
  | call =>
    dsimp only
    cases hparts : takeApart t with
    | error f =>
      intro h
      cases h
      exact takeApart_ne_tooDeep hparts
    | ok parts =>
      dsimp only
      cases k.call? parts.name with
      | none => simp
      | some call => exact call.plan_ne_tooDeep

/-- **A building that ends early shows a piece of its text**, unless there is no room. -/
theorem build_failsFor (s : Scope) : ∀ (room : Nat) (k : Kind) (text : Text),
    FailsFor (Stop.Within text) (build s room k text)
  | 0, k, text => by
    intro e d he
    cases he
    trivial
  | room + 1, k, text => by
    intro e d he
    rcases fails_build_iff.1 he with ⟨f, hplan, rfl⟩ | ⟨before, q, after, _, d', hparts, -, hq⟩
    · refine ⟨strip_piece text, fun hdeep => ?_⟩
      cases hdeep
      exact plan_ne_tooDeep hplan
    · have hmem : q ∈ (plan s k (strip text)).parts := by simp [hparts]
      exact (build_failsFor s room q.kind q.text e d' hq).trans (infix_of_mem_plan hmem)

end Terrain.Formula
