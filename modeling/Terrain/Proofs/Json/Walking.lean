import Terrain.Json.Document
import Terrain.Proofs.Attempt

/-!
# Where a walk over JSON ends

A walk ends at a whole number of too many digits only where a value must start; everywhere else the
number is the wrong token, and that is what is complained of.

* `step_eq_tooManyDigits_iff`: one token.
* `read_eq_tooManyDigits_iff`: a whole text.
-/

namespace Terrain.Json

variable {limits : Limits} {nesting : Nat} {w : Walk} {token : Token} {t : Text} {n : Nat}

/-- A walk waits for a value. -/
def Walk.AwaitsValue (w : Walk) : Prop := w.expected = .value ∨ w.expected = .firstItem

theorem push_ne_tooManyDigits {frames : List Frame} {f : Frame} {e : Expected} :
    Walk.push nesting frames f e ≠ .error (.tooManyDigits n) := by
  unfold Walk.push
  split <;> nofun

/-- Where a value must start, the number of a token is what counts. -/
theorem startValue_eq_tooManyDigits_iff {frames : List Frame} :
    Walk.startValue nesting frames token = .error (.tooManyDigits n) ↔
      token.content = .longNumber n := by
  unfold Walk.startValue
  split
  · rename_i hc
    rw [hc]
    exact ⟨fun h => absurd h push_ne_tooManyDigits, nofun⟩
  · rename_i hc
    rw [hc]
    exact ⟨fun h => absurd h push_ne_tooManyDigits, nofun⟩
  · rename_i hc
    rw [hc]
    exact ⟨nofun, nofun⟩
  · rename_i hc
    rw [hc]
    exact ⟨nofun, nofun⟩
  · rename_i hc
    rw [hc]
    exact ⟨nofun, nofun⟩
  · rename_i m hc
    rw [hc]
    constructor
    · intro h
      cases h
      rfl
    · intro h
      cases h
      rfl
  · rename_i hother
    exact ⟨nofun, fun h => absurd h (hother n)⟩

theorem readName_ne_tooManyDigits {frames : List Frame} :
    Walk.readName frames token ≠ .error (.tooManyDigits n) := by
  unfold Walk.readName
  split <;> nofun

/-- **A token ends the walk for its digits if it is such a number and a value must start.** -/
theorem step_eq_tooManyDigits_iff :
    Walk.step nesting w token = .error (.tooManyDigits n) ↔
      w.AwaitsValue ∧ token.content = .longNumber n := by
  obtain ⟨frames, expected⟩ := w
  unfold Walk.AwaitsValue Walk.step
  cases expected with
  | value =>
    dsimp only
    rw [startValue_eq_tooManyDigits_iff]
    exact ⟨fun h => ⟨.inl rfl, h⟩, And.right⟩
  | firstItem =>
    dsimp only
    split
    · rename_i hc
      rw [hc]
      exact ⟨nofun, fun h => nomatch h.2⟩
    · rw [startValue_eq_tooManyDigits_iff]
      exact ⟨fun h => ⟨.inr rfl, h⟩, And.right⟩
  | firstName =>
    dsimp only
    split
    · exact ⟨nofun, fun h => by rcases h.1 with h | h <;> cases h⟩
    · exact ⟨fun h => absurd h readName_ne_tooManyDigits,
        fun h => by rcases h.1 with h | h <;> cases h⟩
  | name =>
    exact ⟨fun h => absurd h readName_ne_tooManyDigits,
      fun h => by rcases h.1 with h | h <;> cases h⟩
  | colon =>
    dsimp only
    split <;> exact ⟨nofun, fun h => by rcases h.1 with h | h <;> cases h⟩
  | delimiter =>
    dsimp only
    split <;> exact ⟨nofun, fun h => by rcases h.1 with h | h <;> cases h⟩
  | finish v =>
    dsimp only
    split <;> exact ⟨nofun, fun h => by rcases h.1 with h | h <;> cases h⟩

/-- The walk over a text gets to a number of `n` digits, more than the limit, where a value must
    start; all before it is in order. -/
def MeetsLongNumber (limits : Limits) (t : Text) (n : Nat) : Prop :=
  t.head? ≠ some (Char.ofNat 0xFEFF) ∧
    ∃ before token after w, tokens limits.digits t = before ++ token :: after ∧
      before.foldlM (Walk.step limits.nesting) ⟨[], .value⟩ = .ok w ∧
      w.AwaitsValue ∧ token.content = .longNumber n

/-- **A text is refused for its digits if the walk gets to a number of too many.** -/
theorem read_eq_tooManyDigits_iff :
    read limits t = .error (.tooManyDigits n) ↔ MeetsLongNumber limits t n := by
  have hwalk : (tokens limits.digits t).foldlM (Walk.step limits.nesting) ⟨[], .value⟩ =
      .error (.tooManyDigits n) ↔ ∃ before token after w,
        tokens limits.digits t = before ++ token :: after ∧
        before.foldlM (Walk.step limits.nesting) ⟨[], .value⟩ = .ok w ∧
        w.AwaitsValue ∧ token.content = .longNumber n := by
    rw [Attempt.foldlM_eq_error_iff]
    simp only [step_eq_tooManyDigits_iff]
  unfold MeetsLongNumber
  rw [← hwalk]
  unfold read
  dsimp only
  split
  · rename_i hmark
    exact ⟨nofun, fun h => absurd hmark h.1⟩
  · rename_i hmark
    split
    · rename_i h
      rw [h]
      exact ⟨nofun, fun h => nomatch h.2⟩
    · rename_i h
      rw [h]
      exact ⟨nofun, fun h => nomatch h.2⟩
    · rename_i h
      rw [h]
      exact ⟨nofun, fun h => nomatch h.2⟩
    · rename_i h
      rw [h]
      exact ⟨nofun, fun h => nomatch h.2⟩
    · rename_i m h
      rw [h]
      constructor
      · intro he
        cases he
        exact ⟨hmark, rfl⟩
      · intro hex
        obtain ⟨-, he⟩ := hex
        cases he
        rfl

end Terrain.Json
