import Terrain.Proofs.Formula.Parts

/-!
# How deep a building goes

A building opens the formula itself, and one inside the other the parts that it comes to: a part is
come to once all parts before it are built. If there is room for all of them the building comes to
what it comes to without a limit, and otherwise it is short of room.

* `Opens s k t n`: building `t` opens a formula with `n` open, itself included.
* `fails_noRoom_iff`: a building is short of room exactly if it opens more formulas than it has room
  for.
* `run_build_eq_buildFully`: otherwise it is the building without a limit.
* `not_fails_noRoom`: no building opens more than half the length of its text, and one.
-/

namespace Terrain.Formula

open Terrain.Text Terrain.Attempt

variable {s : Scope} {k : Kind} {t : Text} {e : Term} {room n : Nat} {d : Draft}

/-- **A building opens a formula with `n` open**, if no limit stops it: itself, or a formula that is
    opened by one of its parts, all parts before that being read. -/
inductive Opens (s : Scope) : Kind → Text → Nat → Prop
  | self {k : Kind} {t : Text} : Opens s k t 1
  | part {k : Kind} {t : Text} {before after : List Part} {q : Part} {n : Nat}
      (hparts : (plan s k (strip t)).parts = before ++ q :: after)
      (hbefore : ∀ p ∈ before, ∃ e, Reading s p.kind p.text e)
      (inside : Opens s q.kind q.text n) : Opens s k t (n + 1)

/-- **No more formulas are open than half the text is long, and one.** -/
theorem Opens.le (h : Opens s k t n) : n ≤ t.length / 2 + 1 := by
  induction h with
  | self => omega
  | @part k t before after q n hparts _ _ ih =>
    have hmem : q ∈ (plan s k (strip t)).parts := by simp [hparts]
    have hle := length_part_of_mem_plan hmem
    omega

/-- A text that is read as a term is not refused, with whatever room. -/
theorem Reading.eq_noRoom_of_fails (h : Reading s k t e) {stop : Stop}
    (hfails : Fails (build s room k t) stop d) : stop = .noRoom := by
  by_contra hne
  -- with room for the term as well, it would be refused and built
  have henough : ¬ Fails (build s room k t) .noRoom d := by
    intro hroom
    unfold Fails at hfails hroom
    rw [hfails] at hroom
    exact hne (Except.error.inj hroom)
  obtain ⟨root, d', hb⟩ := h.built (Nat.le_max_right room e.depth) d
  have hrun := run_build_of_le (Nat.le_max_left room e.depth) henough
  rw [hb.run] at hrun
  unfold Fails at hfails
  rw [← hrun] at hfails
  cases hfails

/-- Parts that are built are read. -/
theorem reading_of_run_mapM_ok {parts : List Part} {roots : List Nat} {d' : Draft}
    (h : (parts.mapM fun q => build s room q.kind q.text).run d = (.ok roots, d')) :
    ∀ q ∈ parts, ∃ e, Reading s q.kind q.text e := by
  intro q hq
  obtain ⟨d₁, root, d₂, hrun⟩ := exists_of_run_mapM_ok h q hq
  obtain ⟨e, he, -⟩ := (built_of_run hrun).reading
  exact ⟨e, he⟩

/-- A building that is short of room opens more formulas than it has room for. -/
theorem exists_opens_of_fails : ∀ {room : Nat} {k : Kind} {t : Text} {d : Draft},
    Fails (build s room k t) .noRoom d → ∃ n, Opens s k t n ∧ room < n
  | 0, _, _, _, _ => ⟨1, .self, Nat.one_pos⟩
  | room + 1, k, t, d, h => by
    rcases fails_build_iff.1 h with ⟨f, -, hstop⟩ | ⟨before, q, after, _, d', hparts, hbefore, hq⟩
    · cases hstop
    · obtain ⟨n, hn, hlt⟩ := exists_opens_of_fails hq
      exact ⟨n + 1, .part hparts (reading_of_run_mapM_ok hbefore) hn, Nat.succ_lt_succ hlt⟩

/-- A building that opens more formulas than it has room for is short of room. -/
theorem Opens.fails (h : Opens s k t n) : ∀ {room : Nat}, room < n → ∀ d : Draft,
    Fails (build s room k t) .noRoom d := by
  induction h with
  | self =>
    intro room hlt d
    obtain rfl : room = 0 := by omega
    rfl
  | @part k t before after q n hparts hbefore inside ih =>
    intro room hlt d
    cases room with
    | zero => rfl
    | succ room =>
      refine fails_build_iff.2 (.inr ?_)
      rcases hrun : (before.mapM fun p => build s room p.kind p.text).run (d.entered k (strip t))
        with ⟨stop | roots, d'⟩
      · -- a part that comes before is read, so it can only be short of room itself
        have hfails : Fails (before.mapM fun p => build s room p.kind p.text) stop
            (d.entered k (strip t)) := by
          unfold Fails
          rw [hrun]
        obtain ⟨earlier, p, later, roots, d₁, rfl, hearlier, hp⟩ := fails_mapM_iff.1 hfails
        obtain ⟨e, he⟩ := hbefore p (by simp)
        obtain rfl := he.eq_noRoom_of_fails hp
        exact ⟨earlier, p, later ++ q :: after, roots, d₁, by simp [hparts], hearlier, hp⟩
      · exact ⟨before, q, after, roots, d', hparts, hrun, ih (Nat.lt_of_succ_lt_succ hlt) d'⟩

/-- **A building is short of room exactly if it opens more formulas than it has room for.** -/
theorem fails_noRoom_iff : Fails (build s room k t) .noRoom d ↔ ∃ n, Opens s k t n ∧ room < n :=
  ⟨exists_opens_of_fails, fun ⟨_, hn, hlt⟩ => hn.fails hlt d⟩

/-- **With room for half the length of the text, and one, a building is never short of room.** -/
theorem not_fails_noRoom (hroom : t.length / 2 < room) : ¬ Fails (build s room k t) .noRoom d := by
  intro h
  obtain ⟨n, hn, hlt⟩ := exists_opens_of_fails h
  have hle := hn.le
  omega

/-- The building without a limit is never short of room. -/
theorem not_fails_buildFully : ¬ Fails (buildFully s k t) .noRoom d :=
  not_fails_noRoom (Nat.lt_succ_of_le (Nat.div_le_self _ _))

/-- **A building that has room for all that it opens is the building without a limit.** -/
theorem run_build_eq_buildFully (h : ∀ n, Opens s k t n → n ≤ room) :
    (build s room k t).run d = (buildFully s k t).run d := by
  have henough : ¬ Fails (build s room k t) .noRoom d := by
    intro hfails
    obtain ⟨n, hn, hlt⟩ := exists_opens_of_fails hfails
    exact Nat.not_lt.2 (h n hn) hlt
  unfold buildFully
  rcases Nat.le_total room (t.length + 1) with hle | hle
  · exact (run_build_of_le hle henough).symm
  · exact run_build_of_le hle not_fails_buildFully

end Terrain.Formula
