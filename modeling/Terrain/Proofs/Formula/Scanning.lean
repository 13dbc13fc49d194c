import Terrain.Proofs.Formula.Splitting

/-!
# Scanning and joining

The text after the opening parenthesis of a call either closes the call or trails off. Which of the
two it does, and what its pieces are, can be said by joining pieces instead of reading the text.

* `Closes t rs rest`: the text is the arguments `rs` joined, the closing parenthesis, and a rest.
* `Trails t rs last`: the text is arguments and an unfinished piece joined, and never closes.
* `closes_or_trails`: every text does one of the two.
* `scan_iff_closes`: scanning is the inverse of joining.
-/

namespace Terrain.Formula

open Terrain.Text

/-- The arguments of the text after the opening parenthesis of a call, and the place of the
    parenthesis that closes it, minus one if there is none. -/
def scan (t : Text) : List Text × Int := (arguments t, (closing? t).elim (-1) Int.ofNat)

variable {t rest last : Text} {rs : List Text}

/-! ## 1. Pieces joined -/

/-- The first piece of several is followed by a comma. -/
theorem joined_cons (r : Text) (h : rs ≠ []) : joined (r :: rs) = r ++ ',' :: joined rs := by
  cases rs with
  | nil => exact absurd rfl h
  | cons q qs => rfl

/-- Arguments that are joined have as many parentheses closed as opened. -/
theorem balanced_joined : ∀ {rs : List Text}, (∀ r ∈ rs, Argument r) →
    (joined rs).count '(' = (joined rs).count ')'
  | [], _ => rfl
  | [r], h => (h r List.mem_cons_self).balanced
  | r :: q :: qs, h => by
    have hr := (h r List.mem_cons_self).balanced
    have ih := balanced_joined fun x hx => h x (List.mem_cons_of_mem r hx)
    simp [joined, hr, ih]

/-- Where a text is first cut: all before is an argument, and a comma or the closing parenthesis
    follows. -/
theorem exists_cut_of_levelAfter? : ∀ {t : Text} {depth : Nat}, levelAfter? depth t = none →
    ∃ a c r, t = a ++ c :: r ∧ levelAfter? depth a = some 0 ∧ (c = ',' ∨ c = ')')
  | [], _, h => by cases h
  | x :: t, depth, h => by
    -- a first character that cuts nothing stands before the argument that the rest starts with
    have keep {d : Nat} (hstep : ∀ r, levelAfter? depth (x :: r) = levelAfter? d r) :
        ∃ a c r, x :: t = a ++ c :: r ∧ levelAfter? depth a = some 0 ∧ (c = ',' ∨ c = ')') := by
      rw [hstep] at h
      obtain ⟨a, c, r, rfl, ha, hc⟩ := exists_cut_of_levelAfter? h
      exact ⟨x :: a, c, r, rfl, by rw [hstep, ha], hc⟩
    by_cases ho : x = '('
    · subst ho
      exact keep (levelAfter?_open depth)
    · by_cases hc : x = ')'
      · subst hc
        cases depth with
        | zero => exact ⟨[], ')', t, rfl, rfl, .inr rfl⟩
        | succ d => exact keep (levelAfter?_close d)
      · by_cases hcomma : x = ',' ∧ depth = 0
        · exact ⟨[], x, t, rfl, by rw [hcomma.2]; rfl, .inl hcomma.1⟩
        · exact keep (levelAfter?_plain ho hc fun he hz => hcomma ⟨he, hz⟩)

/-! ## 2. Texts that close, and texts that trail off -/

/-- A text is arguments with commas between them, the parenthesis that closes the call, and a
    rest. -/
structure Closes (t : Text) (rs : List Text) (rest : Text) : Prop where
  ne_nil : rs ≠ []
  argument : ∀ r ∈ rs, Argument r
  text : t = joined rs ++ ')' :: rest

/-- A text is arguments that commas end, and a last piece that no comma and no parenthesis ends. -/
structure Trails (t : Text) (rs : List Text) (last : Text) : Prop where
  argument : ∀ r ∈ rs, Argument r
  unfinished : ∃ d, Reads 0 last d
  text : t = joined (rs ++ [last])

theorem cut_eq_iff_closes : cut t = ⟨rs, some rest⟩ ↔ Closes t rs rest := by
  rw [cut_eq_iff]
  exact ⟨fun ⟨hne, harg, ht⟩ => ⟨hne, harg, ht⟩, fun h => ⟨h.ne_nil, h.argument, h.text⟩⟩

/-- An argument and a comma before a text that closes. -/
theorem Closes.cons {r : Text} (hr : Argument r) (h : Closes t rs rest) :
    Closes (r ++ ',' :: t) (r :: rs) rest where
  ne_nil := List.cons_ne_nil r rs
  argument := List.forall_mem_cons.2 ⟨hr, h.argument⟩
  text := by rw [h.text, joined_cons r h.ne_nil, List.append_assoc, List.cons_append]

/-- An argument and a comma before a text that trails off. -/
theorem Trails.cons {r : Text} (hr : Argument r) (h : Trails t rs last) :
    Trails (r ++ ',' :: t) (r :: rs) last where
  argument := List.forall_mem_cons.2 ⟨hr, h.argument⟩
  unfinished := h.unfinished
  text := by rw [h.text, List.cons_append, joined_cons r (by simp)]

/-- **Every text closes or trails off.** -/
theorem closes_or_trails (t : Text) :
    (∃ rs rest, Closes t rs rest) ∨ ∃ rs last, Trails t rs last := by
  induction hn : t.length using Nat.strongRecOn generalizing t with
  | ind n ih =>
    cases hlevel : levelAfter? 0 t with
    | some d => exact .inr ⟨[], t, nofun, ⟨d, levelAfter?_eq_some_iff.1 hlevel⟩, rfl⟩
    | none =>
      obtain ⟨a, c, r, rfl, ha, hc⟩ := exists_cut_of_levelAfter? hlevel
      have harg : Argument a := argument_iff.2 ha
      rcases hc with rfl | rfl
      · have hr : r.length < n := by
          rw [← hn, List.length_append, List.length_cons]
          omega
        rcases ih r.length hr r rfl with ⟨rs, rest, h⟩ | ⟨rs, last, h⟩
        · exact .inl ⟨a :: rs, rest, h.cons harg⟩
        · exact .inr ⟨a :: rs, last, h.cons harg⟩
      · exact .inl ⟨[a], r, List.cons_ne_nil a [], List.forall_mem_singleton.2 harg, rfl⟩

/-- **A text that trails off is cut into its pieces.** -/
theorem Trails.cut_eq : ∀ {rs : List Text} {t : Text}, Trails t rs last →
    cut t = ⟨rs ++ [last], none⟩
  | [], t, h => by
    obtain ⟨d, hd⟩ := h.unfinished
    obtain rfl : t = last := h.text
    have hcut := cutFrom_append (levelAfter?_eq_some_iff.2 hd) (rfl : cutFrom d [] = ⟨[[]], none⟩)
    rw [List.append_nil] at hcut
    exact hcut
  | r :: rs, t, h => by
    have harg := List.forall_mem_cons.1 h.argument
    have ih : cut (joined (rs ++ [last])) = ⟨rs ++ [last], none⟩ :=
      Trails.cut_eq ⟨harg.2, h.unfinished, rfl⟩
    have hcut := cutFrom_append (argument_iff.1 harg.1) (cutFrom_comma (joined (rs ++ [last])))
    rw [show cutFrom 0 _ = _ from ih, List.append_nil] at hcut
    rw [h.text, List.cons_append, joined_cons r (by simp)]
    exact hcut

/-- Nowhere in a text that trails off are more parentheses closed than opened. -/
theorem Trails.opened : ∀ {rs : List Text} {t p : Text}, Trails t rs last → p <+: t →
    p.count ')' ≤ p.count '('
  | [], t, p, h, hp => by
    obtain ⟨d, hd⟩ := h.unfinished
    obtain rfl : t = last := h.text
    have := hd.opened p hp
    omega
  | r :: rs, t, p, h, hp => by
    obtain ⟨hr, harg⟩ := List.forall_mem_cons.1 h.argument
    have htail : Trails (joined (rs ++ [last])) rs last := ⟨harg, h.unfinished, rfl⟩
    rw [h.text, List.cons_append, joined_cons r (by simp)] at hp
    rcases List.prefix_or_prefix_of_prefix hp (List.prefix_append r _) with hpr | ⟨q, rfl⟩
    · exact hr.opened p hpr
    · -- past the first argument, which is balanced, comes a comma, and then the other pieces
      have hbalanced := hr.balanced
      rcases List.prefix_cons_iff.1 ((List.prefix_append_right_inj r).1 hp) with rfl | ⟨q', rfl, hq⟩
      · simp [hbalanced]
      · have ih := Trails.opened htail hq
        simp only [List.count_append, List.count_cons]
        simp
        omega

/-- Up to the parenthesis that closes a text more parentheses are closed than opened. -/
theorem Closes.closed (h : Closes t rs rest) : ∃ p, p <+: t ∧ p.count '(' < p.count ')' := by
  refine ⟨joined rs ++ [')'], ⟨rest, by rw [h.text]; simp⟩, ?_⟩
  have hbalanced := balanced_joined h.argument
  simp [hbalanced]

/-! ## 3. Scanning -/

/-- **A text that closes is scanned into its arguments**, and the place where it closes. -/
theorem Closes.scan_eq (h : Closes t rs rest) :
    scan t = (rs.map strip, ((joined rs).length : Int)) := by
  have hcut := cut_eq_iff_closes.2 h
  have hplace : t.length - rest.length - 1 = (joined rs).length := by
    rw [h.text, List.length_append, List.length_cons]
    omega
  unfold scan arguments closing?
  rw [hcut]
  simp [Cut.arguments, hplace]

/-- **A text that trails off is scanned into the arguments that commas end.** -/
theorem Trails.scan_eq (h : Trails t rs last) : scan t = (rs.map strip, -1) := by
  have hcut := h.cut_eq
  unfold scan arguments closing?
  rw [hcut]
  simp [Cut.arguments]

/-- A text closes in one way at most. -/
theorem Closes.unique {rs' : List Text} {rest' : Text} (h : Closes t rs rest)
    (h' : Closes t rs' rest') : rs = rs' ∧ rest = rest' := by
  have hcut := (cut_eq_iff_closes.2 h).symm.trans (cut_eq_iff_closes.2 h')
  cases hcut
  exact ⟨rfl, rfl⟩

/-- A text trails off in one way at most. -/
theorem Trails.unique {rs' : List Text} {last' : Text} (h : Trails t rs last)
    (h' : Trails t rs' last') : rs = rs' ∧ last = last' := by
  have hcut := h.cut_eq.symm.trans h'.cut_eq
  rw [Cut.mk.injEq] at hcut
  obtain ⟨hrs, hlast⟩ := List.append_inj' hcut.1 rfl
  exact ⟨hrs, (List.cons.inj hlast).1⟩

/-- **Scanning is the inverse of joining.** A text is scanned into `ps` with a closing parenthesis
    at `e` exactly if it is arguments joined up to there, in one way only, and `ps` are the
    arguments without their outer blanks. Any other text never closes more parentheses than it
    opens; it is scanned into the arguments that its commas end, without the unfinished piece, and
    the place is minus one. What follows the closing parenthesis does not matter. -/
theorem scan_iff_closes (t : Text) :
    (∀ (ps : List Text) (e : Nat), scan t = (ps, (e : Int)) ↔
      ∃ rs rest, Closes t rs rest ∧ e = (joined rs).length ∧ ps = rs.map strip) ∧
    (∀ rs rest rs' rest', Closes t rs rest → Closes t rs' rest' → rs = rs' ∧ rest = rest') ∧
    ((¬ ∃ rs rest, Closes t rs rest) ↔ ∀ p, p <+: t → p.count ')' ≤ p.count '(') ∧
    ((¬ ∃ rs rest, Closes t rs rest) → ∃ rs last, Trails t rs last ∧
      (∀ rs' last', Trails t rs' last' → rs = rs' ∧ last = last') ∧
      scan t = (rs.map strip, -1)) ∧
    (∀ rs rest rest', Closes t rs rest → scan (joined rs ++ ')' :: rest') = scan t) ∧
    arguments t = (scan t).1 := by
  refine ⟨fun ps e => ⟨fun h => ?_, ?_⟩, fun rs rest rs' rest' h h' => h.unique h',
    ⟨fun hno => ?_, ?_⟩, fun hno => ?_, fun rs rest rest' h => ?_, rfl⟩
  · rcases closes_or_trails t with ⟨rs, rest, hc⟩ | ⟨rs, last, ht⟩
    · rw [hc.scan_eq, Prod.mk.injEq, Int.natCast_inj] at h
      exact ⟨rs, rest, hc, h.2.symm, h.1.symm⟩
    · rw [ht.scan_eq, Prod.mk.injEq] at h
      omega
  · intro hex
    obtain ⟨rs, rest, hc, rfl, rfl⟩ := hex
    exact hc.scan_eq
  · obtain ⟨rs, last, ht⟩ := (closes_or_trails t).resolve_left hno
    exact fun p hp => ht.opened hp
  · rintro hopened ⟨rs, rest, hc⟩
    obtain ⟨p, hp, hlt⟩ := hc.closed
    exact absurd (hopened p hp) (Nat.not_le.2 hlt)
  · obtain ⟨rs, last, ht⟩ := (closes_or_trails t).resolve_left hno
    exact ⟨rs, last, ht, fun rs' last' h' => ht.unique h', ht.scan_eq⟩
  · have hc : Closes (joined rs ++ ')' :: rest') rs rest' := ⟨h.ne_nil, h.argument, rfl⟩
    rw [hc.scan_eq, h.scan_eq]

example : scan "f(a, b) , c)d".toList = (["f(a, b)".toList, ['c']], 11) := by decide

end Terrain.Formula
