import Terrain.Formula.Build
import Terrain.Proofs.Text.Strip

/-!
# Splitting calls

A call is split where no parenthesis but its own is open. What stands between two such places is an
argument: its parentheses are balanced, and it has no comma outside them.

* `Argument` says this by counting, `levelAfter?` by reading once; they agree (`argument_iff`).
* `cut_eq_iff`: a text is cut into pieces up to a closing parenthesis exactly if the pieces are
  arguments and the text is the pieces joined, the parenthesis and the rest.
* `takeApart_eq_ok_iff`: what a call is taken apart into.
* `length_joined_of_takeApart`: the arguments of a call fit in it, so each is shorter than the call.
-/

namespace Terrain.Formula

open Terrain.Text

/-! ## 1. Levels -/

/-- A text read with `depth` parentheses open before it and `d` after it: nowhere are more closed
    than opened, and a comma stands only where one is open. -/
structure Reads (depth : Nat) (t : Text) (d : Nat) : Prop where
  opened : ∀ p, p <+: t → p.count ')' ≤ depth + p.count '('
  level : d + t.count ')' = depth + t.count '('
  comma : ∀ p r, t = p ++ ',' :: r → p.count ')' < depth + p.count '('

/-- A text that can stand as one argument of a call: nowhere are more parentheses closed than
    opened, in the end as many, and a comma stands only where one is open. -/
structure Argument (t : Text) : Prop where
  opened : ∀ p, p <+: t → p.count ')' ≤ p.count '('
  balanced : t.count '(' = t.count ')'
  comma : ∀ p r, t = p ++ ',' :: r → p.count ')' < p.count '('

/-- The number of parentheses open after a text, `depth` being open before it; nothing if the text
    would be cut on the way. -/
def levelAfter? : Nat → Text → Option Nat
  | depth, [] => some depth
  | depth, c :: r =>
    if c = '(' then levelAfter? (depth + 1) r
    else if c = ')' then
      match depth with
      | 0 => none
      | d + 1 => levelAfter? d r
    else if c = ',' ∧ depth = 0 then none
    else levelAfter? depth r

theorem levelAfter?_cons (depth : Nat) (c : Char) (r : Text) :
    levelAfter? depth (c :: r) =
      if c = '(' then levelAfter? (depth + 1) r
      else if c = ')' then
        match depth with
        | 0 => none
        | d + 1 => levelAfter? d r
      else if c = ',' ∧ depth = 0 then none
      else levelAfter? depth r := by
  rw [levelAfter?.eq_def]

theorem levelAfter?_open (depth : Nat) (r : Text) :
    levelAfter? depth ('(' :: r) = levelAfter? (depth + 1) r := by
  simp [levelAfter?]

theorem levelAfter?_close (depth : Nat) (r : Text) :
    levelAfter? (depth + 1) (')' :: r) = levelAfter? depth r := by
  simp [levelAfter?]

theorem levelAfter?_plain {c : Char} (ho : c ≠ '(') (hc : c ≠ ')') {depth : Nat}
    (hcomma : c = ',' → depth ≠ 0) (r : Text) :
    levelAfter? depth (c :: r) = levelAfter? depth r := by
  rw [levelAfter?_cons, if_neg ho, if_neg hc, if_neg fun h => hcomma h.1 h.2]

theorem levelAfter?_append (a b : Text) : ∀ depth,
    levelAfter? depth (a ++ b) = (levelAfter? depth a).bind (levelAfter? · b) := by
  induction a with
  | nil => intro depth; rfl
  | cons c r ih =>
    intro depth
    rw [List.cons_append, levelAfter?_cons, levelAfter?_cons]
    split
    · exact ih _
    · split
      · cases depth with
        | zero => rfl
        | succ d => exact ih _
      · split
        · rfl
        · exact ih _

/-- With more parentheses open, no fewer texts are read through. -/
theorem levelAfter?_add {a : Text} (n : Nat) : ∀ {depth d : Nat},
    levelAfter? depth a = some d → levelAfter? (depth + n) a = some (d + n) := by
  induction a with
  | nil =>
    intro depth d h
    cases h
    rfl
  | cons c r ih =>
    intro depth d h
    rw [levelAfter?_cons] at h
    split at h
    · rename_i ho
      rw [ho, levelAfter?_open, Nat.add_right_comm]
      exact ih h
    · rename_i ho
      split at h
      · rename_i hc
        cases depth with
        | zero => cases h
        | succ e =>
          rw [hc, Nat.add_right_comm, levelAfter?_close]
          exact ih h
      · rename_i hc
        split at h
        · cases h
        · rename_i hcomma
          rw [levelAfter?_plain ho hc (fun he hz => hcomma ⟨he, by omega⟩)]
          exact ih h

/-- A text without parentheses and commas is read through. -/
theorem levelAfter?_of_plain {a : Text} (h : ∀ c ∈ a, c ≠ '(' ∧ c ≠ ')' ∧ c ≠ ',') (depth : Nat) :
    levelAfter? depth a = some depth := by
  induction a with
  | nil => rfl
  | cons c r ih =>
    obtain ⟨ho, hc, hcomma⟩ := h c List.mem_cons_self
    rw [levelAfter?_plain ho hc fun he => absurd he hcomma]
    exact ih fun x hx => h x (List.mem_cons_of_mem _ hx)

/-- The first character changes the level, and the rest is read at the new one. -/
theorem reads_cons_iff {c : Char} {r : Text} {depth depth' d : Nat}
    (h : depth' + [c].count ')' = depth + [c].count '(') (hcomma : c = ',' → 0 < depth) :
    Reads depth (c :: r) d ↔ Reads depth' r d := by
  have hcount (x : Char) (q : Text) : (c :: q).count x = [c].count x + q.count x := by
    rw [← List.singleton_append, List.count_append]
  constructor
  · intro hr
    refine ⟨fun q hq => ?_, ?_, fun q r' hq => ?_⟩
    · have := hr.opened (c :: q) ((List.prefix_cons_inj c).2 hq)
      rw [hcount ')' q, hcount '(' q] at this
      omega
    · have := hr.level
      rw [hcount ')' r, hcount '(' r] at this
      omega
    · have := hr.comma (c :: q) r' (by rw [hq]; rfl)
      rw [hcount ')' q, hcount '(' q] at this
      omega
  · intro hr
    refine ⟨fun p hp => ?_, ?_, fun p r' hp => ?_⟩
    · cases p with
      | nil => simp
      | cons x q =>
        obtain ⟨rfl, hq⟩ := List.cons_prefix_cons.1 hp
        have := hr.opened q hq
        rw [hcount ')' q, hcount '(' q]
        omega
    · have := hr.level
      rw [hcount ')' r, hcount '(' r]
      omega
    · cases p with
      | nil =>
        obtain ⟨rfl, -⟩ := List.cons.inj hp
        simpa using hcomma rfl
      | cons x q =>
        obtain ⟨rfl, hq⟩ := List.cons.inj hp
        have := hr.comma q r' hq
        rw [hcount ')' q, hcount '(' q]
        omega

/-- What reading a text once tells, said by counting. -/
theorem levelAfter?_eq_some_iff {t : Text} : ∀ {depth d : Nat},
    levelAfter? depth t = some d ↔ Reads depth t d := by
  induction t with
  | nil =>
    intro depth d
    constructor
    · intro h
      cases h
      refine ⟨fun p hp => ?_, by simp, fun p r h => by simp at h⟩
      rw [List.prefix_nil.1 hp]
      simp
    · intro h
      have := h.level
      simp only [List.count_nil, Nat.add_zero] at this
      rw [levelAfter?, this]
  | cons c r ih =>
    intro depth d
    rw [levelAfter?_cons]
    split
    · rename_i ho
      subst ho
      have hstep : depth + 1 + ['('].count ')' = depth + ['('].count '(' := by simp
      rw [ih, reads_cons_iff hstep (by simp)]
    · rename_i ho
      split
      · rename_i hc
        subst hc
        cases depth with
        | zero =>
          refine ⟨nofun, fun h => ?_⟩
          have := h.opened [')'] ⟨r, rfl⟩
          simp at this
        | succ e =>
          have hstep : e + [')'].count ')' = e + 1 + [')'].count '(' := by simp
          rw [ih, reads_cons_iff hstep (by simp)]
      · rename_i hc
        split
        · rename_i hcomma
          refine ⟨nofun, fun h => ?_⟩
          have := h.comma [] r (by rw [hcomma.1]; rfl)
          simp [hcomma.2] at this
        · rename_i hcomma
          have hpos : c = ',' → 0 < depth := fun he => Nat.pos_of_ne_zero fun hz => hcomma ⟨he, hz⟩
          have hsame : depth + [c].count ')' = depth + [c].count '(' := by
            simp [ho, hc]
          rw [ih, reads_cons_iff hsame hpos]

/-- **An argument is a text that is read through from level zero to level zero.** -/
theorem argument_iff {t : Text} : Argument t ↔ levelAfter? 0 t = some 0 := by
  rw [levelAfter?_eq_some_iff]
  constructor
  · intro hex
    obtain ⟨ho, hb, hc⟩ := hex
    exact ⟨fun p hp => by simpa using ho p hp, by omega, fun p r h => by simpa using hc p r h⟩
  · intro hex
    obtain ⟨ho, hb, hc⟩ := hex
    exact ⟨fun p hp => by simpa using ho p hp, by omega, fun p r h => by simpa using hc p r h⟩

theorem Argument.nil : Argument [] := argument_iff.2 rfl

/-- A text without parentheses and commas is an argument. -/
theorem Argument.of_plain {t : Text} (h : ∀ c ∈ t, c ≠ '(' ∧ c ≠ ')' ∧ c ≠ ',') : Argument t :=
  argument_iff.2 (levelAfter?_of_plain h 0)

theorem Argument.append {a b : Text} (ha : Argument a) (hb : Argument b) : Argument (a ++ b) := by
  rw [argument_iff] at *
  rw [levelAfter?_append, ha]
  exact hb

/-- Arguments with commas between them are read through where a parenthesis is open. -/
theorem levelAfter?_joined {depth : Nat} : ∀ {args : List Text}, (∀ a ∈ args, Argument a) →
    levelAfter? (depth + 1) (joined args) = some (depth + 1)
  | [], _ => rfl
  | [a], h => by
    have ha := levelAfter?_add (depth + 1) (argument_iff.1 (h a List.mem_cons_self))
    rwa [Nat.zero_add] at ha
  | a :: b :: args, h => by
    have ha := levelAfter?_add (depth + 1) (argument_iff.1 (h a List.mem_cons_self))
    rw [Nat.zero_add] at ha
    rw [joined, levelAfter?_append, ha, Option.bind_some,
      levelAfter?_plain (by decide) (by decide) fun _ => Nat.succ_ne_zero depth]
    exact levelAfter?_joined fun x hx => h x (List.mem_cons_of_mem _ hx)

/-- A call is an argument. -/
theorem Argument.call {name after : Text} {args : List Text} (hname : Argument name)
    (hargs : ∀ a ∈ args, Argument a) (hafter : Argument after) :
    Argument (name ++ '(' :: (joined args ++ ')' :: after)) := by
  rw [argument_iff] at *
  rw [levelAfter?_append, hname, Option.bind_some, levelAfter?_open, levelAfter?_append,
    levelAfter?_joined hargs, Option.bind_some, levelAfter?_close]
  exact hafter

/-! ## 2. Cutting -/

/-- A text that is read through goes before the first piece. -/
theorem cutFrom_append {a : Text} : ∀ {depth d : Nat} {r p : Text} {ps : List Text}
    {after : Option Text}, levelAfter? depth a = some d → cutFrom d r = ⟨p :: ps, after⟩ →
    cutFrom depth (a ++ r) = ⟨(a ++ p) :: ps, after⟩ := by
  induction a with
  | nil =>
    intro depth d r p ps after h hcut
    cases h
    exact hcut
  | cons c a ih =>
    intro depth d r p ps after h hcut
    rw [levelAfter?_cons] at h
    rw [List.cons_append, cutFrom.eq_def]
    dsimp only
    split at h
    · rename_i ho
      rw [if_pos ho, ih h hcut]
      rfl
    · rename_i ho
      rw [if_neg ho]
      split at h
      · rename_i hc
        rw [if_pos hc]
        cases depth with
        | zero => cases h
        | succ e =>
          dsimp only at h ⊢
          rw [ih h hcut]
          rfl
      · rename_i hc
        rw [if_neg hc]
        split at h
        · cases h
        · rename_i hcomma
          rw [if_neg hcomma, ih h hcut]
          rfl

theorem cutFrom_close (r : Text) : cutFrom 0 (')' :: r) = ⟨[[]], some r⟩ := by
  simp [cutFrom]

theorem cutFrom_comma (r : Text) :
    cutFrom 0 (',' :: r) = ⟨[] :: (cutFrom 0 r).pieces, (cutFrom 0 r).after⟩ := by
  simp [cutFrom]

/-- **Arguments that are joined and closed are cut into themselves.** -/
theorem cut_joined {rest : Text} : ∀ {args : List Text}, args ≠ [] → (∀ a ∈ args, Argument a) →
    cut (joined args ++ ')' :: rest) = ⟨args, some rest⟩
  | [], hne, _ => absurd rfl hne
  | [a], _, h => by
    have ha := argument_iff.1 (h a List.mem_cons_self)
    have hcut := cutFrom_append ha (cutFrom_close rest)
    rwa [List.append_nil] at hcut
  | a :: b :: args, _, h => by
    have ha := argument_iff.1 (h a List.mem_cons_self)
    have ih : cut (joined (b :: args) ++ ')' :: rest) = ⟨b :: args, some rest⟩ :=
      cut_joined (List.cons_ne_nil b args) fun x hx => h x (List.mem_cons_of_mem _ hx)
    have hcut := cutFrom_append ha (cutFrom_comma (joined (b :: args) ++ ')' :: rest))
    rw [show cutFrom 0 _ = _ from ih, List.append_nil] at hcut
    rw [joined, List.append_assoc]
    exact hcut

/-- A character before the first of the pieces. -/
theorem Cut.prepend_cons (c : Char) (p : Text) (ps : List Text) (after : Option Text) :
    Cut.prepend c ⟨p :: ps, after⟩ = ⟨(c :: p) :: ps, after⟩ := rfl

/-- The first piece of a text that is closed is read down to level zero, and the others are
    arguments. -/
theorem cutFrom_closed {rest : Text} : ∀ {t : Text} {depth : Nat} {ps : List Text},
    cutFrom depth t = ⟨ps, some rest⟩ →
    ∃ p qs, ps = p :: qs ∧ levelAfter? depth p = some 0 ∧ ∀ q ∈ qs, Argument q := by
  intro t
  induction t with
  | nil => intro depth ps h; simp [cutFrom] at h
  | cons c r ih =>
    -- a character that cuts nothing is read before the first piece of the rest
    have keep (depth d : Nat) (ps : List Text)
        (hlevel : ∀ p, levelAfter? depth (c :: p) = levelAfter? d p)
        (h : (cutFrom d r).prepend c = ⟨ps, some rest⟩) :
        ∃ p qs, ps = p :: qs ∧ levelAfter? depth p = some 0 ∧ ∀ q ∈ qs, Argument q := by
      rcases hk : cutFrom d r with ⟨_ | ⟨p, qs⟩, after⟩
      · exact absurd (congrArg Cut.pieces hk) (pieces_cutFrom_ne_nil d r)
      rw [hk, Cut.prepend_cons] at h
      cases h
      obtain ⟨_, _, he, hp, hqs⟩ := ih hk
      cases he
      exact ⟨c :: p, qs, rfl, by rw [hlevel, hp], hqs⟩
    intro depth ps h
    rw [cutFrom.eq_def] at h
    dsimp only at h
    split at h
    · rename_i ho
      subst ho
      exact keep depth (depth + 1) ps (levelAfter?_open depth) h
    · rename_i ho
      split at h
      · rename_i hc
        subst hc
        cases depth with
        | zero =>
          cases h
          exact ⟨[], [], rfl, rfl, List.forall_mem_nil _⟩
        | succ e => exact keep (e + 1) e ps (levelAfter?_close e) h
      · rename_i hc
        split at h
        · rename_i hcomma
          rcases hk : cutFrom 0 r with ⟨qs, after⟩
          rw [hk] at h
          cases h
          obtain ⟨p, qs, rfl, hp, hqs⟩ := ih hk
          refine ⟨[], p :: qs, rfl, by rw [hcomma.2]; rfl, fun q hq => ?_⟩
          rcases List.mem_cons.1 hq with rfl | hq
          · exact argument_iff.2 hp
          · exact hqs q hq
        · rename_i hcomma
          exact keep depth depth ps
            (levelAfter?_plain ho hc fun he hz => hcomma ⟨he, hz⟩) h

/-- **A text is cut into pieces up to a parenthesis exactly if the pieces are arguments, and the
    text is the pieces joined, the parenthesis and the rest.** -/
theorem cut_eq_iff {t rest : Text} {ps : List Text} : cut t = ⟨ps, some rest⟩ ↔
    ps ≠ [] ∧ (∀ p ∈ ps, Argument p) ∧ t = joined ps ++ ')' :: rest := by
  constructor
  · intro h
    obtain ⟨p, qs, rfl, hp, hqs⟩ := cutFrom_closed h
    refine ⟨List.cons_ne_nil p qs, fun q hq => ?_, ?_⟩
    · rcases List.mem_cons.1 hq with rfl | hq
      · exact argument_iff.2 hp
      · exact hqs q hq
    · have ht := Cut.text_cut t
      rw [h] at ht
      exact ht.symm
  · intro hex
    obtain ⟨hne, harg, rfl⟩ := hex
    exact cut_joined hne harg

/-! ## 3. Taking calls apart -/

theorem takeWhile_open {n : Text} (hn : '(' ∉ n) (r : Text) :
    (n ++ '(' :: r).takeWhile (· ≠ '(') = n := by
  rw [List.takeWhile_append_of_pos, List.takeWhile_cons]
  · simp
  · intro c hc
    simpa using fun he : c = '(' => hn (he ▸ hc)

theorem dropWhile_open {n : Text} (hn : '(' ∉ n) (r : Text) :
    (n ++ '(' :: r).dropWhile (· ≠ '(') = '(' :: r := by
  rw [List.dropWhile_append_of_pos, List.dropWhile_cons]
  · simp
  · intro c hc
    simpa using fun he : c = '(' => hn (he ▸ hc)

/-- A call is its name, an opening parenthesis, and what is cut. -/
theorem takeApart_open {n : Text} (hn : '(' ∉ n) (r : Text) :
    takeApart (n ++ '(' :: r) =
      match (cut r).after with
      | none => .error .unclosed
      | some rest =>
        if (strip rest).isEmpty then .ok ⟨strip n, (cut r).arguments⟩
        else .error (.trailing (strip rest)) := by
  unfold takeApart
  rw [takeWhile_open hn, dropWhile_open hn]
  rfl

/-- A text is split at its first opening parenthesis. -/
theorem exists_open {t : Text} (h : '(' ∈ t) : ∃ n r, '(' ∉ n ∧ t = n ++ '(' :: r := by
  induction t with
  | nil => cases h
  | cons c r ih =>
    by_cases hc : c = '('
    · exact ⟨[], r, by simp, by rw [hc]; rfl⟩
    · obtain ⟨n, r', hn, rfl⟩ := ih (List.mem_of_ne_of_mem (Ne.symm hc) h)
      exact ⟨c :: n, r', by simp [hn, Ne.symm hc], rfl⟩

/-- A text without an opening parenthesis is no call. -/
theorem takeApart_of_not_mem {t : Text} (h : '(' ∉ t) : takeApart t = .error .unclosed := by
  have hd : t.dropWhile (· ≠ '(') = [] := by
    rw [List.dropWhile_eq_nil_iff]
    intro c hc
    simpa using fun he : c = '(' => h (he ▸ hc)
  unfold takeApart
  rw [hd]
  rfl

/-- **What a call is taken apart into**: the name before its first parenthesis, and the arguments
    up to the parenthesis that closes it, after which only blanks may stand. -/
theorem takeApart_eq_ok_iff {t : Text} {parts : Parts} : takeApart t = .ok parts ↔
    ∃ n ps rest, '(' ∉ n ∧ ps ≠ [] ∧ (∀ p ∈ ps, Argument p) ∧ Blanks rest ∧
      t = n ++ '(' :: (joined ps ++ ')' :: rest) ∧ parts = ⟨strip n, ps.map strip⟩ := by
  constructor
  · intro h
    by_cases hopen : '(' ∈ t
    · obtain ⟨n, r, hn, rfl⟩ := exists_open hopen
      rw [takeApart_open hn] at h
      rcases hk : cut r with ⟨ps, _ | rest⟩
      · rw [hk] at h
        cases h
      · rw [hk] at h
        dsimp only at h
        split at h
        · rename_i hblank
          cases h
          obtain ⟨hne, harg, rfl⟩ := cut_eq_iff.1 hk
          exact ⟨n, ps, rest, hn, hne, harg, strip_eq_nil_iff.1 (by simpa using hblank), rfl, rfl⟩
        · cases h
    · rw [takeApart_of_not_mem hopen] at h
      cases h
  · intro hex
    obtain ⟨n, ps, rest, hn, hne, harg, hblank, rfl, rfl⟩ := hex
    rw [takeApart_open hn, cut_joined hne harg]
    dsimp only
    rw [strip_eq_nil_iff.2 hblank]
    rfl

/-- Without their outer blanks, pieces are no longer. -/
theorem length_joined_map_strip_le : ∀ ps : List Text,
    (joined (ps.map strip)).length ≤ (joined ps).length
  | [] => Nat.le_refl _
  | [p] => length_strip_le p
  | p :: q :: ps => by
    have hfirst := length_strip_le p
    have hrest := length_joined_map_strip_le (q :: ps)
    simp only [List.map_cons] at hrest
    simp only [List.map_cons, joined, List.length_append, List.length_cons]
    omega

/-- **The arguments of a call fit in it**, with the commas between them and its two
    parentheses. -/
theorem length_joined_of_takeApart {t : Text} {parts : Parts} (h : takeApart t = .ok parts) :
    (joined parts.arguments).length + 2 ≤ t.length := by
  obtain ⟨n, ps, rest, -, -, -, -, rfl, rfl⟩ := takeApart_eq_ok_iff.1 h
  have hstrip := length_joined_map_strip_le ps
  simp only [List.length_append, List.length_cons]
  omega

/-- An argument and the two parentheses of the call it stands in are no longer than the call. -/
theorem length_argument_of_takeApart {t a : Text} {parts : Parts} (h : takeApart t = .ok parts)
    (ha : a ∈ parts.arguments) : a.length + 2 ≤ t.length :=
  Nat.le_trans (Nat.add_le_add_right (length_le_joined ha) 2) (length_joined_of_takeApart h)

/-- **An argument is shorter than the call it stands in.** -/
theorem length_lt_of_takeApart {t a : Text} {parts : Parts} (h : takeApart t = .ok parts)
    (ha : a ∈ parts.arguments) : a.length < t.length := by
  have hle := length_argument_of_takeApart h ha
  omega

end Terrain.Formula
