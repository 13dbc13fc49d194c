import Terrain.Proofs.Formula.Growth

/-!
# How deep evaluations go

Whether an evaluation gets to its end depends on the calls that may be open at once. What it would
come to if there were no limit does not: it follows one course, and the limit only decides whether
the course is followed to its end.

* `Course`: a result, the places noise is asked at, and the calls that are open at once at most.
* `Answer.Follows`: an answer with room for so many calls is that of a course which is no deeper,
  and is too deep on any other.
* `Course.Yields`: a course comes to a result of a sort, unless noise is refused at its place.
* `Graph.Runs`: a node follows a course with any room. There is one rule for each sort of node.
* `Graph.Ordered.ne_tooDeep`, `Graph.Nests.tooDeep`: how much room is enough, and how much is not.
-/

namespace Terrain.Formula

variable {α β : Type}

/-! ## 1. Courses -/

/-- An evaluation that nothing limits: its result, the places it asks noise at, and the calls that
    are open at once at most. -/
structure Course (α : Type) where
  result : Except Halt α
  queries : List Position
  depth : Nat

namespace Course

/-- What follows a result comes after it. The calls of both are not open at once. -/
def andThen (r : Course α) (f : α → Course β) : Course β :=
  match r.result with
  | .ok x => ⟨(f x).result, r.queries ++ (f x).queries, max r.depth (f x).depth⟩
  | .error h => ⟨.error h, r.queries, r.depth⟩

instance : Monad Course where
  pure x := ⟨.ok x, [], 0⟩
  bind := andThen

instance : MonadLift (Except Halt) Course where
  monadLift r := ⟨r, [], 0⟩

/-- No result. -/
def halt (h : Halt) : Course α := ⟨.error h, [], 0⟩

/-- Noise is asked at a place. -/
def ask (noise : Noise) (q : Position) : Course Float := ⟨(noise q).mapError .refused, [q], 0⟩

/-- A course inside so many more calls. -/
def under (n : Nat) (r : Course α) : Course α := { r with depth := r.depth + n }

end Course

/-! ## 2. Following a course -/

/-- **An answer follows a course as far as its room goes**: to the end if that is deep enough, and
    otherwise till it is too deep. It asks noise as the course does until then. -/
structure Answer.Follows (room : Nat) (a : Answer α) (r : Course α) : Prop where
  fits : r.depth ≤ room → a = ⟨r.result, r.queries⟩
  tooDeep : room < r.depth → a.result = .error .tooDeep
  asked : a.queries <+: r.queries

namespace Answer

variable {room n : Nat} {a : Answer α} {r : Course α}

theorem follows_pure (room : Nat) (x : α) :
    Answer.Follows room (pure x : Answer α) (pure x : Course α) where
  fits _ := rfl
  tooDeep h := absurd h (Nat.not_lt_zero room)
  asked := List.prefix_rfl

theorem follows_lift (room : Nat) (x : Except Halt α) :
    Answer.Follows room (liftM x : Answer α) (liftM x : Course α) where
  fits _ := rfl
  tooDeep h := absurd h (Nat.not_lt_zero room)
  asked := List.prefix_rfl

theorem follows_ask (room : Nat) (noise : Noise) (q : Position) :
    Answer.Follows room (Answer.ask noise q) (Course.ask noise q) where
  fits _ := rfl
  tooDeep h := absurd h (Nat.not_lt_zero room)
  asked := List.prefix_rfl

/-- An answer that is too deep at once follows any course that is deeper than the room. -/
theorem follows_halt (h : room < r.depth) : Answer.Follows room (.halt .tooDeep) r where
  fits hle := absurd h (Nat.not_lt.2 hle)
  tooDeep _ := rfl
  asked := List.nil_prefix

namespace Follows

/-- Room for more calls is what more calls take. -/
theorem under (h : a.Follows room r) (n : Nat) : a.Follows (room + n) (r.under n) where
  fits hle := h.fits (Nat.le_of_add_le_add_right hle)
  tooDeep hlt := h.tooDeep (Nat.lt_of_add_lt_add_right hlt)
  asked := h.asked

/-- An answer that takes so many calls is too deep where there is no room for them. -/
theorem takes {a : Answer α} (h : ∀ room, a.Follows room r) (n room : Nat) :
    (if n ≤ room then a else .halt .tooDeep).Follows room (r.under n) := by
  split
  · rename_i hle
    have hunder := (h (room - n)).under n
    rwa [Nat.sub_add_cancel hle] at hunder
  · rename_i hlt
    exact follows_halt (Nat.lt_of_lt_of_le (Nat.lt_of_not_le hlt) (Nat.le_add_left _ _))

/-- An answer with a result has got to the end of its course. -/
theorem eq_of_ok (h : a.Follows room r) {x : α} (ha : a.result = .ok x) :
    r.depth ≤ room ∧ a = ⟨r.result, r.queries⟩ := by
  have hle : r.depth ≤ room := Nat.le_of_not_lt fun hlt => by
    rw [h.tooDeep hlt] at ha
    cases ha
  exact ⟨hle, h.fits hle⟩

/-- What follows a result is followed after it. -/
theorem bind {f : α → Answer β} {f' : α → Course β} (h : a.Follows room r)
    (hf : ∀ x, (f x).Follows room (f' x)) : (a >>= f).Follows room (r >>= f') := by
  change (a.andThen f).Follows room (r.andThen f')
  unfold Answer.andThen Course.andThen
  by_cases hle : r.depth ≤ room
  · -- the first course is followed to its end, and the second as far as the room goes
    rw [h.fits hle]
    cases r.result with
    | error e => exact ⟨fun _ => rfl, fun hlt => absurd hlt (Nat.not_lt.2 hle), List.prefix_rfl⟩
    | ok x =>
      refine ⟨fun hmax => ?_, fun hlt => ?_, ?_⟩
      · dsimp only
        rw [(hf x).fits (Nat.le_trans (Nat.le_max_right _ _) hmax)]
      · exact (hf x).tooDeep (by dsimp only at hlt; omega)
      · exact (List.prefix_append_right_inj _).2 (hf x).asked
  · have hlt := Nat.lt_of_not_le hle
    rw [h.tooDeep hlt]
    cases r.result with
    | error e => exact ⟨fun hle' => absurd hle' hle, fun _ => rfl, h.asked⟩
    | ok x =>
      exact ⟨fun hmax => absurd (Nat.le_trans (Nat.le_max_left _ _) hmax) hle, fun _ => rfl,
        h.asked.trans (List.prefix_append _ _)⟩

end Follows
end Answer

/-! ## 3. What a course comes to -/

/-- **A course yields a result of a sort**, unless noise is refused at the place, and asks noise
    there and nowhere else. -/
structure Course.Yields (r : Course α) (noise : Noise) (c : Context) (P : α → Prop) : Prop where
  result : (∃ x, r.result = .ok x ∧ P x) ∨
    ∃ e, noise c.position = .error e ∧ r.result = .error (.refused e)
  asked : ∀ q ∈ r.queries, q = c.position

namespace Course.Yields

variable {r : Course α} {noise : Noise} {c : Context} {P : α → Prop} {Q : β → Prop}

theorem pure {x : α} (hx : P x) : (Pure.pure x : Course α).Yields noise c P :=
  ⟨.inl ⟨x, rfl, hx⟩, List.forall_mem_nil _⟩

theorem lift {y : Except Halt α} {x : α} (hy : y = .ok x) (hx : P x) :
    (liftM y : Course α).Yields noise c P :=
  ⟨.inl ⟨x, hy, hx⟩, List.forall_mem_nil _⟩

theorem ask : (Course.ask noise c.position).Yields noise c fun _ => True where
  result := by
    unfold Course.ask
    cases noise c.position with
    | ok x => exact .inl ⟨x, rfl, trivial⟩
    | error e => exact .inr ⟨e, rfl, rfl⟩
  asked := List.forall_mem_singleton.2 rfl

theorem under (h : r.Yields noise c P) (n : Nat) : (r.under n).Yields noise c P := ⟨h.1, h.2⟩

theorem bind {f : α → Course β} (h : r.Yields noise c P)
    (hf : ∀ x, P x → (f x).Yields noise c Q) : (r >>= f).Yields noise c Q := by
  change (r.andThen f).Yields noise c Q
  unfold Course.andThen
  rcases h.result with ⟨x, hr, hx⟩ | ⟨e, he, hr⟩
  · rw [hr]
    exact ⟨(hf x hx).result, List.forall_mem_append.2 ⟨h.asked, (hf x hx).asked⟩⟩
  · rw [hr]
    exact ⟨.inr ⟨e, he, rfl⟩, h.asked⟩

end Course.Yields

/-- **Answers settle**: with any room they follow one course, which yields a result of a sort. -/
def Settles (noise : Noise) (c : Context) (answer : Nat → Answer α) (P : α → Prop) : Prop :=
  ∃ r : Course α, (∀ room, (answer room).Follows room r) ∧ r.Yields noise c P

namespace Settles

variable {noise : Noise} {c : Context} {answer : Nat → Answer α} {P : α → Prop}

/-- Every result is of the sort. -/
theorem of_ok (h : Settles noise c answer P) {room : Nat} {x : α}
    (hx : (answer room).result = .ok x) : P x := by
  obtain ⟨r, hfollows, hyields⟩ := h
  obtain ⟨-, ha⟩ := (hfollows room).eq_of_ok hx
  rw [ha] at hx
  rcases hyields.result with ⟨y, hy, hP⟩ | ⟨e, -, he⟩
  · rw [hy] at hx
    cases hx
    exact hP
  · rw [he] at hx
    cases hx

/-- What holds of every result holds of the one that the answers settle on. -/
theorem mono {Q : α → Prop} (h : Settles noise c answer P)
    (hQ : ∀ room x, (answer room).result = .ok x → Q x) : Settles noise c answer Q := by
  obtain ⟨r, hfollows, hyields⟩ := h
  refine ⟨r, hfollows, ?_, hyields.asked⟩
  rcases hyields.result with ⟨x, hx, -⟩ | he
  · refine .inl ⟨x, hx, hQ r.depth x ?_⟩
    rw [(hfollows r.depth).fits (Nat.le_refl _), hx]
  · exact .inr he

/-- Noise is asked at the place and nowhere else. -/
theorem asked (h : Settles noise c answer P) (room : Nat) :
    ∀ q ∈ (answer room).queries, q = c.position := by
  obtain ⟨r, hfollows, hyields⟩ := h
  exact fun q hq => hyields.asked q ((hfollows room).asked.subset hq)

/-- **There are three ways that it ends**: with a result of the sort, with a refusal of noise at the
    place, or with too many calls open. -/
theorem trichotomy (h : Settles noise c answer P) (room : Nat) :
    (∃ x, (answer room).result = .ok x ∧ P x) ∨
      (∃ e, noise c.position = .error e ∧ (answer room).result = .error (.refused e)) ∨
      (answer room).result = .error .tooDeep := by
  obtain ⟨r, hfollows, hyields⟩ := h
  by_cases hle : r.depth ≤ room
  · rw [(hfollows room).fits hle]
    rcases hyields.result with hx | he
    · exact .inl hx
    · exact .inr (.inl he)
  · exact .inr (.inr ((hfollows room).tooDeep (Nat.lt_of_not_le hle)))

/-- It never ends stuck. -/
theorem ne_stuck (h : Settles noise c answer P) (room : Nat) :
    (answer room).result ≠ .error .stuck := by
  rcases h.trichotomy room with ⟨x, hx, -⟩ | ⟨e, -, he⟩ | hdeep
  · rw [hx]
    nofun
  · rw [he]
    nofun
  · rw [hdeep]
    nofun

end Settles

/-! ## 4. What nodes do -/

section Nodes

variable {g : Graph} {s : Calls} {noise : Noise} {c : Context} {i : Nat} {k : Kind} {n : Node}

/-- What a node without children does, once it is entered. -/
def Node.leaf? (s : Calls) (noise : Noise) (c : Context) : Node → Option (Course Result)
  | .const x => some (return .number x)
  | .voxel _ id => some (return .voxel id)
  | .shape f => some (return .shape f)
  | .signal f => some (.under s.reading (return .number (f.read c)))
  | .noise _ _ => some (.under s.asking (return .number (← .ask noise c.position)))
  | _ => none

/-- A node puts the numbers of two others together. -/
inductive Node.Joins : Node → Nat → Nat → (Float → Float → Result) → Prop
  | add (l r : Nat) : Joins (.add l r) l r fun x y => .number (x + y)
  | subtract (l r : Nat) : Joins (.subtract l r) l r fun x y => .number (x - y)
  | less (l r : Nat) : Joins (.less l r) l r fun x y => .boolean (x < y)

section Parts

variable {m : Type → Type} [Monad m] [MonadLiftT (Except Halt) m]

/-- Two results are put together, from left to right, if they are numbers. -/
def join (op : Float → Float → Result) (a b : m Result) : m Result := do
  let x ← a
  let y ← b
  return op (← x.number?) (← y.number?)

/-- The branch that is selected by a condition, if the condition is a truth value. -/
def select (a whenTrue whenFalse : m Result) : m Result := do
  if ← (← a).boolean? then whenTrue else whenFalse

end Parts

/-- There is no result without room for a call. -/
theorem Graph.exists_left_of_ok {room : Nat} {r : Result}
    (hr : (g.evaluateIn s noise c room i).result = .ok r) : ∃ left, room = left + 1 := by
  cases room with
  | zero =>
    rw [Graph.evaluateIn] at hr
    cases hr
  | succ left => exact ⟨left, rfl⟩

/-- A node of two numbers joins what they answer with the room that is left. -/
theorem Graph.evaluateIn_join {op : Float → Float → Result} {l r : Nat}
    (hn : g.node? i = some n) (hjoins : n.Joins l r op) (room : Nat) :
    g.evaluateIn s noise c (room + 1) i =
      join op (g.evaluateIn s noise c room l) (g.evaluateIn s noise c room r) := by
  rw [Graph.evaluateIn, hn]
  cases hjoins <;> rfl

/-- A choice selects one of its branches with the room that is left. -/
theorem Graph.evaluateIn_choose {p t e : Nat} (hn : g.node? i = some (.choose p t e))
    (room : Nat) :
    g.evaluateIn s noise c (room + 1) i = select (g.evaluateIn s noise c room p)
      (g.evaluateIn s noise c room t) (g.evaluateIn s noise c room e) := by
  rw [Graph.evaluateIn, hn]
  rfl

theorem Answer.result_bind (a : Answer α) (f : α → Answer β) :
    (a >>= f).result = a.result.bind fun x => (f x).result := by
  change (a.andThen f).result = _
  unfold Answer.andThen
  cases a.result <;> rfl

theorem result_join (op : Float → Float → Result) (a b : Answer Result) :
    (join op a b).result = join op a.result b.result := by
  unfold join
  simp only [Answer.result_bind]
  rfl

theorem result_select (a b b' : Answer Result) :
    (select a b b').result = select a.result b.result b'.result := by
  unfold select
  simp only [Answer.result_bind]
  cases a.result with
  | error h => rfl
  | ok x =>
    rcases x with _ | (_ | _) | _ | _ <;> rfl

/-! ## 5. The courses of nodes -/

/-- **A node runs a course** with any room, and the course yields a result of a kind. -/
structure Graph.Runs (g : Graph) (s : Calls) (noise : Noise) (c : Context) (i : Nat) (k : Kind)
    (r : Course Result) : Prop where
  follows : ∀ room, (g.evaluateIn s noise c room i).Follows room r
  yields : r.Yields noise c (·.kind = k)

/-- A node is entered with one call, and does the rest with the room that is left. -/
theorem Graph.follows_under {r : Course Result}
    (h : ∀ room, (g.evaluateIn s noise c (room + 1) i).Follows room r) :
    ∀ room, (g.evaluateIn s noise c room i).Follows room (r.under 1)
  | 0 => by
    rw [Graph.evaluateIn]
    exact Answer.follows_halt (Nat.succ_pos _)
  | room + 1 => (h room).under 1

namespace Graph.Runs

/-- A node without children runs the course of its sort. -/
theorem leaf {r : Course Result} (hn : g.node? i = some n) (hr : n.leaf? s noise c = some r)
    (hk : r.Yields noise c (·.kind = k)) : g.Runs s noise c i k (r.under 1) where
  follows := Graph.follows_under fun room => by
    rw [Graph.evaluateIn, hn]
    cases n with
    | signal f =>
      cases hr
      exact .takes (fun room => Answer.follows_pure room _) s.reading room
    | noise w a =>
      cases hr
      exact .takes (fun room => (Answer.follows_ask room noise c.position).bind fun x =>
        Answer.follows_pure room _) s.asking room
    | const | voxel | shape =>
      cases hr
      exact Answer.follows_pure room _
    | _ => cases hr
  yields := hk.under 1

/-- A node of two numbers evaluates them from left to right. -/
theorem pair {op : Float → Float → Result} {l r : Nat} {rl rr : Course Result}
    (hn : g.node? i = some n) (hjoins : n.Joins l r op) (hop : ∀ x y, (op x y).kind = k)
    (hl : g.Runs s noise c l .number rl) (hr : g.Runs s noise c r .number rr) :
    g.Runs s noise c i k (.under 1 (join op rl rr)) where
  follows := Graph.follows_under fun room => by
    rw [Graph.evaluateIn_join hn hjoins]
    exact (hl.follows room).bind fun a => (hr.follows room).bind fun b =>
      (Answer.follows_lift room _).bind fun x => (Answer.follows_lift room _).bind fun y =>
        Answer.follows_pure room _
  yields := by
    refine Course.Yields.under (hl.yields.bind fun a ha => hr.yields.bind fun b hb => ?_) 1
    cases a <;> cases ha
    cases b <;> cases hb
    exact .bind (P := fun _ => True) (.lift rfl trivial) fun x _ =>
      .bind (P := fun _ => True) (.lift rfl trivial) fun y _ => .pure (hop x y)

/-- A choice evaluates its condition, and then the branch that is selected. -/
theorem choose {p t e : Nat} {rp rt re : Course Result}
    (hn : g.node? i = some (.choose p t e)) (hp : g.Runs s noise c p .boolean rp)
    (ht : g.Runs s noise c t k rt) (he : g.Runs s noise c e k re) :
    g.Runs s noise c i k (.under 1 (select rp rt re)) where
  follows := Graph.follows_under fun room => by
    rw [Graph.evaluateIn_choose hn]
    refine (hp.follows room).bind fun a => (Answer.follows_lift room _).bind fun b => ?_
    cases b
    · exact he.follows room
    · exact ht.follows room
  yields := by
    refine Course.Yields.under (hp.yields.bind fun a ha => ?_) 1
    cases a <;> cases ha
    refine .bind (P := fun _ => True) (.lift rfl trivial) fun b _ => ?_
    cases b
    · exact he.yields
    · exact ht.yields

/-- A node runs the same course in a grown graph. -/
theorem grow {h : Graph} {r : Course Result} (hgh : g.Starts h) (hi : g.Whole i)
    (hr : g.Runs s noise c i k r) : h.Runs s noise c i k r where
  follows room := by
    rw [Graph.evaluateIn_of_starts s noise c hgh hi]
    exact hr.follows room
  yields := hr.yields

/-- A node that runs a course settles. -/
theorem settles {r : Course Result} (h : g.Runs s noise c i k r) :
    Settles noise c (fun room => g.evaluateIn s noise c room i) (·.kind = k) :=
  ⟨r, h.follows, h.yields⟩

end Graph.Runs

/-! ## 6. How deep nodes are -/

/-- Joining is too deep only where one of both is. -/
theorem tooDeep_of_join {op : Float → Float → Result} {a b : Except Halt Result}
    (h : join op a b = .error .tooDeep) : a = .error .tooDeep ∨ b = .error .tooDeep := by
  cases a with
  | error e => exact .inl h
  | ok x =>
    cases b with
    | error e => exact .inr h
    | ok y => cases x <;> cases y <;> cases h

/-- Selecting is too deep only where the condition is, or the branch that is selected. -/
theorem tooDeep_of_select {a b b' : Except Halt Result} (h : select a b b' = .error .tooDeep) :
    a = .error .tooDeep ∨ b = .error .tooDeep ∨ b' = .error .tooDeep := by
  cases a with
  | error e => exact .inl h
  | ok x =>
    rcases x with _ | (_ | _) | _ | _
    · cases h
    · exact .inr (.inr h)
    · exact .inr (.inl h)
    · cases h
    · cases h

/-- **No evaluation is deeper than its node has nodes before it**, and the calls that a leaf takes,
    where children come first. -/
theorem Graph.Ordered.ne_tooDeep (hg : g.Ordered) : ∀ {room i : Nat},
    i + max s.reading s.asking < room → (g.evaluateIn s noise c room i).result ≠ .error .tooDeep
  | 0, i, hroom => absurd hroom (Nat.not_lt_zero _)
  | room + 1, i, hroom => by
    intro h
    rcases hn : g.node? i with _ | n
    · rw [Graph.evaluateIn, hn] at h
      cases h
    have child {j : Nat} (hj : j ∈ n.children) :
        (g.evaluateIn s noise c room j).result ≠ .error .tooDeep := by
      have hlt := hg i n hn j hj
      exact hg.ne_tooDeep (by omega)
    have pair {op : Float → Float → Result} {l r : Nat} (hjoins : n.Joins l r op)
        (hchildren : n.children = [l, r]) : False := by
      rw [Graph.evaluateIn_join hn hjoins, result_join] at h
      rcases tooDeep_of_join h with hl | hr
      · exact child (by simp [hchildren]) hl
      · exact child (by simp [hchildren]) hr
    cases n with
    | add l r => exact pair (.add l r) rfl
    | subtract l r => exact pair (.subtract l r) rfl
    | less l r => exact pair (.less l r) rfl
    | choose p t e =>
      rw [Graph.evaluateIn_choose hn, result_select] at h
      rcases tooDeep_of_select h with hp | ht | he
      · exact child (by simp [Node.children]) hp
      · exact child (by simp [Node.children]) ht
      · exact child (by simp [Node.children]) he
    | signal f =>
      rw [Graph.evaluateIn, hn] at h
      dsimp only at h
      rw [if_pos (by omega)] at h
      cases h
    | noise w a =>
      rw [Graph.evaluateIn, hn] at h
      dsimp only at h
      rw [if_pos (by omega), Answer.result_bind] at h
      unfold Answer.ask at h
      cases hask : noise c.position <;> rw [hask] at h <;> cases h
    | const | voxel | shape =>
      rw [Graph.evaluateIn, hn] at h
      cases h

/-- Operands lie one inside the other so many times, on the left of each. -/
inductive Graph.Nests (g : Graph) : Nat → Nat → Prop
  | last (i : Nat) : g.Nests 0 i
  | inside {m i l r : Nat} {n : Node} {op : Float → Float → Result} (hn : g.node? i = some n)
      (hjoins : n.Joins l r op) (left : g.Nests m l) : g.Nests (m + 1) i

theorem Graph.Nests.grow {h : Graph} {m : Nat} (hgh : g.Starts h) (hi : g.Nests m i) :
    h.Nests m i := by
  induction hi with
  | last i => exact .last i
  | inside hn hjoins _ ih => exact .inside (hgh.node?_of_some hn) hjoins ih

/-- **What is nested deeper than the room is too deep**, with every noise and at every place. -/
theorem Graph.Nests.tooDeep {m : Nat} (hi : g.Nests m i) : ∀ {room : Nat}, room ≤ m →
    (g.evaluateIn s noise c room i).result = .error .tooDeep := by
  have empty (i : Nat) : (g.evaluateIn s noise c 0 i).result = .error .tooDeep := by
    rw [Graph.evaluateIn]
    rfl
  induction hi with
  | last i =>
    intro room hroom
    rw [Nat.le_zero.1 hroom]
    exact empty i
  | @inside m i l r n op hn hjoins _ ih =>
    intro room hroom
    cases room with
    | zero => exact empty i
    | succ room =>
      rw [Graph.evaluateIn_join hn hjoins, result_join, ih (Nat.le_of_succ_le_succ hroom)]
      rfl

end Nodes

end Terrain.Formula
