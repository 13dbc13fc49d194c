import Terrain.Proofs.Formula.Nesting

/-!
# Building ends

A formula is built from its parts, which are arguments of the call that it is. A call holds besides
its arguments the commas between them and two parentheses, so a part is shorter than the formula by
two characters at least, whatever the text is. So building comes down to shorter and shorter texts,
and has no more of them open at once than half the length of the first, and one.

* `Part.IsPartOf`: a formula is one of those that another is built from.
* `opened_congr`: a formula is built from its parts and from nothing else.
* `wellFounded_isPartOf`: there is no endless chain of parts.
* `existsUnique_unlimited`: building without a limit is a recursion with exactly one solution.
* `build_eq_buildFully`: it is what is built with room for half the length of the text, and one.
-/

namespace Terrain.Formula

open Terrain.Text Terrain.Attempt

variable {s : Scope} {k : Kind} {t : Text} {room : Nat}

/-! ## 1. Parts -/

/-- A formula is one of those that another is built from. -/
def Part.IsPartOf (s : Scope) (q p : Part) : Prop := q ∈ (plan s p.kind (strip p.text)).parts

theorem Part.IsPartOf.length_lt {q p : Part} (h : q.IsPartOf s p) :
    q.text.length < p.text.length := by
  have hle := length_part_of_mem_plan h
  omega

/-- **No chain of parts is endless.** -/
theorem wellFounded_isPartOf (s : Scope) : WellFounded (Part.IsPartOf s) :=
  Subrelation.wf Part.IsPartOf.length_lt (measure fun p : Part => p.text.length).wf

/-- A plan is carried out by building its parts, and nothing else. -/
theorem Plan.carryOut_congr {p : Plan} {sub sub' : Kind → Text → Build Nat}
    (h : ∀ q ∈ p.parts, sub q.kind q.text = sub' q.kind q.text) :
    p.carryOut sub t = p.carryOut sub' t := by
  cases p with
  | refused f => rfl
  | bound root => rfl
  | node n parts =>
    have hparts : parts.mapM (fun q => sub q.kind q.text) =
        parts.mapM fun q => sub' q.kind q.text := mapM_congr h
    simp only [Plan.carryOut, hparts]

/-- **A formula is built from its parts**, and from nothing else. -/
theorem opened_congr {sub sub' : Kind → Text → Build Nat}
    (h : ∀ q : Part, q.IsPartOf s ⟨k, t⟩ → sub q.kind q.text = sub' q.kind q.text) :
    opened s sub k t = opened s sub' k t := by
  have hplan : (plan s k (strip t)).carryOut sub (strip t) =
      (plan s k (strip t)).carryOut sub' (strip t) := Plan.carryOut_congr h
  funext d
  have hrun : (opened s sub k t).run d = (opened s sub' k t).run d := by
    rw [run_opened_plan, run_opened_plan, hplan]
  exact hrun

/-! ## 2. Building without a limit -/

/-- **Building without a limit**: every formula is opened, and its parts are built likewise. -/
def Unlimited (s : Scope) (f : Kind → Text → Build Nat) : Prop := ∀ k t, f k t = opened s f k t

/-- **Two buildings without a limit are the same**, part by part. -/
theorem Unlimited.eq {f f' : Kind → Text → Build Nat} (hf : Unlimited s f)
    (hf' : Unlimited s f') (p : Part) : f p.kind p.text = f' p.kind p.text := by
  induction p using (wellFounded_isPartOf s).induction with
  | _ p ih =>
    rw [hf p.kind p.text, hf' p.kind p.text]
    exact opened_congr ih

/-- More room than half the length of the text is as good as room for all of it. -/
theorem build_eq_buildFully (hroom : t.length / 2 < room) (k : Kind) :
    build s room k t = buildFully s k t := by
  funext d
  have hrun : (build s room k t).run d = (buildFully s k t).run d :=
    run_build_eq_buildFully fun n hn => Nat.le_trans hn.le hroom
  exact hrun

/-- Building with room for all of the text is building without a limit. -/
theorem unlimited_buildFully (s : Scope) : Unlimited s (buildFully s) := by
  intro k t
  show build s (t.length + 1) k t = opened s (buildFully s) k t
  rw [build_succ]
  refine opened_congr fun q hq => ?_
  have hlt : q.text.length < t.length := hq.length_lt
  exact build_eq_buildFully (by omega) q.kind

/-- **There is exactly one building without a limit.** -/
theorem existsUnique_unlimited (s : Scope) : ∃! f, Unlimited s f := by
  refine ⟨buildFully s, unlimited_buildFully s, fun f hf => ?_⟩
  funext k t
  exact hf.eq (unlimited_buildFully s) ⟨k, t⟩

/-! ## 3. All texts -/

/-- **Building ends on every text.** -/
structure Ends (s : Scope) : Prop where
  /-- The arguments of a call fit in it, with the commas between them and its two parentheses. -/
  fits : ∀ t parts, takeApart t = .ok parts → (joined parts.arguments).length + 2 ≤ t.length
  /-- Every argument is shorter than the call. -/
  shorter : ∀ t parts, takeApart t = .ok parts → ∀ a ∈ parts.arguments, a.length < t.length
  /-- A formula is built from its parts, whatever builds them, and from nothing else. -/
  fromParts : ∀ (k : Kind) (t : Text) (sub sub' : Kind → Text → Build Nat),
    (∀ q : Part, q.IsPartOf s ⟨k, t⟩ → sub q.kind q.text = sub' q.kind q.text) →
      opened s sub k t = opened s sub' k t
  /-- The parts of a formula are arguments of the call that it is. -/
  areArguments : ∀ q p : Part, q.IsPartOf s p →
    ∃ parts, takeApart (strip p.text) = .ok parts ∧ q.text ∈ parts.arguments
  /-- Every part of a formula is shorter. -/
  descends : ∀ q p : Part, q.IsPartOf s p → q.text.length < p.text.length
  /-- No chain of parts is endless. -/
  wellFounded : WellFounded (Part.IsPartOf s)
  /-- There is exactly one building without a limit. -/
  unlimited : ∃! f, Unlimited s f
  /-- No more formulas are open at once than half the text is long, and one. -/
  depth : ∀ k t n, Opens s k t n → n ≤ t.length / 2 + 1
  /-- With room for as many, a building is the one without a limit, and never short of room. -/
  room : ∀ f, Unlimited s f → ∀ (room : Nat) (k : Kind) (t : Text), t.length / 2 + 1 ≤ room →
    build s room k t = f k t ∧ ∀ d : Draft, ¬ Fails (build s room k t) .noRoom d

/-- **Building ends on every text**, well formed or not: what it comes down to is always shorter. -/
theorem building_ends (s : Scope) : Ends s where
  fits t parts h := length_joined_of_takeApart h
  shorter t parts h a ha := length_lt_of_takeApart h ha
  fromParts k t sub sub' h := opened_congr h
  areArguments q p h := exists_takeApart_of_mem_plan h
  descends q p h := h.length_lt
  wellFounded := wellFounded_isPartOf s
  unlimited := existsUnique_unlimited s
  depth k t n h := h.le
  room f hf room k t hroom := by
    have hfull : build s room k t = buildFully s k t := build_eq_buildFully hroom k
    have hsame : buildFully s k t = f k t := (unlimited_buildFully s).eq hf ⟨k, t⟩
    exact ⟨hfull.trans hsame, fun d => not_fails_noRoom hroom⟩

end Terrain.Formula
