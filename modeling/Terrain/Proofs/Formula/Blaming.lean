import Terrain.Proofs.Formula.Parts

/-!
# What a refusal is to blame for

A formula that is refused is shown down to the piece that is to blame: by itself that piece is
refused in the same way. So a mistake can be looked at without the formula around it.

* `Blames s text r`: the refusal `r` shows a piece of the text that is refused by itself.
* `blames_of_fails`: every refusal does.
* `exists_first_of_fails`: a call with as many arguments as it takes is refused as its first
  argument that is refused.
-/

namespace Terrain.Formula

open Terrain.Text Terrain.Attempt

variable {s : Scope} {k : Kind} {t text : Text} {room : Nat} {d : Draft} {r : Refusal}
  {call : Call} {args : List Text}

/-! ## 1. Pieces that are to blame -/

/-- **A refusal blames a piece of a text**, which is refused by itself in the same way. -/
structure Blames (s : Scope) (text : Text) (r : Refusal) : Prop where
  /-- It is a mistake in the form of a call, in a symbol, in an instruction or in a reference. -/
  kind : r.report.kind ∈ [.callForm, .symbol, .instruction, .reference]
  /-- The piece is told, and neither file nor field are known. -/
  site : r.report.site = ⟨none, none, some r.formula⟩
  trimmed : Trimmed r.formula
  piece : r.formula <:+: text
  /-- As a formula of some kind the piece is refused for the same, wherever there is any room. -/
  alone : ∃ k, ∀ room d, 0 < room → Fails (build s room k r.formula) (.refused r) d

theorem Fault.kind_mem (f : Fault) : f.kind ∈ [.callForm, .symbol, .instruction, .reference] := by
  cases f <;> simp [Fault.kind]

/-- A text that is refused at first sight is refused by itself. -/
theorem blames_of_plan {f : Fault} (h : plan s k (strip text) = .refused f) :
    Blames s text ⟨f, strip text⟩ where
  kind := f.kind_mem
  site := rfl
  trimmed := strip_trimmed text
  piece := strip_piece text
  alone := by
    refine ⟨k, fun room d hroom => ?_⟩
    obtain ⟨room, rfl⟩ := Nat.exists_eq_add_one.2 hroom
    refine fails_build_iff.2 (.inl ⟨f, ?_, ?_⟩)
    · rwa [strip_strip]
    · rw [strip_strip]

/-- **Every refusal blames a piece of the text.** -/
theorem blames_of_fails : ∀ {room : Nat} {k : Kind} {text : Text} {d : Draft},
    Fails (build s room k text) (.refused r) d → Blames s text r
  | 0, _, _, _, h => by cases h
  | room + 1, k, text, d, h => by
    rcases fails_build_iff.1 h with ⟨f, hplan, hr⟩ | ⟨before, q, after, _, d', hparts, -, hq⟩
    · cases hr
      exact blames_of_plan hplan
    · -- a piece of the part that fails is a piece of the text
      have hmem : q ∈ (plan s k (strip text)).parts := by simp [hparts]
      have hblames := blames_of_fails hq
      exact { hblames with piece := hblames.piece.trans (infix_of_mem_plan hmem) }

/-! ## 2. Arguments that are to blame -/

/-- The kinds of the arguments of a call that are formulas. -/
def Call.operands (k : Kind) : Call → List Kind
  | .add | .subtract | .less => [.number, .number]
  | .choose => [.boolean, k, k]
  | .voxel => []

/-- The arguments of a call, each as a formula of the kind that it is to be. -/
def Call.asked (k : Kind) (call : Call) (args : List Text) : List Part :=
  List.zipWith Part.mk (call.operands k) args

/-- A call with as many arguments as it takes is a node over them, unless it names a voxel type. -/
theorem Call.exists_plan_eq (hcall : call ≠ .voxel) (harity : args.length = call.arity) :
    ∃ n, call.plan s k args = .node n (call.asked k args) := by
  cases call with
  | add | subtract | less =>
    obtain ⟨l, r, rfl⟩ := List.length_eq_two.1 harity
    exact ⟨_, rfl⟩
  | choose =>
    obtain ⟨p, a, b, rfl⟩ := List.length_eq_three.1 harity
    exact ⟨_, rfl⟩
  | voxel => exact absurd rfl hcall

/-- What is taken apart into a call is that call, if it is refused or has parts at all: it may also
    be a literal or a field. -/
theorem plan_of_takeApart (hparts : takeApart t = .ok ⟨call.name.toList, args⟩)
    (hmem : call ∈ k.calls) : plan s k t = call.plan s k args ∨
      (∀ f, plan s k t ≠ .refused f) ∧ (plan s k t).parts = [] := by
  have hopen : '(' ∈ t := by
    by_contra hclosed
    rw [takeApart_of_not_mem hclosed] at hparts
    cases hparts
  have hne : t ≠ [] := List.ne_nil_of_mem hopen
  unfold plan
  rw [if_neg hne]
  rcases sight_cases s k t with ⟨d, rfl, hd⟩ | ⟨i, rfl, hd, hi⟩ | hu
  · rw [classify_literal hd]
    exact .inr ⟨nofun, rfl⟩
  · rw [classify_field hd hi]
    exact .inr ⟨nofun, rfl⟩
  · rw [classify_unread hu, if_pos hopen]
    dsimp only
    rw [hparts]
    dsimp only
    rw [Kind.call?_eq_some_iff.2 ⟨hmem, rfl⟩]
    exact .inl rfl

/-- **A call is refused as its first argument that is refused**, if it has as many arguments as it
    takes and does not name a voxel type. -/
theorem exists_first_of_fails (h : Fails (build s room k text) (.refused r) d)
    (hparts : takeApart (strip text) = .ok ⟨call.name.toList, args⟩) (hmem : call ∈ k.calls)
    (hcall : call ≠ .voxel) (harity : args.length = call.arity) :
    ∃ before q after, call.asked k args = before ++ q :: after ∧
      (∀ p ∈ before, ∀ d, ∃ root, Gives (build s room p.kind p.text) root d) ∧
      ∀ d, Fails (build s room q.kind q.text) (.refused r) d := by
  cases room with
  | zero => cases h
  | succ room =>
    obtain ⟨n, hnode⟩ := Call.exists_plan_eq (s := s) (k := k) hcall harity
    rcases fails_build_iff.1 h with ⟨f, hplan, -⟩ | ⟨before, q, after, _, d', hplan, hbefore, hq⟩
    · rcases plan_of_takeApart (s := s) hparts hmem with hself | ⟨hgood, -⟩
      · rw [hself, hnode] at hplan
        cases hplan
      · exact absurd hplan (hgood f)
    · rcases plan_of_takeApart (s := s) hparts hmem with hself | ⟨-, hnone⟩
      · rw [hself, hnode] at hplan
        -- there was room for the arguments with one formula open, so there is by themselves
        refine ⟨before, q, after, hplan, fun p hp => ?_, fails_build_of_le (Nat.le_succ room) hq⟩
        obtain ⟨d₁, root, d₂, hrun⟩ := exists_of_run_mapM_ok hbefore p hp
        exact exists_gives_build_of_le (Nat.le_succ room) (gives_iff.2 ⟨d₂, hrun⟩)
      · rw [hnone] at hplan
        simp at hplan

/-! ## 3. Refusals are reproduced -/

/-- **A refusal is reproduced by the piece it shows**, and it is that of the first argument that is
    to blame. -/
theorem refusal_reproduced (h : Fails (build s room k text) (.refused r) d) :
    Blames s text r ∧ ∀ call args, takeApart (strip text) = .ok ⟨call.name.toList, args⟩ →
      call ∈ k.calls → call ≠ .voxel → args.length = call.arity →
      ∃ before q after, call.asked k args = before ++ q :: after ∧
        (∀ p ∈ before, ∀ d, ∃ root, Gives (build s room p.kind p.text) root d) ∧
        ∀ d, Fails (build s room q.kind q.text) (.refused r) d :=
  ⟨blames_of_fails h, fun _ _ => exists_first_of_fails h⟩

/-- A choice in a sum, with a name in its condition that means nothing. -/
def nameless : Text := " Add(1, If(Less(Depth, x), 2, 3)) ".toList

/-- No voxel types and no fields. -/
def bareScope : Scope := ⟨fun _ => none, []⟩

theorem refusal_reproduced_nameless :
    Blames bareScope nameless ⟨.unknownSymbol "x".toList, "x".toList⟩ ∧
    ∃ before q after,
      Call.add.asked .number ["1".toList, "If(Less(Depth, x), 2, 3)".toList] =
        before ++ q :: after ∧
      (∀ p ∈ before, ∀ d, ∃ root, Gives (build bareScope 9 p.kind p.text) root d) ∧
      ∀ d, Fails (build bareScope 9 q.kind q.text)
        (.refused ⟨.unknownSymbol "x".toList, "x".toList⟩) d := by
  have hfails : Fails (build bareScope 9 .number nameless)
      (.refused ⟨.unknownSymbol "x".toList, "x".toList⟩) .empty := by
    unfold Fails
    decide +kernel
  obtain ⟨hblames, hfirst⟩ := refusal_reproduced hfails
  exact ⟨hblames, hfirst .add _ (by decide +kernel) (by decide) (by decide) (by decide)⟩

end Terrain.Formula
