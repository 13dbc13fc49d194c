import Terrain.Proofs.Formula.Building
import Terrain.Proofs.Number.Spelling

/-!
# Constants

A number is built as a constant exactly if it is a literal, whatever fields are bound.

* `MakesConst`: a number is built as a constant that is made for it.
* `run_build_literal`: a literal is built as the constant that a configuration reads it as.
* `literals_are_constants`: which texts are constants, and of which value.
-/

namespace Terrain.Formula

open Terrain.Text Terrain.Number

variable {s : Scope} {room : Nat} {text : Text} {d : Draft} {v : Float}

/-- A number is built as a constant: the node it comes to is made by this building, and has the
    value. -/
def MakesConst (s : Scope) (room : Nat) (text : Text) (d : Draft) (v : Float) : Prop :=
  ∃ root d', (build s room .number text).run d = (.ok root, d') ∧
    d.graph.size ≤ root ∧ d'.graph.node? root = some (.const v)

/-- **A literal is built as a constant**, whatever names are bound. -/
theorem run_build_literal {c : Decimal} (h : Writes (strip text) c) :
    (build s (room + 1) .number text).run d =
      (.ok d.graph.size, (d.visited .number (strip text)).made (.const c.toFloat)) := by
  rw [run_build h.ne_nil, classify_literal (Decimal.read?_eq_some_iff.2 h)]
  rfl

theorem makesConst_iff_of_writes {c : Decimal} (h : Writes (strip text) c) :
    MakesConst s (room + 1) text d v ↔ v = c.toFloat := by
  have hnode : ((d.visited .number (strip text)).made (.const c.toFloat)).graph.node?
      d.graph.size = some (.const c.toFloat) := Graph.node?_push_size _ _
  constructor
  · intro hex
    obtain ⟨root, d', hrun, -, hconst⟩ := hex
    rw [run_build_literal h] at hrun
    cases hrun
    rw [hnode] at hconst
    cases hconst
    rfl
  · rintro rfl
    exact ⟨_, _, run_build_literal h, le_refl _, hnode⟩

/-- What is built as a constant is a literal. A field that is bound to a constant is a node that
    was there, and every other formula makes a node of another sort. -/
theorem MakesConst.literal (h : MakesConst s room text d v) : Literal (strip text) := by
  obtain ⟨root, d', hrun, hnew, hconst⟩ := h
  have hmade (d : Draft) (n : Node) : (d.made n).graph.node? d.graph.size = some n :=
    Graph.node?_push_size _ _
  cases built_of_run hrun with
  | leaf hne hform =>
    rcases classify_eq_leaf hform with ⟨c, -, hc, -⟩ | ⟨sig, -, -, -, rfl⟩ | ⟨shape, hk, -, -⟩
    · exact literal_iff.2 ⟨c, Decimal.read?_eq_some_iff.1 hc⟩
    · cases (hmade _ _).symm.trans hconst
    · cases hk
  | bound hne hform => exact absurd (Graph.lt_size_of_node? hconst) (Nat.not_lt.2 hnew)
  | @pair _ _ _ _ d₁ d₂ i j call node _ _ hcall hnode left right =>
    have hchildren : (node i j).children = [i, j] := Call.children_of_pairNode? hnode
    rw [Option.some.inj ((hmade d₂ (node i j)).symm.trans hconst)] at hchildren
    cases hchildren
  | choose hcall condition whenTrue whenFalse => cases (hmade _ _).symm.trans hconst
  | voxel hcall hid => cases (hmade _ _).symm.trans hconst

/-- **A number is built as a constant exactly if it is a literal.** A literal is the same constant
    under all bindings, and in ASCII digits: the double that a configuration reads it as. What else
    a configuration reads, a word or digits in groups, is never built as a constant. -/
theorem literals_are_constants (text : Text) :
    (∀ s room d, (∃ v, MakesConst s (room + 1) text d v) ↔ Literal (strip text)) ∧
    (Literal (strip text) → ∃ v, Number.float? (strip text) = .ok v ∧ ∀ s room d v',
      (MakesConst s (room + 1) text d v' ↔ v' = v) ∧
      (MakesConst s (room + 1) (asciiDigits text) d v' ↔ v' = v)) ∧
    (∀ v, Number.float? (strip text) = .ok v →
      Literal (strip text) ∨ InWords (strip text) ∨ InGroups (strip text)) ∧
    (InWords (strip text) ∨ InGroups (strip text) → ∀ s room d v,
      ¬ MakesConst s room text d v) := by
  refine ⟨fun s room d => ⟨fun ⟨v, h⟩ => h.literal, fun h => ?_⟩, fun h => ?_,
    fun v hv => spelling_of_float? (strip_trimmed text) hv, fun hor s room d v h => ?_⟩
  · obtain ⟨c, hc⟩ := literal_iff.1 h
    exact ⟨_, (makesConst_iff_of_writes hc).2 rfl⟩
  · obtain ⟨c, hc⟩ := literal_iff.1 h
    have hascii : Writes (strip (asciiDigits text)) c := by
      rw [strip_asciiDigits]
      exact hc.asciiDigits
    exact ⟨_, float?_of_writes hc, fun s room d v' =>
      ⟨makesConst_iff_of_writes hc, makesConst_iff_of_writes hascii⟩⟩
  · rcases hor with hwords | hgroups
    · exact hwords.not_literal h.literal
    · exact hgroups.not_literal h.literal

/-- Digits of three scripts, with a point and a power, next to an infinity and digits in groups. -/
theorem literals_are_constants_mixed :
    (∃ v, Number.float? "+٣1.e-५".toList = .ok v ∧ ∀ s room d v',
      (MakesConst s (room + 1) " +٣1.e-५ ".toList d v' ↔ v' = v) ∧
      (MakesConst s (room + 1) " +31.e-5 ".toList d v' ↔ v' = v)) ∧
    (∃ v, Number.float? "-Inf".toList = .ok v) ∧
    (∀ s room d v, ¬ MakesConst s room " -Inf".toList d v) ∧
    (∃ v, Number.float? "1_0".toList = .ok v) ∧
    (∀ s room d v, ¬ MakesConst s room "1_0 ".toList d v) := by
  have hstrip : strip " +٣1.e-५ ".toList = "+٣1.e-५".toList := by decide
  have hascii : asciiDigits " +٣1.e-५ ".toList = " +31.e-5 ".toList := by decide
  have hliteral : Literal "+٣1.e-५".toList :=
    .mk (a := ['+']) (m := "٣1.".toList) (p := "e-५".toList) (by decide)
      (.point (w := "٣1".toList) (f := []) (.of_all (by decide)) (by decide) nofun)
      (.power (a := ['-']) (w := ['५']) (.inl rfl) (by decide) (.of_all (by decide)) (by decide))
  have hinf : InWords (strip " -Inf".toList) :=
    ⟨['-'], "Inf".toList, by decide, by decide, by decide⟩
  have hgroups : InGroups (strip "1_0 ".toList) :=
    ⟨by decide, .mk (a := []) (m := "10".toList) (p := []) (by decide)
      (.whole (.of_all (by decide)) (by decide)) .none⟩
  refine ⟨?_, ⟨_, rfl⟩, (literals_are_constants _).2.2.2 (.inl hinf), ⟨_, rfl⟩,
    (literals_are_constants _).2.2.2 (.inr hgroups)⟩
  have h := (literals_are_constants " +٣1.e-५ ".toList).2.1
  rw [hstrip, hascii] at h
  exact h hliteral

end Terrain.Formula
