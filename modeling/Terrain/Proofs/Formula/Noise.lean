import Mathlib.Data.List.Forall2
import Terrain.Formula.Evaluate
import Terrain.Proofs.Formula.Repeating

/-!
# Where noise matters

A node of noise keeps the wavelength and the amplitude of its declaration, and they matter to no
one: noise is asked at the place itself. So two graphs that differ in nothing else answer alike, and
the answers at a place depend on the noise there and nowhere else.

* `Graph.Alike g h`: the graphs differ at most in the wavelengths and amplitudes of noise.
* `Graph.Alike.evaluateIn_eq`: they answer alike, with noise that is alike at the place.
* `Built.alike`: the same building, on drafts that are alike, leaves drafts that are alike.
-/

namespace Terrain.Formula

open Terrain.Text

variable {g h : Graph} {noise noise' : Noise} {c : Context}

/-! ## 1. Graphs that are alike -/

/-- Two nodes are the same, or both are noise. -/
inductive Node.Alike : Node → Node → Prop
  | same (n : Node) : Alike n n
  | noise (w a w' a' : Float) : Alike (.noise w a) (.noise w' a')

theorem Node.Alike.children_eq {n n' : Node} (h : n.Alike n') : n'.children = n.children := by
  cases h <;> rfl

/-- Two graphs are alike, node for node. -/
def Graph.Alike (g h : Graph) : Prop := List.Forall₂ Node.Alike g.nodes.toList h.nodes.toList

namespace Graph.Alike

theorem refl (g : Graph) : g.Alike g := List.forall₂_same.2 fun n _ => .same n

theorem size_eq (hgh : g.Alike h) : h.size = g.size := hgh.length_eq.symm

/-- Items of one place are alike, or neither list has one. -/
theorem getElem?_cases {l l' : List Node} (hl : List.Forall₂ Node.Alike l l') : ∀ i : Nat,
    (l[i]? = none ∧ l'[i]? = none) ∨
    ∃ n n', l[i]? = some n ∧ l'[i]? = some n' ∧ n.Alike n' := by
  induction hl with
  | nil => exact fun i => .inl ⟨rfl, rfl⟩
  | cons hn _ ih =>
    intro i
    cases i with
    | zero => exact .inr ⟨_, _, rfl, rfl, hn⟩
    | succ i => exact ih i

/-- The nodes of a number are alike, or neither graph has one. -/
theorem node?_cases (hgh : g.Alike h) (i : Nat) :
    (g.node? i = none ∧ h.node? i = none) ∨
    ∃ n n', g.node? i = some n ∧ h.node? i = some n' ∧ n.Alike n' := by
  unfold Graph.node?
  rw [← Array.getElem?_toList, ← Array.getElem?_toList]
  exact getElem?_cases hgh i

/-- The same nodes are reachable. -/
theorem fits (hgh : g.Alike h) : Graph.Fits id g h where
  injective := Function.injective_id
  lt_size_iff i := by rw [hgh.size_eq, id]
  childrenOf i := by
    unfold Graph.childrenOf
    rw [List.map_id, id]
    rcases hgh.node?_cases i with ⟨hn, hn'⟩ | ⟨n, n', hn, hn', halike⟩
    · rw [hn, hn']
    · rw [hn, hn']
      exact halike.children_eq

theorem reachable_eq (hgh : g.Alike h) (i : Nat) : h.reachable i = g.reachable i := by
  have hreachable := hgh.fits.reachable_eq i
  rwa [List.map_id] at hreachable

/-- **Graphs that are alike answer alike**, with any room, if the noise is the same at the place. -/
theorem evaluateIn_eq (hgh : g.Alike h) (s : Calls)
    (hnoise : noise' c.position = noise c.position) : ∀ room i,
    h.evaluateIn s noise' c room i = g.evaluateIn s noise c room i
  | 0, i => by rw [Graph.evaluateIn, Graph.evaluateIn]
  | room + 1, i => by
    have below := hgh.evaluateIn_eq s hnoise room
    have hask : Answer.ask noise' c.position = Answer.ask noise c.position := by
      rw [Answer.ask, Answer.ask, hnoise]
    rw [Graph.evaluateIn, Graph.evaluateIn]
    rcases hgh.node?_cases i with ⟨hn, hn'⟩ | ⟨n, n', hn, hn', halike⟩
    · rw [hn, hn']
    · rw [hn, hn']
      cases halike with
      | noise w a w' a' =>
        dsimp only
        rw [hask]
      | same n =>
        cases n with
        | add | subtract | less | choose =>
          dsimp only
          simp only [below]
        | noise w a =>
          dsimp only
          rw [hask]
        | _ => rfl

/-! ## 2. Buildings that are alike -/

/-- Graphs that are alike stay alike when nodes are added that are. -/
theorem append (hgh : g.Alike h) {nodes nodes' : List Node}
    (hnodes : List.Forall₂ Node.Alike nodes nodes') :
    Graph.Alike ⟨g.nodes ++ nodes.toArray⟩ ⟨h.nodes ++ nodes'.toArray⟩ := by
  unfold Graph.Alike
  rw [Array.toList_append, Array.toList_append]
  exact List.rel_append hgh hnodes

theorem push (hgh : g.Alike h) {n n' : Node} (hn : n.Alike n') : (g.push n).Alike (h.push n') := by
  unfold Graph.Alike Graph.push
  rw [Array.toList_push, Array.toList_push]
  exact List.rel_append hgh (.cons hn .nil)

end Graph.Alike

/-- **The same building does the same on drafts that are alike**: it gives the same node, and leaves
    drafts that are alike. -/
theorem Built.alike {s : Scope} {room : Nat} {k : Kind} {text : Text} {d d' e e' : Draft}
    {root root' : Nat} (h : Built s room k text d root d') (h' : Built s room k text e root' e')
    (hde : d.graph.Alike e.graph) : root' = root ∧ d'.graph.Alike e'.graph := by
  obtain ⟨nodes, steps, rfl, hrepeats⟩ := h.exists_repeats
  have hmirrors : s.Mirrors s id steps := ⟨fun t _ => by rw [Option.map_id, id], fun _ _ hid => hid⟩
  have hfollows : d.Follows id e := fun m => by rw [hde.size_eq, id]
  -- what is built again from the other draft is what was built there
  have hagain := (hrepeats s id e hmirrors hfollows).run
  rw [h'.run] at hagain
  cases hagain
  have hnodes : nodes.map (Node.rename id) = nodes := by
    rw [funext Node.rename_id, List.map_id']
  refine ⟨rfl, hde.append ?_⟩
  rw [hnodes]
  exact List.forall₂_same.2 fun n _ => .same n

end Terrain.Formula
