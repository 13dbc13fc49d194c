import Terrain.Formula.Graph
import Terrain.Noise.Generator

/-!
# Evaluation

A node is evaluated at a place of the world. Operands are evaluated from left to right, of a
choice only the condition and the branch it selects, and a noise node asks the source once, at the
place itself.

* An answer carries the places the noise source was asked at, in order (`Answer.queries`), also
  where there is no result.
* An evaluation calls the evaluations of its operands, and only so many calls may be open at once
  (`Stack`). A call too many ends it (`Halt.tooDeep`), and so does a refusal of the noise source.
* It is stuck (`Halt.stuck`) where an operand has the wrong kind or a node is missing. The graphs
  the builder makes are never stuck.
-/

namespace Terrain.Formula

/-! ## 1. Answers -/

/-- What a node evaluates to. -/
inductive Result where
  | number (x : Float)
  | boolean (b : Bool)
  | voxel (id : Nat)
  | shape (s : Shape)

/-- The kind of a result. -/
def Result.kind : Result → Kind
  | .number _ => .number
  | .boolean _ => .boolean
  | .voxel _ => .voxel
  | .shape _ => .shape

/-- What ends an evaluation early. -/
inductive Halt where
  | stuck
  | tooDeep
  | refused (r : Noise.Refusal)
  deriving DecidableEq, Repr

/-- What ended an evaluation, in words. -/
def Halt.message : Halt → String
  | .stuck => "formula has no value"
  | .tooDeep => "maximum recursion depth exceeded"
  | .refused r => r.message

/-- A result or what there is instead, and the places noise was asked at on the way to it. -/
structure Answer (α : Type) where
  result : Except Halt α
  queries : List Position

namespace Answer

variable {α β : Type}

/-- No result. -/
def halt (h : Halt) : Answer α := ⟨.error h, []⟩

/-- What follows a result comes after it, and its queries come last. -/
def andThen (a : Answer α) (f : α → Answer β) : Answer β :=
  match a.result with
  | .ok x => ⟨(f x).result, a.queries ++ (f x).queries⟩
  | .error h => ⟨.error h, a.queries⟩

instance : Monad Answer where
  pure x := ⟨.ok x, []⟩
  bind := andThen

instance : MonadLift (Except Halt) Answer where
  monadLift r := ⟨r, []⟩

/-- The answer of a noise source at a place. -/
def ask (noise : Noise) (q : Position) : Answer Float := ⟨(noise q).mapError .refused, [q]⟩

end Answer

/-! ## 2. Results of a kind -/

/-- The number of a result. -/
def Result.number? : Result → Except Halt Float
  | .number x => .ok x
  | _ => .error .stuck

/-- The truth value of a result. -/
def Result.boolean? : Result → Except Halt Bool
  | .boolean b => .ok b
  | _ => .error .stuck

/-- The voxel id of a result. -/
def Result.voxel? : Result → Except Halt Nat
  | .voxel id => .ok id
  | _ => .error .stuck

/-- The shape of a result. -/
def Result.shape? : Result → Except Halt Shape
  | .shape s => .ok s
  | _ => .error .stuck

/-! ## 3. Evaluation -/

/-- The calls that are taken, besides the call of the node itself, to read a signal and to ask
    noise. -/
structure Calls where
  reading : Nat
  asking : Nat

/-- The calls that an evaluation takes, and how many calls may be open at once. -/
structure Stack extends Calls where
  levels : Nat

/-- The answer of a node, with room for so many calls. -/
def Graph.evaluateIn (g : Graph) (s : Calls) (noise : Noise) (c : Context) :
    Nat → Nat → Answer Result
  | 0, _ => .halt .tooDeep
  | room + 1, i =>
    match g.node? i with
    | none => .halt .stuck
    | some (.const x) => return .number x
    | some (.voxel _ id) => return .voxel id
    | some (.shape f) => return .shape f
    | some (.signal f) => if s.reading ≤ room then return .number (f.read c) else .halt .tooDeep
    | some (.noise _ _) =>
      if s.asking ≤ room then return .number (← .ask noise c.position) else .halt .tooDeep
    | some (.add l r) => do
      let a ← g.evaluateIn s noise c room l
      let b ← g.evaluateIn s noise c room r
      return .number ((← a.number?) + (← b.number?))
    | some (.subtract l r) => do
      let a ← g.evaluateIn s noise c room l
      let b ← g.evaluateIn s noise c room r
      return .number ((← a.number?) - (← b.number?))
    | some (.less l r) => do
      let a ← g.evaluateIn s noise c room l
      let b ← g.evaluateIn s noise c room r
      return .boolean ((← a.number?) < (← b.number?))
    | some (.choose p t e) => do
      let a ← g.evaluateIn s noise c room p
      if ← a.boolean? then g.evaluateIn s noise c room t else g.evaluateIn s noise c room e

/-- The answer of a node. -/
def Graph.evaluate (g : Graph) (s : Stack) (noise : Noise) (c : Context) (i : Nat) :
    Answer Result :=
  g.evaluateIn s.toCalls noise c s.levels i

end Terrain.Formula
