import Terrain.Formula.Arguments
import Terrain.Formula.Graph
import Terrain.Number.Decimal

/-!
# Building formulas

A formula is a literal, a name, or a call `Name(argument, …)`; what is accepted depends on the kind
asked for.

| kind | bare forms | calls |
|---|---|---|
| number | literal, field, signal | `Add`, `Subtract`, `If` |
| boolean | | `Less` |
| voxel type | | `Voxel`, `If` |
| voxel shape | shape | `If` |

* A number is read as a literal before it is read as a field, and as a field before anything else
  (`classify`), so a field may be named like a signal or like a call, but not like a literal.
* A call is cut into its arguments, named and counted before any argument is built; arguments are
  built from left to right, and the first that is refused ends the building.
* A field contributes the node bound to it. Everything else that is visited makes one node.
* `build` may open `room` formulas one inside the other. A formula has no more open at once than
  half its length and one, so `text.length` and one are room without limit (`buildFully`).
-/

namespace Terrain.Formula

open Terrain.Text

/-! ## 1. What names mean -/

/-- A field: its name, and the node it is bound to. -/
structure Field where
  name : Text
  root : Nat
  deriving DecidableEq, Repr

/-- What the names in a formula mean: the ids of voxel types, and the fields bound so far, in the
    order they were bound. -/
structure Scope where
  voxelId : Text → Option Nat
  fields : List Field

/-- The node a field is bound to. -/
def Scope.field? (s : Scope) (name : Text) : Option Nat :=
  (s.fields.find? (·.name == name)).map (·.root)

/-- The signals by name. -/
def signals : List (String × Signal) :=
  [("Depth", .depth), ("Moisture", .moisture), ("Temperature", .temperature),
   ("Density", .density), ("AmbientDensity", .density)]

/-- The signal of a name. -/
def Signal.named? (name : Text) : Option Signal :=
  (signals.find? fun s => s.1.toList == name).map (·.2)

/-- The calls of formulas. -/
inductive Call where
  | add
  | subtract
  | less
  | choose
  | voxel
  deriving DecidableEq, Repr

/-- The name of a call. -/
def Call.name : Call → String
  | .add => "Add"
  | .subtract => "Subtract"
  | .less => "Less"
  | .choose => "If"
  | .voxel => "Voxel"

/-- The number of arguments of a call. -/
def Call.arity : Call → Nat
  | .add | .subtract | .less => 2
  | .choose => 3
  | .voxel => 1

/-- The calls that a formula of a kind may be. -/
def Kind.calls : Kind → List Call
  | .number => [.add, .subtract, .choose]
  | .boolean => [.less]
  | .voxel => [.choose, .voxel]
  | .shape => [.choose]

/-- The call of a name, among those of a kind. -/
def Kind.call? (k : Kind) (name : Text) : Option Call :=
  k.calls.find? (·.name.toList == name)

/-! ## 2. What a text is at first sight -/

/-- What a text is before its arguments are looked at: a node without children, a node that is
    bound already, nothing, or a call. -/
inductive Form where
  | leaf (n : Node)
  | bound (root : Nat)
  | refused (f : Fault)
  | call

/-- A text without an opening parenthesis, as a formula of a kind. -/
def bare (k : Kind) (t : Text) : Form :=
  match k with
  | .number =>
    match Signal.named? t with
    | some s => .leaf (.signal s)
    | none => .refused (.unknownSymbol t)
  | .shape =>
    match Shape.named? t with
    | some s => .leaf (.shape s)
    | none => .refused (.unknownShape t)
  | _ => .refused (.notCall k t)

/-- What a text without outer blanks is, as a formula of a kind. -/
def classify (s : Scope) (k : Kind) (t : Text) : Form :=
  let other := if t.contains '(' then .call else bare k t
  match k with
  | .number =>
    match Number.Decimal.read? t with
    | some d => .leaf (.const d.toFloat)
    | none =>
      match s.field? t with
      | some root => .bound root
      | none => other
  | _ => other

/-- A call taken apart: its name, and its arguments. -/
structure Parts where
  name : Text
  arguments : List Text
  deriving DecidableEq, Repr

/-- Takes a call apart. Only blanks may follow its closing parenthesis. -/
def takeApart (t : Text) : Except Fault Parts :=
  let name := t.takeWhile (· ≠ '(')
  let k := cut ((t.dropWhile (· ≠ '(')).drop 1)
  match k.after with
  | none => .error .unclosed
  | some rest =>
    if (strip rest).isEmpty then .ok ⟨strip name, k.arguments⟩
    else .error (.trailing (strip rest))

/-! ## 3. The building -/

/-- What can be told of a building afterwards: a formula was visited, or a field was bound to a
    node. -/
inductive Step where
  | visit (kind : Kind) (text : Text)
  | bind (name : Text) (node : Node)

/-- A building in progress: the nodes made so far, and the steps taken. -/
structure Draft where
  graph : Graph
  steps : Array Step

/-- Nothing built yet. -/
def Draft.empty : Draft := ⟨.empty, #[]⟩

/-- Why a building ends early: a formula is refused, or there is no room for one more level. -/
inductive Stop where
  | refused (r : Refusal)
  | noRoom
  deriving DecidableEq, Repr

/-- Building: it may end early, and what was made and told till then remains. -/
abbrev Build := ExceptT Stop (StateM Draft)

/-- Makes a node. -/
def makeNode (n : Node) : Build Nat :=
  modifyGet fun d => (d.graph.size, { d with graph := d.graph.push n })

/-- Tells a step. -/
def tell (s : Step) : Build Unit :=
  modify fun d => { d with steps := d.steps.push s }

/-- Refuses a formula. -/
def refuse {α : Type} (f : Fault) (t : Text) : Build α := throw (.refused ⟨f, t⟩)

/-- The node of a call of two numbers, which `sub` builds from left to right. -/
def buildPair (sub : Kind → Text → Build Nat) (node : Nat → Nat → Node) (l r : Text) :
    Build Nat := do
  let l ← sub .number l
  let r ← sub .number r
  makeNode (node l r)

/-- The node of a call `t` of a kind, whose arguments `sub` builds from left to right. -/
def buildCall (s : Scope) (sub : Kind → Text → Build Nat) (k : Kind) (t : Text) (call : Call)
    (args : List Text) : Build Nat :=
  match call, args with
  | .add, [l, r] => buildPair sub .add l r
  | .subtract, [l, r] => buildPair sub .subtract l r
  | .less, [l, r] => buildPair sub .less l r
  | .choose, [p, a, b] => do
    let p ← sub .boolean p
    let a ← sub k a
    let b ← sub k b
    makeNode (.choose p a b)
  | .voxel, [w] =>
    match s.voxelId w with
    | some id => makeNode (.voxel w id)
    | none => refuse (.unknownVoxel w) t
  | call, args => refuse (.arity call.name.toList call.arity args.length) t

/-- The node of a text of a kind, of which it is known what it is at first sight. -/
def buildForm (s : Scope) (sub : Kind → Text → Build Nat) (k : Kind) (t : Text) :
    Form → Build Nat
  | .leaf n => makeNode n
  | .bound root => return root
  | .refused f => refuse f t
  | .call =>
    match takeApart t with
    | .error f => refuse f t
    | .ok parts =>
      match k.call? parts.name with
      | none => refuse (.unsupported k parts.name) t
      | some call => buildCall s sub k t call parts.arguments

/-- The node of a formula of a kind, with room for `room` formulas one inside the other. -/
def build (s : Scope) : Nat → Kind → Text → Build Nat
  | 0, _, _ => throw .noRoom
  | room + 1, k, text =>
    let t := strip text
    if t.isEmpty then refuse .empty t
    else do
      tell (.visit k t)
      buildForm s (build s room) k t (classify s k t)

/-- The node of a formula of a kind, however deep it is nested. -/
def buildFully (s : Scope) (k : Kind) (t : Text) : Build Nat := build s (t.length + 1) k t

/-- The room that profiles are compiled with. -/
def nestingLimit : Nat := 900

end Terrain.Formula
