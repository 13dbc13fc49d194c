import Terrain.Formula.Fault
import Terrain.Voxel

/-!
# Graphs of compiled formulas

A compiled formula is a node of a graph. Nodes are numbered in the order they are made and name
their children by number; a node may be the child of several, so a field that is used often is
held once.

* Any node may have any children here. That the builder gives a node only children of the right
  kind, made before it, is a property of the builder.
* `reachable` lists the nodes below a root, each once. It ends on every graph, cyclic ones
  included: a step either lists a node that was not listed, or shortens the stack.
-/

namespace Terrain.Formula

/-! ## 1. Nodes -/

/-- The signals a formula can read. -/
inductive Signal where
  | depth
  | moisture
  | temperature
  | density
  deriving DecidableEq, Repr

/-- What a signal is at a place. -/
def Signal.read (c : Context) : Signal → Float
  | .depth => c.depth
  | .moisture => c.moisture
  | .temperature => c.temperature
  | .density => c.density

/-- A node of a graph. -/
inductive Node where
  | const (value : Float)
  | add (left right : Nat)
  | subtract (left right : Nat)
  | less (left right : Nat)
  | choose (condition whenTrue whenFalse : Nat)
  | noise (wavelength amplitude : Float)
  | signal (s : Signal)
  | voxel (name : Text) (id : Nat)
  | shape (s : Shape)

/-- The children of a node, from left to right. -/
def Node.children : Node → List Nat
  | .add l r | .subtract l r | .less l r => [l, r]
  | .choose c t f => [c, t, f]
  | _ => []

/-- The same node with other numbers for its children. -/
def Node.rename (f : Nat → Nat) : Node → Node
  | .add l r => .add (f l) (f r)
  | .subtract l r => .subtract (f l) (f r)
  | .less l r => .less (f l) (f r)
  | .choose c t e => .choose (f c) (f t) (f e)
  | n => n

/-- The name of a node's sort in messages. -/
def Node.label : Node → String
  | .const _ => "Const"
  | .add .. => "Add"
  | .subtract .. => "Subtract"
  | .less .. => "Less"
  | .choose .. => "If"
  | .noise .. => "NoiseSample"
  | .signal _ => "ContextAccessor"
  | .voxel .. => "VoxelLookup"
  | .shape _ => "ShapeConst"

@[simp] theorem Node.children_rename (f : Nat → Nat) (n : Node) :
    (n.rename f).children = n.children.map f := by
  cases n <;> rfl

/-! ## 2. Graphs -/

/-- Nodes, numbered from zero. -/
structure Graph where
  nodes : Array Node

/-- The graph with no node. -/
def Graph.empty : Graph := ⟨#[]⟩

/-- The number of nodes. -/
def Graph.size (g : Graph) : Nat := g.nodes.size

/-- The node of a number. -/
def Graph.node? (g : Graph) (i : Nat) : Option Node := g.nodes[i]?

/-- The graph with one more node, whose number is the size of the graph before. -/
def Graph.push (g : Graph) (n : Node) : Graph := ⟨g.nodes.push n⟩

@[simp] theorem Graph.size_push (g : Graph) (n : Node) : (g.push n).size = g.size + 1 := by
  simp [Graph.push, Graph.size]

@[simp] theorem Graph.node?_push_size (g : Graph) (n : Node) :
    (g.push n).node? g.size = some n := by
  simp [Graph.push, Graph.size, Graph.node?]

/-- A node that was there is there unchanged. -/
theorem Graph.node?_push_of_lt {g : Graph} {i : Nat} (h : i < g.size) (n : Node) :
    (g.push n).node? i = g.node? i := by
  simp only [Graph.push, Graph.node?, Graph.size] at *
  rw [Array.getElem?_push_lt h, Array.getElem?_eq_getElem h]

theorem Graph.lt_size_of_node? {g : Graph} {i : Nat} {n : Node} (h : g.node? i = some n) :
    i < g.size := by
  simp only [Graph.node?, Graph.size] at *
  exact (Array.getElem?_eq_some_iff.1 h).1

/-- The children of the node of a number; none if there is no such node. -/
def Graph.childrenOf (g : Graph) (i : Nat) : List Nat :=
  match g.node? i with
  | some n => n.children
  | none => []

/-! ## 3. What lies below a root -/

/-- How many nodes of the graph are not listed. -/
def Graph.unlisted (g : Graph) (listed : List Nat) : Nat :=
  ((List.range g.size).filter (· ∉ listed)).length

/-- What is not listed once a node is, is what was not listed but for that node. -/
theorem filter_not_mem_concat (l listed : List Nat) (i : Nat) :
    l.filter (· ∉ listed ++ [i]) = (l.filter (· ∉ listed)).filter (· ≠ i) := by
  rw [List.filter_filter]
  refine List.filter_congr fun j _ => ?_
  simp [and_comm]

/-- An item that is there goes when it is taken out. -/
theorem length_filter_ne_lt {l : List Nat} {i : Nat} (hi : i ∈ l) :
    (l.filter (· ≠ i)).length < l.length :=
  List.length_filter_lt_length_iff_exists.2 ⟨i, hi, by simp⟩

/-- Listing a node of the graph leaves fewer unlisted. -/
theorem Graph.unlisted_lt {g : Graph} {listed : List Nat} {i : Nat} (hi : i < g.size)
    (hn : i ∉ listed) : g.unlisted (listed ++ [i]) < g.unlisted listed := by
  unfold Graph.unlisted
  rw [filter_not_mem_concat]
  exact length_filter_ne_lt (List.mem_filter.2 ⟨List.mem_range.2 hi, by simpa using hn⟩)

/-- The nodes on a stack and those below them, after those that are listed already. The top of the
    stack comes next unless it is listed; its children go on the stack from left to right, so the
    last of them comes after it. -/
def Graph.listFrom (g : Graph) (listed stack : List Nat) : List Nat :=
  match stack with
  | [] => listed
  | i :: rest =>
    if _h : i ∉ listed ∧ i < g.size then
      g.listFrom (listed ++ [i]) ((g.childrenOf i).reverse ++ rest)
    else g.listFrom listed rest
termination_by (g.unlisted listed, stack.length)
decreasing_by
  · exact Prod.Lex.left _ _ (Graph.unlisted_lt _h.2 _h.1)
  · exact Prod.Lex.right _ (by simp)

/-- The nodes below a root, the root first, each once. -/
def Graph.reachable (g : Graph) (root : Nat) : List Nat := g.listFrom [] [root]

/-- The nodes below several roots, each once. -/
def Graph.reachableFrom (g : Graph) (roots : List Nat) : List Nat :=
  roots.foldl (fun listed root => listed ++ (g.reachable root).filter (· ∉ listed)) []

/-- The nodes below a root with their children named by their places in the list. -/
def Graph.table (g : Graph) (root : Nat) : List Node :=
  let order := g.reachable root
  order.filterMap fun i => (g.node? i).map (Node.rename (order.idxOf ·))

end Terrain.Formula
