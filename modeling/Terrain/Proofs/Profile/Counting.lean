import Terrain.Profile.Compile
import Terrain.Proofs.Formula.Listing

/-!
# The nodes of a profile

The three formulas of a profile are in one graph, and a field that they use is there once. The
number of nodes of the profile is the number of nodes below at least one of the three.

* `nodes_enumerated`: what is below a root is enumerated, and what is below the three formulas of a
  profile is counted once.
-/

namespace Terrain.Profile

open Terrain.Formula

/-- **The nodes below a root are enumerated, and those of a profile are counted once.** In every
    graph, however its nodes are shared, the loop that lists what is below a root ends: the root
    comes first, every node below it is listed once and nothing else, and each but the root after
    one of its parents. The number of nodes of a profile is the size of the union of what is below
    its three formulas. -/
theorem nodes_enumerated :
    (∀ (g : Graph) (root : Nat), root < g.size → g.Enumerates root (g.reachable root)) ∧
    ∀ p : Profile,
      ({j | p.graph.Below p.density j} ∪ {j | p.graph.Below p.voxelId j} ∪
        {j | p.graph.Below p.shape j}).encard = p.nodeCount := by
  refine ⟨fun g root hroot => Graph.enumerates_reachable hroot, fun p => ?_⟩
  have hunion : {j | p.graph.Below p.density j} ∪ {j | p.graph.Below p.voxelId j} ∪
      {j | p.graph.Below p.shape j} =
        {j | ∃ root ∈ [p.density, p.voxelId, p.shape], p.graph.Below root j} := by
    ext j
    simp [or_assoc]
  rw [hunion, Graph.encard_below]
  rfl

/-- A profile with a field, a sum, that its density names four times, and whose voxel type asks what
    its density asks. -/
def ridge : Profile where
  name := "ridge"
  fields := [⟨"sum".toList, 2⟩]
  graph := ⟨#[.signal .depth, .signal .moisture, .add 0 1, .less 2 0, .add 2 2, .choose 3 4 2,
    .voxel "moss".toList 3, .choose 3 6 6, .shape .cube]⟩
  density := 5
  voxelId := 7
  shape := 8

theorem nodes_enumerated_ridge : 5 < ridge.graph.size ∧
    ridge.graph.Enumerates 5 [5, 2, 1, 0, 4, 3] ∧
    ridge.graph.Turns 10 ⟨[], [5]⟩ ⟨[5, 2, 1, 0, 4, 3], []⟩ ∧
    ({j | ridge.graph.Below 5 j} ∪ {j | ridge.graph.Below 7 j} ∪
      {j | ridge.graph.Below 8 j}).encard = 9 := by
  have hsize : 5 < ridge.graph.size := by decide
  have hlist : ridge.graph.reachable 5 = [5, 2, 1, 0, 4, 3] := by cbv
  have hcount : ridge.nodeCount = 9 := by cbv
  have henum := nodes_enumerated.1 ridge.graph 5 hsize
  rw [hlist] at henum
  have hunion := nodes_enumerated.2 ridge
  rw [hcount] at hunion
  exact ⟨hsize, henum, henum.ends, hunion⟩

end Terrain.Profile
