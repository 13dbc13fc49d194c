import Terrain.Host.Standard
import Terrain.Proofs.Patch.Ids
import Terrain.Proofs.Profile.Deepening

/-!
# Places in a patch

A patch is sampled by a loop over each coordinate inside the other. The cells are written one after
the other, each of them once, and each holds what the profile answers at its own place. So two
patches agree where they overlap.

* `flat`, `offsets`: the index of a cell, and the cells in the order the loop comes to them.
* `map_flat_offsets`: the loop comes to every index once, from the first to the last.
* `fill_eq`: it fills the whole cube, or ends at the first cell that there is none of.
* `Holds`: what a cell holds.
* `patches_faithful`: when there is a patch, what its cells hold, and that patches agree.
-/

namespace Terrain

/-- The place that lies at an offset from another. -/
def Position.shift (q : Position) (i j k : Nat) : Position := ⟨q.x + i, q.y + j, q.z + k⟩

namespace Patch

open Terrain.Attempt Terrain.Formula

variable {p : Profile} {arrays : Arrays} {stack : Stack} {noise : Noise} {climate : Climate}
variable {q origin : Position} {size : Int} {edge i j k : Nat}

/-! ## 1. Offsets and indexes -/

/-- The index of a cell: the last coordinate runs fastest. -/
def flat (edge : Nat) (t : Nat × Nat × Nat) : Nat := (t.1 * edge + t.2.1) * edge + t.2.2

/-- The offsets of the cells of a cube, in the order that a loop over each coordinate inside the
    other comes to them. -/
def offsets (edge : Nat) : List (Nat × Nat × Nat) :=
  (List.range edge).flatMap fun i => (List.range edge).flatMap fun j =>
    (List.range edge).map fun k => (i, j, k)

/-- A round of a loop, from the number of rounds that the loop inside it has made. -/
theorem mul_add_div_of_lt {m k : Nat} (hk : k < edge) : (m * edge + k) / edge = m := by
  rw [Nat.add_comm, Nat.add_mul_div_right _ _ (Nat.zero_lt_of_lt hk), Nat.div_eq_of_lt hk,
    Nat.zero_add]

theorem mem_offsets_iff : (i, j, k) ∈ offsets edge ↔ i < edge ∧ j < edge ∧ k < edge := by
  simp [offsets]

/-- The index of the cell at an offset. -/
theorem flat_offset (edge n : Nat) : flat edge (offset edge n) = n := by
  unfold flat offset
  dsimp only
  rw [← Nat.div_div_eq_div_mul, Nat.div_add_mod', Nat.div_add_mod']

/-- The offset of the cell at an index. -/
theorem offset_flat (hj : j < edge) (hk : k < edge) :
    offset edge (flat edge (i, j, k)) = (i, j, k) := by
  unfold flat offset
  dsimp only
  rw [← Nat.div_div_eq_div_mul, mul_add_div_of_lt hk, mul_add_div_of_lt hj,
    Nat.mul_add_mod_of_lt hk, Nat.mul_add_mod_of_lt hj]

/-- A loop inside another is one loop, over as many numbers as both make rounds. -/
theorem map_range_mul {α : Type} (f : Nat → Nat → α) (n : Nat) : ∀ m : Nat,
    (List.range (m * n)).map (fun x => f (x / n) (x % n)) =
      (List.range m).flatMap fun i => (List.range n).map (f i)
  | 0 => by simp
  | m + 1 => by
    have hlast : (List.range n).map (fun k => f ((m * n + k) / n) ((m * n + k) % n)) =
        (List.range n).map (f m) := by
      refine List.map_congr_left fun k hk => ?_
      have hk := List.mem_range.1 hk
      rw [mul_add_div_of_lt hk, Nat.mul_add_mod_of_lt hk]
    rw [Nat.succ_mul, List.range_add, List.map_append, map_range_mul f n m, List.map_map,
      List.range_succ, List.flatMap_append, List.flatMap_singleton]
    exact congrArg _ hlast

/-- The cells are listed in the order that the loop comes to them. -/
theorem map_offset_range (edge : Nat) :
    (List.range (edge * edge * edge)).map (offset edge) = offsets edge := by
  have hinner (i : Nat) := map_range_mul (fun j k => (i, j, k)) edge edge
  have houter := map_range_mul (fun i x => (i, x / edge, x % edge)) (edge * edge) edge
  unfold offsets
  simp only [← hinner]
  rw [← houter, Nat.mul_assoc]
  refine List.map_congr_left fun n _ => ?_
  rw [Nat.mod_mul_right_div_self, Nat.mod_mul_left_mod]
  rfl

/-- **The loop comes to every index once**, from the first to the last. -/
theorem map_flat_offsets (edge : Nat) :
    (offsets edge).map (flat edge) = List.range (edge * edge * edge) := by
  rw [← map_offset_range, List.map_map]
  simp [Function.comp_def, flat_offset]

/-- The index of a cell is below the number of cells. -/
theorem flat_lt (hi : i < edge) (hj : j < edge) (hk : k < edge) :
    flat edge (i, j, k) < edge * edge * edge := by
  rw [← List.mem_range, ← map_flat_offsets]
  exact List.mem_map_of_mem (mem_offsets_iff.2 ⟨hi, hj, hk⟩)

/-! ## 2. The loop -/

/-- The loop that fills a cube: each cell is written at its index. Where nothing is written yet
    there is `none`. -/
def fill (edge : Nat) (cell : Nat × Nat × Nat → Except Refusal Cell) :
    Except Refusal (List (Option Cell)) :=
  (offsets edge).foldlM (fun cells t => return cells.set (flat edge t) (some (← cell t)))
    (List.replicate (edge * edge * edge) none)

/-- **The loop fills the whole cube**, or ends at the first cell that there is none of. -/
theorem fill_eq (edge : Nat) (cell : Nat × Nat × Nat → Except Refusal Cell) :
    fill edge cell =
      ((List.range (edge * edge * edge)).mapM fun n => cell (offset edge n)).map
        (·.map some) := by
  unfold fill
  rw [← map_offset_range, List.foldlM_map]
  simp only [flat_offset]
  rw [List.range_eq_range']
  exact foldlM_set_range' (f := fun n => cell (offset edge n)) _ []

/-! ## 3. When there is a patch -/

/-- **There is an edge** if the size is positive and there are arrays for the cells. -/
theorem edgeOf_eq_ok_iff : edgeOf arrays size = .ok edge ↔
    0 < size ∧ edge = size.toNat ∧ arrays edge = .ok () := by
  unfold edgeOf
  by_cases hpos : size ≤ 0
  · rw [if_pos hpos]
    constructor
    · nofun
    · intro hex
      exact absurd hex.1 (Int.not_lt.2 hpos)
  · rw [if_neg hpos]
    constructor
    · intro h
      obtain ⟨⟨⟩, hgranted, h⟩ := bind_eq_ok h
      cases h
      exact ⟨Int.lt_of_not_ge hpos, rfl, mapError_eq_ok_iff.1 hgranted⟩
    · intro hex
      obtain ⟨-, rfl, hgranted⟩ := hex
      rw [hgranted]
      rfl

/-- A place of a patch lies at the offset of its cell. -/
theorem place_eq (origin : Position) (edge n : Nat) : place origin edge n =
    origin.shift (offset edge n).1 (offset edge n).2.1 (offset edge n).2.2 := rfl

/-- All places of a patch are those at the offsets of its cells. -/
theorem forall_place_iff {P : Position → Prop} :
    (∀ n ∈ List.range (edge * edge * edge), P (place origin edge n)) ↔
      ∀ i j k, i < edge → j < edge → k < edge → P (origin.shift i j k) := by
  constructor
  · intro h i j k hi hj hk
    have hplace := h _ (List.mem_range.2 (flat_lt hi hj hk))
    rwa [place_eq, offset_flat hj hk] at hplace
  · intro h n hn
    have hmem : offset edge n ∈ offsets edge := by
      rw [← map_offset_range]
      exact List.mem_map_of_mem hn
    obtain ⟨hi, hj, hk⟩ := mem_offsets_iff.1 hmem
    exact h _ _ _ hi hj hk

/-- **There is a patch** exactly if there are arrays for its cells and a cell at each of its
    places. -/
theorem exists_sample_iff (hpos : 0 < size)
    (hfits : [origin.x, origin.y, origin.z].all Noise.fitsWord = true) :
    (∃ patch, sample arrays stack p noise climate origin size = .ok patch) ↔
      arrays size.toNat = .ok () ∧
      ∀ i j k, i < size.toNat → j < size.toNat → k < size.toNat →
        ∃ cell, cellAt p stack noise climate (origin.shift i j k) = .ok cell := by
  rw [← forall_place_iff (P := fun q => ∃ cell, cellAt p stack noise climate q = .ok cell),
    ← exists_mapM_eq_ok_iff]
  constructor
  · intro hex
    obtain ⟨patch, h⟩ := hex
    obtain ⟨edge, cells, hedge, hcells, -⟩ := sample_eq_ok_iff.1 h
    obtain ⟨-, rfl, hgranted⟩ := edgeOf_eq_ok_iff.1 hedge
    exact ⟨hgranted, cells, hcells⟩
  · intro hex
    obtain ⟨hgranted, cells, hcells⟩ := hex
    exact ⟨_, sample_eq_ok_iff.2
      ⟨_, cells, edgeOf_eq_ok_iff.2 ⟨hpos, rfl, hgranted⟩, hcells, hfits, rfl⟩⟩

/-! ## 4. What cells hold -/

/-- The ids that a profile answers fit the cells of a patch. -/
def Storable (p : Profile) : Prop :=
  ∀ stack noise c v, (p.sampleVoxel stack noise c).result = .ok v → v.id ≤ 65535

/-- **A profile that is compiled with registered types is storable.** -/
theorem storable_of_compile {es : List (Value × Value)} {t₀ : VoxelTypes}
    (h₀ : VoxelTypes.empty.registerAll es = .ok t₀) (history : List (String × Value))
    {room jsonRoom : Nat} {name : String} {document : Value} {log : List Log.Record}
    (h : Profile.compile ⟨(t₀.triedAll history).idOf?, room, jsonRoom⟩ name document =
      (.ok p, log)) : Storable p := by
  have hrange := (VoxelTypes.inRange_of_registerAll h₀).triedAll history
  obtain ⟨_, _, _, -, -, -, hvoxel⟩ := Profile.sampleVoxel_of_compile h
  intro stack noise c v hv
  obtain ⟨_, -, hid, -⟩ := hvoxel stack noise c v hv
  exact hrange.idOf?_le hid

/-- A profile answers at a place: the climate has a context there, and with it there are a density
    and a voxel. -/
def Answered (p : Profile) (stack : Stack) (noise : Noise) (climate : Climate) (q : Position) :
    Prop :=
  ∃ c density v, climate.contextAt q 0 = .ok c ∧
    (p.sampleDensity stack noise c).result = .ok density ∧
    (p.sampleVoxel stack noise c).result = .ok v

/-- **A cell holds what a profile answers at a place.** -/
def Holds (p : Profile) (stack : Stack) (noise : Noise) (climate : Climate) (q : Position)
    (cell : Cell) : Prop :=
  ∃ c density v, climate.contextAt q 0 = .ok c ∧
    (p.sampleDensity stack noise c).result = .ok density ∧
    (p.sampleVoxel stack noise c).result = .ok v ∧
    cell.density = density.toFloat32 ∧ Stores cell v

/-- A cell is made where the profile answers. -/
theorem exists_cellAt_iff :
    (∃ cell, cellAt p stack noise climate q = .ok cell) ↔ Answered p stack noise climate q := by
  constructor
  · intro hex
    obtain ⟨cell, h⟩ := hex
    obtain ⟨c, density, v, hc, hdensity, hv, -⟩ := cellAt_eq_ok_iff.1 h
    exact ⟨c, density, v, hc, hdensity, hv⟩
  · intro hex
    obtain ⟨c, density, v, hc, hdensity, hv⟩ := hex
    exact ⟨_, cellAt_eq_ok_iff.2 ⟨c, density, v, hc, hdensity, hv, rfl⟩⟩

/-- What is made is what the profile answers. -/
theorem holds_of_cellAt (hp : Storable p) {cell : Cell}
    (h : cellAt p stack noise climate q = .ok cell) : Holds p stack noise climate q cell := by
  obtain ⟨c, density, v, hc, hdensity, hv, rfl⟩ := cellAt_eq_ok_iff.1 h
  exact ⟨c, density, v, hc, hdensity, hv, rfl, stores_of_le (hp stack noise c v hv)⟩

/-! ## 5. Patches -/

/-- The cell of a patch at an offset is the cell of its place. -/
theorem exists_cell_of_sample {patch : Patch}
    (h : sample arrays stack p noise climate origin size = .ok patch)
    (hi : i < patch.size) (hj : j < patch.size) (hk : k < patch.size) :
    ∃ cell, patch.cells[flat patch.size (i, j, k)]? = some cell ∧
      cellAt p stack noise climate (origin.shift i j k) = .ok cell := by
  obtain ⟨hlength, hcells⟩ := sample_ok h
  have hlt := flat_lt hi hj hk
  rw [← hlength] at hlt
  have hcell := List.getElem?_eq_getElem hlt
  refine ⟨_, hcell, ?_⟩
  have hmade := hcells _ _ hcell
  rwa [place_eq, offset_flat hj hk] at hmade

/-- **A patch is faithful**: the loop over its places has written each of its cells once, and each
    holds what the profile answers at its place. -/
structure Faithful (p : Profile) (stack : Stack) (noise : Noise) (climate : Climate)
    (origin : Position) (patch : Patch) : Prop where
  length : patch.cells.length = patch.size * patch.size * patch.size
  /-- The loop fills the cube with the cells of the patch. -/
  filled : fill patch.size (fun t => cellAt p stack noise climate
    (origin.shift t.1 t.2.1 t.2.2)) = .ok (patch.cells.map some)
  /-- It comes to each of them once. -/
  once : (offsets patch.size).map (flat patch.size) = List.range patch.cells.length
  holds : ∀ i j k, i < patch.size → j < patch.size → k < patch.size →
    ∃ cell, patch.cells[(i * patch.size + j) * patch.size + k]? = some cell ∧
      Holds p stack noise climate (origin.shift i j k) cell

theorem faithful_of_sample (hp : Storable p) {patch : Patch}
    (h : sample arrays stack p noise climate origin size = .ok patch) :
    Faithful p stack noise climate origin patch where
  length := (sample_ok h).1
  filled := by
    obtain ⟨edge, cells, -, hcells, -, rfl⟩ := sample_eq_ok_iff.1 h
    rw [fill_eq]
    exact congrArg (Except.map _) hcells
  once := by rw [(sample_ok h).1, map_flat_offsets]
  holds i j k hi hj hk := by
    obtain ⟨cell, hcell, hmade⟩ := exists_cell_of_sample h hi hj hk
    exact ⟨cell, hcell, holds_of_cellAt hp hmade⟩

/-- **Patches of one profile agree where they overlap.** -/
theorem agree_of_sample {origin' : Position} {size' : Int} {patch patch' : Patch} {i' j' k' : Nat}
    (h : sample arrays stack p noise climate origin size = .ok patch)
    (h' : sample arrays stack p noise climate origin' size' = .ok patch')
    (hi : i < patch.size) (hj : j < patch.size) (hk : k < patch.size)
    (hi' : i' < patch'.size) (hj' : j' < patch'.size) (hk' : k' < patch'.size)
    (hplace : origin.shift i j k = origin'.shift i' j' k') :
    patch.cells[flat patch.size (i, j, k)]? = patch'.cells[flat patch'.size (i', j', k')]? := by
  obtain ⟨cell, hcell, hmade⟩ := exists_cell_of_sample h hi hj hk
  obtain ⟨cell', hcell', hmade'⟩ := exists_cell_of_sample h' hi' hj' hk'
  rw [hplace, hmade', Except.ok.injEq] at hmade
  rw [hcell, hcell', hmade]

/-- **Patches are faithful and agree where they overlap.** With a profile that is compiled with
    registered types there is a patch exactly if there are arrays for its cells and the profile
    answers at each of its places. Each of its cells is written once, and holds what the profile
    answers at its own place. Cells of two patches that stand for one place are the same. -/
theorem patches_faithful {es : List (Value × Value)} {t₀ : VoxelTypes}
    (h₀ : VoxelTypes.empty.registerAll es = .ok t₀) (history : List (String × Value))
    {room jsonRoom : Nat} {name : String} {document : Value} {log : List Log.Record}
    (h : Profile.compile ⟨(t₀.triedAll history).idOf?, room, jsonRoom⟩ name document =
      (.ok p, log))
    (arrays : Arrays) (stack : Stack) (noise : Noise) (climate : Climate) :
    (∀ origin size, 0 < size → [origin.x, origin.y, origin.z].all Noise.fitsWord = true →
      ((∃ patch, sample arrays stack p noise climate origin size = .ok patch) ↔
        arrays size.toNat = .ok () ∧
        ∀ i j k, i < size.toNat → j < size.toNat → k < size.toNat →
          Answered p stack noise climate (origin.shift i j k))) ∧
    (∀ origin size patch, sample arrays stack p noise climate origin size = .ok patch →
      size = patch.size ∧ Faithful p stack noise climate origin patch) ∧
    ∀ origin origin' size size' patch patch',
      sample arrays stack p noise climate origin size = .ok patch →
      sample arrays stack p noise climate origin' size' = .ok patch' →
      ∀ i j k i' j' k', i < patch.size → j < patch.size → k < patch.size →
        i' < patch'.size → j' < patch'.size → k' < patch'.size →
        origin.shift i j k = origin'.shift i' j' k' →
        patch.cells[(i * patch.size + j) * patch.size + k]? =
          patch'.cells[(i' * patch'.size + j') * patch'.size + k']? := by
  have hp := storable_of_compile h₀ history h
  refine ⟨fun origin size hpos hfits => ?_, fun origin size patch hpatch => ?_, ?_⟩
  · rw [exists_sample_iff hpos hfits]
    simp only [exists_cellAt_iff]
  · obtain ⟨edge, _, hedge, -, -, rfl⟩ := sample_eq_ok_iff.1 hpatch
    obtain ⟨hpos, rfl, -⟩ := edgeOf_eq_ok_iff.1 hedge
    exact ⟨(Int.toNat_of_nonneg (Int.le_of_lt hpos)).symm, faithful_of_sample hp hpatch⟩
  · intro origin origin' size size' patch patch' hpatch hpatch' i j k i' j' k' hi hj hk hi' hj' hk'
    exact agree_of_sample hpatch hpatch' hi hj hk hi' hj' hk'

/-- Arrays of any size. -/
def allArrays : Arrays := fun _ => .ok ()

/-- Noise that is nought everywhere. -/
def still : Noise := fun _ => .ok 0

/-- A climate with the usual scales. -/
def mild : Climate := .ofSeed Noise.simplex 1 64 0.002 0.003

/-- A climate whose moisture has no scale. -/
def scaleless : Climate := .ofSeed Noise.simplex 1 64 0.002 (Number.infinity false)

/-- The usual scales give a context at all places of a small cube. -/
theorem exists_context_mild (hi : i < 2) (hj : j < 2) (hk : k < 2) :
    ∃ c, mild.contextAt (Position.shift ⟨0, 60, -1⟩ i j k) 0 = .ok c := by
  have hall : ∀ i < 2, ∀ j < 2, ∀ k < 2,
      (mild.contextAt (Position.shift ⟨0, 60, -1⟩ i j k) 0).toOption.isSome = true := by
    decide +kernel
  exact exists_of_isSome (hall i hi j hj k hk)

/-- A profile of strata, with the types that are registered for it. It has few nodes. -/
theorem exists_strata : ∃ t₀ p log,
    VoxelTypes.empty.registerAll [(.text "stone", .int 7)] = .ok t₀ ∧
    Profile.compile (.standard (t₀.triedAll stoneHistory).idOf?) "strata" strata =
      (.ok p, log) ∧ p.graph.size ≤ 100 := by
  have h₀ : VoxelTypes.empty.registerAll [(.text "stone", .int 7)] = .ok ⟨[⟨"stone", 7⟩], 0⟩ := by
    decide +kernel
  have hok : (Profile.compile
      (.standard (VoxelTypes.triedAll ⟨[⟨"stone", 7⟩], 0⟩ stoneHistory).idOf?)
      "strata" strata).1.toOption.any (fun p => p.graph.size ≤ 100) = true := by
    decide +kernel
  obtain ⟨p, log, h, hsize⟩ := exists_run_of_any hok
  exact ⟨_, p, log, h₀, h, of_decide_eq_true hsize⟩

theorem patches_faithful_strata : ∃ t₀ p log patch patch',
    VoxelTypes.empty.registerAll [(.text "stone", .int 7)] = .ok t₀ ∧
    Profile.compile (.standard (t₀.triedAll stoneHistory).idOf?) "strata" strata =
      (.ok p, log) ∧
    sample allArrays Host.calls p still mild ⟨0, 60, -1⟩ 2 = .ok patch ∧
    sample allArrays Host.calls p still mild ⟨1, 61, 0⟩ 1 = .ok patch' ∧
    Faithful p Host.calls still mild ⟨0, 60, -1⟩ patch ∧
    patch.cells[7]? = patch'.cells[0]? := by
  obtain ⟨t₀, p, log, h₀, h, hsize⟩ := exists_strata
  obtain ⟨hiff, hfaithful, hagree⟩ :=
    patches_faithful h₀ stoneHistory h allArrays Host.calls still mild
  have answered {i j k : Nat} (hi : i < 2) (hj : j < 2) (hk : k < 2) :
      Answered p Host.calls still mild (Position.shift ⟨0, 60, -1⟩ i j k) := by
    obtain ⟨c, hc⟩ := exists_context_mild hi hj hk
    -- the profile has far fewer nodes than calls may be open
    have hroom : p.graph.size + max Host.calls.reading Host.calls.asking ≤ Host.calls.levels :=
      Nat.le_trans (Nat.add_le_add_right hsize _) (by decide)
    have hnoise : still c.position = .ok 0 := rfl
    obtain ⟨⟨density, hdensity⟩, v, hv⟩ := Profile.exists_ok_of_compile h hroom hnoise
    exact ⟨c, density, v, hc, hdensity, hv⟩
  obtain ⟨patch, hpatch⟩ := (hiff ⟨0, 60, -1⟩ 2 (by decide) (by decide)).2
    ⟨rfl, fun _ _ _ => answered⟩
  obtain ⟨patch', hpatch'⟩ := (hiff ⟨1, 61, 0⟩ 1 (by decide) (by decide)).2 ⟨rfl,
    fun i j k hi hj hk => by
      obtain ⟨rfl, rfl, rfl⟩ : i = 0 ∧ j = 0 ∧ k = 0 :=
        ⟨Nat.lt_one_iff.1 hi, Nat.lt_one_iff.1 hj, Nat.lt_one_iff.1 hk⟩
      -- the second patch is a corner of the first
      exact answered (i := 1) (j := 1) (k := 1) (by decide) (by decide) (by decide)⟩
  obtain ⟨hsize, hfaith⟩ := hfaithful _ _ _ hpatch
  obtain ⟨hsize', -⟩ := hfaithful _ _ _ hpatch'
  have hedge : patch.size = 2 := by omega
  have hedge' : patch'.size = 1 := by omega
  refine ⟨t₀, p, log, patch, patch', h₀, h, hpatch, hpatch', hfaith, ?_⟩
  have hsame := hagree _ _ _ _ _ _ hpatch hpatch' 1 1 1 0 0 0 (by omega) (by omega) (by omega)
    (by omega) (by omega) (by omega) rfl
  rwa [hedge, hedge'] at hsame

/-- A document whose density is noise. -/
def rolling : Value :=
  .map [(.text Profile.samplersKey, .list [.map [(.text "Name", .text "hills"),
      (.text "Type", .text "Simplex"), (.text "Wavelength", .int 32), (.text "Amplitude", .int 4)]]),
    (.text Profile.densityKey, .text "hills"),
    (.text Profile.typeKey, .text "Voxel(stone)"),
    (.text Profile.shapeKey, .text "CUBE")]

/-- A place at the edge of the world. -/
def outermost : Position := ⟨-0x8000000000000000, 0x7fffffffffffffff, -0x8000000000000000⟩

/-- **There need not be a patch** for an origin that fits a word and a positive size: an edge may be
    too long for any array, where a scale is infinite the climate has no context, and far out noise
    is refused, so that there is no density. -/
theorem exists_no_sample : ∃ t₀ p log,
    VoxelTypes.empty.registerAll [(.text "stone", .int 7)] = .ok t₀ ∧
    Profile.compile (.standard (t₀.triedAll stoneHistory).idOf?) "rolling" rolling =
      (.ok p, log) ∧
    (∀ stack noise climate, ¬ ∃ patch,
      sample Host.roomFor stack p noise climate ⟨0, 0, 0⟩ 0x8000000000000000 = .ok patch) ∧
    (∀ arrays stack noise, ¬ ∃ patch,
      sample arrays stack p noise scaleless ⟨0, 0, 0⟩ 1 = .ok patch) ∧
    [outermost.x, outermost.y, outermost.z].all Noise.fitsWord = true ∧
    ¬ ∃ patch, sample allArrays Host.calls p (Noise.simplex 1).source mild outermost 1 =
      .ok patch := by
  have h₀ : VoxelTypes.empty.registerAll [(.text "stone", .int 7)] = .ok ⟨[⟨"stone", 7⟩], 0⟩ := by
    decide +kernel
  have hrefused : (Profile.compile
      (.standard (VoxelTypes.triedAll ⟨[⟨"stone", 7⟩], 0⟩ stoneHistory).idOf?)
      "rolling" rolling).1.toOption.any (fun p => (sample allArrays Host.calls p
        (Noise.simplex 1).source mild outermost 1).toOption.isNone) = true := by
    decide +kernel
  have hfits : [(0 : Int), 0, 0].all Noise.fitsWord = true := by decide
  obtain ⟨p, log, h, hnone⟩ := exists_run_of_any hrefused
  refine ⟨_, p, log, h₀, h, ?_, ?_, by decide, ?_⟩
  · intro stack noise climate
    rw [exists_sample_iff (by decide) hfits]
    intro hex
    exact absurd hex.1 (by decide)
  · intro arrays stack noise
    rw [exists_sample_iff (by decide) hfits]
    intro hex
    obtain ⟨c, -, -, hc, -, -⟩ :=
      exists_cellAt_iff.1 (hex.2 0 0 0 (by decide) (by decide) (by decide))
    have hnone :
        (scaleless.contextAt (Position.shift ⟨0, 0, 0⟩ 0 0 0) 0).toOption.isSome = false := by
      decide +kernel
    rw [hc] at hnone
    cases hnone
  · intro hex
    obtain ⟨patch, hpatch⟩ := hex
    rw [hpatch] at hnone
    cases hnone

end Patch
end Terrain
