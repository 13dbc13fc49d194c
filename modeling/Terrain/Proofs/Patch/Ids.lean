import Terrain.Patch
import Terrain.Proofs.Formula.Leaves
import Terrain.Proofs.Profile.Interpreter
import Terrain.Proofs.VoxelTypes.Registering

/-!
# Ids from the registry to the patch

The id of a voxel type is checked when the type is registered, copied into the graph when a formula
names it, and cut to sixteen bits when a patch stores it. Nothing is ever cut off.

* `sampleVoxel_of_compile`: a compiled profile answers a type and a shape that its formulas offer.
* `sample_eq_ok_iff`: when there is a patch.
* `cellAt_ok`, `sample_ok`: what the cells of a patch are.
* `registered_ids_stored`: a cell stores the id that was registered for an offered name.
-/

namespace Terrain.Profile

open Terrain.Formula

variable {s : Setting} {w w' : Workshop} {entries : List (Value × Value)}

/-! ## 1. What a compiled profile answers -/

/-- A formula under a key is built from a text, with all fields in scope. -/
theorem reading_of_compileKey {k : Kind} {key : String} {root : Nat}
    (h : (compileKey s k entries key).run w = (.ok root, w')) :
    ∃ text e, Value.lookup key entries = some (.text text) ∧
      Reading ⟨s.voxelId, w'.fields⟩ k text.toList e ∧
      e.Stands ⟨s.voxelId, w'.fields⟩ w'.draft.graph root := by
  obtain ⟨text, htext, hbuilt, hfields⟩ := run_compileKey_ok h
  obtain ⟨e, he, -, hstands⟩ := hbuilt.reading
  rw [Workshop.scope, ← hfields] at he hstands
  exact ⟨text, e, requireText_eq_ok_iff.1 htext, he, hstands⟩

/-- What a voxel is made of. -/
theorem sampleVoxel_ok {p : Profile} {stack : Stack} {noise : Noise} {c : Context} {v : Voxel}
    (hv : (p.sampleVoxel stack noise c).result = .ok v) :
    ∃ id shape, (p.graph.evaluate stack noise c p.voxelId).result = .ok (.voxel id) ∧
      (p.graph.evaluate stack noise c p.shape).result = .ok (.shape shape) ∧
      v = ⟨id, shape, defaultState⟩ := by
  unfold sampleVoxel at hv
  simp only [Answer.result_bind] at hv
  rcases hid : (p.graph.evaluate stack noise c p.voxelId).result with e | r
  · rw [hid] at hv
    cases hv
  · rw [hid] at hv
    rcases hshape : (p.graph.evaluate stack noise c p.shape).result with e | r'
    · rw [hshape] at hv
      cases r <;> cases hv
    · rw [hshape] at hv
      cases r <;> cases r' <;> cases hv
      exact ⟨_, _, rfl, rfl, rfl⟩

/-- **The voxel that a compiled profile answers**: its id is that of a type that the formula of
    types offers, and its shape is one that the formula of shapes offers. -/
theorem sampleVoxel_of_compile {name : String} {document : Value} {p : Profile}
    {log : List Log.Record} (h : compile s name document = (.ok p, log)) :
    ∃ entries type shape, document = .map entries ∧
      Value.lookup typeKey entries = some (.text type) ∧
      Value.lookup shapeKey entries = some (.text shape) ∧
      ∀ stack noise c v, (p.sampleVoxel stack noise c).result = .ok v →
        ∃ w, Offers ⟨s.voxelId, p.fields⟩ .voxel type.toList (.voxel w) ∧
          s.voxelId w = some v.id ∧
          Offers ⟨s.voxelId, p.fields⟩ .shape shape.toList (.shape v.shape) := by
  obtain ⟨entries, w, rfl, hrun⟩ := compile_ok h
  obtain ⟨samplers, w₁, w₂, w₃, u, -, -, -, hvoxel, hshape, hp⟩ := run_compileEntries_ok hrun
  obtain ⟨type, eV, htype, hreadV, hstandsV⟩ := reading_of_compileKey hvoxel
  obtain ⟨shape, eS, hshapeText, hreadS, hstandsS⟩ := reading_of_compileKey hshape
  obtain ⟨_, -, hbuiltS, hfields⟩ := run_compileKey_ok hshape
  have hgraph : p.graph = w.draft.graph := by rw [hp]
  have hscope : p.fields = w.fields := by rw [hp]
  rw [← hfields] at hreadV hstandsV
  refine ⟨entries, type, shape, rfl, htype, hshapeText, fun stack noise c v hv => ?_⟩
  rw [hscope]
  obtain ⟨id, f, hid, hf, rfl⟩ := sampleVoxel_ok hv
  rw [hgraph] at hid hf
  obtain ⟨leafV, hoffersV, hnamesV⟩ := exists_leaf_of_evaluateIn hreadV (by decide) (by decide)
    (hstandsV.grow hbuiltS.starts) hid
  obtain ⟨leafS, hoffersS, hnamesS⟩ := exists_leaf_of_evaluateIn hreadS (by decide) (by decide)
    hstandsS hf
  cases hnamesV with
  | voxel hid =>
    cases hnamesS with
    | shape f => exact ⟨_, hoffersV, hid, hoffersS⟩

end Terrain.Profile

namespace Terrain.Patch

open Terrain.Formula

variable {p : Profile} {noise : Noise} {stack : Stack} {arrays : Arrays} {climate : Climate}
variable {q origin : Position} {size : Int}

/-! ## 2. Cells -/

/-- **When there is a cell**: the climate has a context at the place, and there the profile answers a
    density and a voxel. -/
theorem cellAt_eq_ok_iff {cell : Cell} : cellAt p stack noise climate q = .ok cell ↔
    ∃ c density v, climate.contextAt q 0 = .ok c ∧
      (p.sampleDensity stack noise c).result = .ok density ∧
      (p.sampleVoxel stack noise c).result = .ok v ∧
      cell = ⟨density.toFloat32, UInt16.ofNat v.id, v.shape.code⟩ := by
  unfold cellAt
  constructor
  · intro h
    obtain ⟨c, hc, h⟩ := Attempt.bind_eq_ok h
    obtain ⟨density, hdensity, h⟩ := Attempt.bind_eq_ok h
    obtain ⟨v, hv, h⟩ := Attempt.bind_eq_ok h
    cases h
    exact ⟨c, density, v, Attempt.mapError_eq_ok_iff.1 hc, Attempt.mapError_eq_ok_iff.1 hdensity,
      Attempt.mapError_eq_ok_iff.1 hv, rfl⟩
  · intro hex
    obtain ⟨c, density, v, hc, hdensity, hv, rfl⟩ := hex
    rw [Attempt.bind_of_ok (Attempt.mapError_eq_ok_iff.2 hc),
      Attempt.bind_of_ok (Attempt.mapError_eq_ok_iff.2 hdensity),
      Attempt.bind_of_ok (Attempt.mapError_eq_ok_iff.2 hv)]
    rfl

/-- **When there is a patch**: there are arrays for its edge, every place has a cell, and the origin
    fits a word. -/
theorem sample_eq_ok_iff {patch : Patch} :
    sample arrays stack p noise climate origin size = .ok patch ↔
    ∃ edge cells, edgeOf arrays size = .ok edge ∧
      ((List.range (edge * edge * edge)).mapM fun n =>
        cellAt p stack noise climate (place origin edge n)) = .ok cells ∧
      [origin.x, origin.y, origin.z].all Noise.fitsWord = true ∧
      patch = ⟨p.name, climate.seed, origin, edge, cells⟩ := by
  unfold sample
  constructor
  · intro h
    obtain ⟨edge, hedge, h⟩ := Attempt.bind_eq_ok h
    obtain ⟨cells, hcells, h⟩ := Attempt.bind_eq_ok h
    split at h
    · rename_i hfits
      cases h
      exact ⟨edge, cells, hedge, hcells, hfits, rfl⟩
    · cases h
  · intro hex
    obtain ⟨edge, cells, hedge, hcells, hfits, rfl⟩ := hex
    rw [Attempt.bind_of_ok hedge, Attempt.bind_of_ok hcells, if_pos hfits]
    rfl

/-- **The cells of a patch**: as many as the cube has, each that of its own place. -/
theorem sample_ok {patch : Patch}
    (h : sample arrays stack p noise climate origin size = .ok patch) :
    patch.cells.length = patch.size * patch.size * patch.size ∧
    ∀ n cell, patch.cells[n]? = some cell →
      cellAt p stack noise climate (place origin patch.size n) = .ok cell := by
  obtain ⟨edge, cells, -, hcells, -, rfl⟩ := sample_eq_ok_iff.1 h
  obtain ⟨hlength, hitems⟩ := Attempt.getElem?_of_mapM_ok hcells
  refine ⟨by rw [hlength, List.length_range], fun n cell hn => ?_⟩
  obtain ⟨m, hm, hcell⟩ := hitems n cell hn
  obtain ⟨hlt, rfl⟩ := List.getElem?_eq_some_iff.1 hm
  rwa [List.getElem_range] at hcell

/-! ## 3. Ids -/

/-- A voxel is drawn from formulas: its id is the one of a name that the formula of types offers,
    it has sixteen bits, and its shape is one that the formula of shapes offers. -/
structure Drawn (sc : Scope) (type shape : String) (v : Voxel) : Prop where
  id : ∃ w, Offers sc .voxel type.toList (.voxel w) ∧ sc.voxelId w = some v.id
  range : v.id ≤ 65535
  shape : Offers sc .shape shape.toList (.shape v.shape)

/-- A cell stores the id of a voxel itself, and one of two codes for its shape. -/
structure Stores (cell : Cell) (v : Voxel) : Prop where
  id : cell.voxelId.toNat = v.id
  shape : cell.shape = v.shape.code
  code : cell.shape = 0 ∨ cell.shape = 1

theorem stores_of_le {density : Float32} {v : Voxel} (h : v.id ≤ 65535) :
    Stores ⟨density, UInt16.ofNat v.id, v.shape.code⟩ v where
  id := by
    rw [UInt16.toNat_ofNat', Nat.mod_eq_of_lt (Nat.lt_succ_of_le h)]
  shape := rfl
  code := by
    cases v.shape with
    | cube => exact .inl rfl
    | slab => exact .inr rfl

/-- **The ids that are registered are the ids that patches store.** Whatever was registered after
    the types of a list, and whatever of it was refused, a profile compiled with these types answers
    a voxel everywhere that is drawn from its formulas, unless noise is refused at the place or the
    calls that this takes are more than may be open. Every cell of a patch of it stores the id and
    the shape of the voxel at the cell's place. -/
theorem registered_ids_stored {es : List (Value × Value)} {t₀ : VoxelTypes}
    (h₀ : VoxelTypes.empty.registerAll es = .ok t₀) (history : List (String × Value))
    {room jsonRoom : Nat} {name : String} {document : Value} {p : Profile} {log : List Log.Record}
    (h : Profile.compile ⟨(t₀.triedAll history).idOf?, room, jsonRoom⟩ name document =
      (.ok p, log)) :
    ∃ entries type shape, document = .map entries ∧
      Value.lookup Profile.typeKey entries = some (.text type) ∧
      Value.lookup Profile.shapeKey entries = some (.text shape) ∧
      (∀ calls noise c, Settles noise c (fun room => p.sampleVoxel ⟨calls, room⟩ noise c)
        (Drawn ⟨(t₀.triedAll history).idOf?, p.fields⟩ type shape)) ∧
      ∀ arrays stack noise climate origin size patch,
        sample arrays stack p noise climate origin size = .ok patch →
        patch.cells.length = patch.size * patch.size * patch.size ∧
        ∀ n cell, patch.cells[n]? = some cell →
          ∃ c v, climate.contextAt (place origin patch.size n) 0 = .ok c ∧
            (p.sampleVoxel stack noise c).result = .ok v ∧
            Drawn ⟨(t₀.triedAll history).idOf?, p.fields⟩ type shape v ∧ Stores cell v := by
  have hrange := (VoxelTypes.inRange_of_registerAll h₀).triedAll history
  obtain ⟨entries, type, shape, hmap, htype, hshape, hvoxel⟩ := Profile.sampleVoxel_of_compile h
  have hdrawn : ∀ stack noise c v, (p.sampleVoxel stack noise c).result = .ok v →
      Drawn ⟨(t₀.triedAll history).idOf?, p.fields⟩ type shape v := by
    intro stack noise c v hv
    obtain ⟨w, hw, hid, hf⟩ := hvoxel stack noise c v hv
    exact ⟨⟨w, hw, hid⟩, hrange.idOf?_le hid, hf⟩
  refine ⟨entries, type, shape, hmap, htype, hshape, fun calls noise c => ?_, ?_⟩
  · exact (Profile.settles_of_compile h calls noise c).2.mono fun room => hdrawn ⟨calls, room⟩ _ _
  intro arrays stack noise climate origin size patch hpatch
  obtain ⟨hlength, hcells⟩ := sample_ok hpatch
  refine ⟨hlength, fun n cell hn => ?_⟩
  obtain ⟨c, density, v, hc, -, hv, rfl⟩ := cellAt_eq_ok_iff.1 (hcells n cell hn)
  have hd := hdrawn stack noise c v hv
  exact ⟨c, v, hc, hv, hd, stores_of_le hd.range⟩

/-- A document that chooses between two types by the depth. -/
def strata : Value :=
  .map [(.text Profile.samplersKey, .list []),
    (.text Profile.densityKey, .text "Depth"),
    (.text Profile.typeKey, .text "If(Less(Depth, Density), Voxel(lava), Voxel( stone ))"),
    (.text Profile.shapeKey, .text "SLAB")]

/-- What is registered after the types of a list; the last of it is refused. -/
def stoneHistory : List (String × Value) :=
  [("stone", .int 9), ("lava", .text "65535"), ("mist", .int 65536)]

theorem registered_ids_stored_strata : ∃ t₀ p log,
    VoxelTypes.empty.registerAll [(.text "stone", .int 7)] = .ok t₀ ∧
    Profile.compile (.standard (t₀.triedAll stoneHistory).idOf?) "strata" strata =
      (.ok p, log) ∧
    ∀ calls noise c, Settles noise c (fun room => p.sampleVoxel ⟨calls, room⟩ noise c)
      fun v => v.id = 7 ∨ v.id = 65535 := by
  have h₀ : VoxelTypes.empty.registerAll [(.text "stone", .int 7)] = .ok ⟨[⟨"stone", 7⟩], 0⟩ := by
    decide +kernel
  have htypes : (VoxelTypes.triedAll ⟨[⟨"stone", 7⟩], 0⟩ stoneHistory).types =
      [⟨"stone", 7⟩, ⟨"lava", 65535⟩] := by
    decide +kernel
  have hok : (Profile.compile
      (.standard (VoxelTypes.triedAll ⟨[⟨"stone", 7⟩], 0⟩ stoneHistory).idOf?)
      "strata" strata).1.toOption.isSome = true := by
    decide +kernel
  obtain ⟨p, log, h⟩ := Attempt.exists_run_of_isSome hok
  obtain ⟨_, _, _, _, _, _, hdrawn, -⟩ := registered_ids_stored h₀ _ h
  refine ⟨_, p, log, h₀, h, fun calls noise c => ?_⟩
  refine (hdrawn calls noise c).mono fun room v hv => ?_
  obtain ⟨w, -, hid⟩ := ((hdrawn calls noise c).of_ok hv).id
  dsimp only at hid
  obtain ⟨type, hmem, htype⟩ := VoxelTypes.exists_of_idOf? hid
  rw [htypes] at hmem
  rw [← htype]
  rcases List.mem_pair.1 hmem with rfl | rfl
  · exact .inl rfl
  · exact .inr rfl

end Terrain.Patch
