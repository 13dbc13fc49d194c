import Terrain.Proofs.Formula.Repeating
import Terrain.Proofs.Profile.Order
import Terrain.Proofs.VoxelTypes.Registering

/-!
# More fields and more types

While profiles are compiled, fields are bound and voxel types are registered, and some of that
fails. A formula that compiled once compiles ever after to the same tree, unless a number that is
visited in it becomes the name of a field.

* `Bench`: a workshop and the types its formulas can name; `Change`: what may happen to them.
* `Bench.Extends`: what every run of changes keeps.
* `compileFormula_of_changes`: what compiled before a run of changes compiles after it.
-/

namespace Terrain.Profile

open Terrain.Formula Terrain.Text

/-! ## 1. Changes -/

/-- A workshop, and the voxel types that its formulas can name. -/
structure Bench where
  types : VoxelTypes
  shop : Workshop

/-- What may happen between two formulas: a request to the workshop, or the registration of a type.
    Either may fail. -/
inductive Change where
  | ask (r : Request)
  | register (name : String) (id : Value)

namespace Bench

/-- A bench on which nothing was bound yet. -/
def start (types : VoxelTypes) : Bench := ⟨types, .empty⟩

/-- What formulas are compiled with: the types of the bench, and the room of a setting. -/
def setting (b : Bench) (s : Setting) : Setting := { s with voxelId := b.types.idOf? }

/-- What names mean in formulas. -/
def scope (b : Bench) : Scope := ⟨b.types.idOf?, b.shop.fields⟩

/-- The bench after a change, whatever came of it. -/
def change (s : Setting) (b : Bench) : Change → Bench
  | .ask r => { b with shop := b.shop.serve (b.setting s) r }
  | .register name id => { b with types := b.types.tried name id }

/-- The bench after a run of changes. -/
def changes (s : Setting) (b : Bench) (cs : List Change) : Bench := cs.foldl (change s) b

/-- What changes keep: ids that are known, the fields and the nodes that are there, and the order of
    the nodes. -/
structure Extends (b b' : Bench) : Prop where
  types : ∀ w id, b.types.idOf? w = some id → b'.types.idOf? w = some id
  fields : b.shop.fields <+: b'.shop.fields
  graph : b.shop.draft.graph.Starts b'.shop.draft.graph
  inOrder : b.shop.InOrder → b'.shop.InOrder

namespace Extends

theorem refl (b : Bench) : b.Extends b :=
  ⟨fun _ _ h => h, List.prefix_rfl, .refl _, fun h => h⟩

theorem trans {b₁ b₂ b₃ : Bench} (h : b₁.Extends b₂) (h' : b₂.Extends b₃) : b₁.Extends b₃ where
  types w id hid := h'.types w id (h.types w id hid)
  fields := h.fields.trans h'.fields
  graph := h.graph.trans h'.graph
  inOrder := h'.inOrder ∘ h.inOrder

end Extends

theorem extends_change (s : Setting) (b : Bench) (c : Change) : b.Extends (b.change s c) := by
  cases c with
  | ask r =>
    have hgrows := grows_serve (b.setting s) b.shop r
    exact ⟨fun _ _ h => h, hgrows.fields, hgrows.graph, fun h => inOrder_serve h _ r⟩
  | register name id =>
    exact ⟨fun w n h => VoxelTypes.idOf?_tried h name id, List.prefix_rfl, .refl _, fun h => h⟩

/-- **A run of changes keeps what was there.** -/
theorem extends_changes (s : Setting) : ∀ (cs : List Change) (b : Bench),
    b.Extends (b.changes s cs)
  | [], b => .refl b
  | c :: cs, b => (extends_change s b c).trans (extends_changes s cs (b.change s c))

/-- A bench that can be reached, with whatever types it started. -/
def Reached (s : Setting) (b : Bench) : Prop := ∃ types cs, b = (start types).changes s cs

/-- On every bench that can be reached, children come first. -/
theorem Reached.inOrder {s : Setting} {b : Bench} (h : b.Reached s) : b.shop.InOrder := by
  obtain ⟨types, cs, rfl⟩ := h
  exact (extends_changes s cs (start types)).inOrder Workshop.inOrder_empty

end Bench

/-! ## 2. Names that are met -/

/-- The texts of the numbers that are visited between two drafts. -/
def numbersVisited (d d' : Draft) : List Text :=
  (d'.steps.toList.drop d.steps.size).filterMap fun
    | .visit .number t => some t
    | _ => none

theorem mem_numbersVisited_iff {d : Draft} {nodes : List Node} {steps : List Step} {t : Text} :
    t ∈ numbersVisited d (d.extend nodes steps) ↔ .visit .number t ∈ steps := by
  have htold : (d.extend nodes steps).steps.toList.drop d.steps.size = steps := by
    unfold Draft.extend
    rw [Array.toList_append, ← Array.length_toList, List.drop_left]
  unfold numbersVisited
  rw [htold, List.mem_filterMap]
  constructor
  · rintro ⟨step, hstep, hvisit⟩
    split at hvisit <;> cases hvisit
    exact hstep
  · exact fun h => ⟨_, h, rfl⟩

/-- Fields that are appended under other names are not found. -/
theorem find?_append_of_forall_ne {fields added : List Field} {t : Text}
    (h : ∀ f ∈ added, f.name ≠ t) :
    (fields ++ added).find? (·.name == t) = fields.find? (·.name == t) := by
  have hnone : added.find? (·.name == t) = none :=
    List.find?_eq_none.2 fun f hf hname => h f hf (beq_iff_eq.1 hname)
  rw [List.find?_append, hnone, Option.or_none]

/-- **What was met means the same later on**, if no field was bound to a name that was met. -/
theorem Bench.Extends.mirrors {b b' : Bench} {f : Nat → Nat} {steps : List Step}
    (h : b.Extends b') (hb : b.shop.InOrder) (hf : ∀ i < b.shop.draft.graph.size, f i = i)
    (hnew : ∀ field ∈ b'.shop.fields.drop b.shop.fields.length,
      .visit .number field.name ∉ steps) : b.scope.Mirrors b'.scope f steps where
  field t ht := by
    obtain ⟨added, hadded⟩ := h.fields
    rw [← hadded, List.drop_left] at hnew
    have hfree : ∀ field ∈ added, field.name ≠ t := by
      intro field hfield he
      exact hnew field hfield (he ▸ ht)
    unfold Scope.field? Bench.scope
    rw [← hadded, find?_append_of_forall_ne hfree]
    cases hfound : b.shop.fields.find? (·.name == t) with
    | none => rfl
    | some field =>
      have hroot := hb.nodes field.root (List.mem_map_of_mem (List.mem_of_find?_eq_some hfound))
      rw [Option.map_some, Option.map_some, hf _ hroot]
  voxel := h.types

/-! ## 3. Trees that stay -/

/-- **What compiled compiles ever after, to the same tree.** On every bench that can be reached, let
    a formula compile. Then, after every run of changes by which no field was bound to the text of a
    number visited in it, it compiles as well, to the same tree, which shares with the fields the
    nodes that it shared with them before. -/
theorem compileFormula_of_changes {s : Setting} {b : Bench} (hb : b.Reached s) {k : Kind}
    {text : String} {root : Nat} {w : Workshop}
    (h : (compileFormula (b.setting s) k text).run b.shop = (.ok root, w)) (cs : List Change)
    (hnew : ∀ field ∈ (b.changes s cs).shop.fields.drop b.shop.fields.length,
      field.name ∉ numbersVisited b.shop.draft w.draft) :
    ∃ root' w', (compileFormula ((b.changes s cs).setting s) k text).run
        (b.changes s cs).shop = (.ok root', w') ∧
      SameTree b.shop.draft.graph.size w.draft.graph root w'.draft.graph root' := by
  have hextends := Bench.extends_changes s cs b
  obtain ⟨hbuilt, -⟩ := run_compileFormula_ok h
  obtain ⟨nodes, steps, hdraft, hrepeats⟩ := hbuilt.exists_repeats
  rw [hdraft] at hnew
  simp only [mem_numbersVisited_iff] at hnew
  have hold : ∀ i < b.shop.draft.graph.size,
      shift b.shop.draft.graph.size (b.changes s cs).shop.draft.graph.size i = i :=
    fun i hi => shift_of_lt hi _
  have hmirrors := hextends.mirrors hb.inOrder hold hnew
  have hagain := hrepeats _ _ (b.changes s cs).shop.draft hmirrors fun m => shift_add _ _ m
  refine ⟨_, _, run_compileFormula_of_built hagain, ?_⟩
  rw [hdraft]
  exact (renames_extend hb.inOrder.graph hextends.graph nodes steps).sameTree hold root

/-- A bench with one type and one field. -/
def quarry : Bench :=
  (Bench.start ⟨[⟨"stone", 7⟩], 0⟩).changes plainSetting
    [.ask (.bind (formulaEntry "low" "Depth"))]

/-- A choice between two types by a field. -/
def quarryText : String := "If(Less(low, Moisture), Voxel(stone), Voxel( stone ))"

/-- Changes of the bench: a type that is refused and one that is not, a field with the name of a call,
    and a field that is refused. -/
def quarryChanges : List Change :=
  [.register "stone" (.int 9), .register "lava" (.int 8),
    .ask (.bind (formulaEntry "Voxel(stone)" "Add(low, Moisture)")),
    .ask (.bind (formulaEntry "Moisture" "Add(Moisture, loop)"))]

theorem compileFormula_of_changes_quarry : ∃ root w root' w',
    (compileFormula (quarry.setting plainSetting) .voxel quarryText).run quarry.shop =
      (.ok root, w) ∧
    numbersVisited quarry.shop.draft w.draft = ["low".toList, "Moisture".toList] ∧
    ((quarry.changes plainSetting quarryChanges).shop.fields.map (·.name)) =
      ["low".toList, "Voxel(stone)".toList] ∧
    (compileFormula ((quarry.changes plainSetting quarryChanges).setting plainSetting) .voxel
      quarryText).run (quarry.changes plainSetting quarryChanges).shop = (.ok root', w') ∧
    SameTree quarry.shop.draft.graph.size w.draft.graph root w'.draft.graph root' := by
  have hvisited : numbersVisited quarry.shop.draft
      ((compileFormula (quarry.setting plainSetting) .voxel quarryText).run quarry.shop).2.draft =
        ["low".toList, "Moisture".toList] := by
    decide +kernel
  have hfields : (quarry.changes plainSetting quarryChanges).shop.fields.map (·.name) =
      ["low".toList, "Voxel(stone)".toList] := by
    decide +kernel
  have hnew : ∀ field ∈ (quarry.changes plainSetting quarryChanges).shop.fields.drop
      quarry.shop.fields.length, field.name ∉ ["low".toList, "Moisture".toList] := by
    decide +kernel
  have hok : ((compileFormula (quarry.setting plainSetting) .voxel quarryText).run
      quarry.shop).1.toOption.isSome = true := by
    decide +kernel
  obtain ⟨root, w, h⟩ := Attempt.exists_run_of_isSome hok
  rw [h] at hvisited
  have hreached : quarry.Reached plainSetting := ⟨_, _, rfl⟩
  rw [← hvisited] at hnew
  obtain ⟨root', w', hagain, hsame⟩ := compileFormula_of_changes hreached h quarryChanges hnew
  exact ⟨root, w, root', w', h, hvisited, hfields, hagain, hsame⟩

end Terrain.Profile
