import Terrain.Profile.Compile
import Terrain.Proofs.Formula.Building

/-!
# What compiling a profile does

Compiling goes through the declarations in order and then builds three formulas. Each part that
succeeds is taken apart here once; later proofs cite what it did to the fields and to the graph.

* `run_samplerNode_ok`, `run_bindSampler_ok`, `run_bindSamplers_cons_ok`: the declarations.
* `bindSamplers_fails_iff`: which of the declarations fails.
* `run_compileKey_ok`, `run_compileEntries_ok`: the formulas, and the profile.
-/

namespace Terrain.Profile

open Terrain.Formula

variable {s : Setting} {w w' : Workshop} {entries : List (Value × Value)} {root : Nat}

/-! ## 1. Required entries -/

section Required

variable {key what : String}

theorem requireText_eq_ok_iff {text : String} : Value.requireText entries key what = .ok text ↔
    Value.lookup key entries = some (.text text) := by
  unfold Value.requireText
  constructor
  · intro h
    split at h <;> cases h
    assumption
  · intro h
    rw [h]

theorem requireList_eq_ok_iff {items : List Value} :
    Value.requireList entries key what = .ok items ↔
      Value.lookup key entries = some (.list items) := by
  unfold Value.requireList
  constructor
  · intro h
    split at h <;> cases h
    assumption
  · intro h
    rw [h]

theorem requireNumber_eq_ok_iff {v : Int ⊕ Float} :
    Value.requireNumber entries key what = .ok v ↔
      Value.lookup key entries = some (v.elim .int .float) := by
  unfold Value.requireNumber
  constructor
  · intro h
    split at h <;> cases h <;> assumption
  · intro h
    rw [h]
    cases v <;> rfl

end Required

/-! ## 2. Parts -/

theorem run_demand_ok {α : Type} {x : Except Value.Lack α} {a : α}
    (h : (demand x).run w = (.ok a, w')) : x = .ok a ∧ w = w' := by
  cases x with
  | error l => cases h
  | ok b =>
    cases h
    exact ⟨rfl, rfl⟩

/-- A failure is told to lie in the field, and a success is as it was. -/
theorem run_inField {α : Type} (name : String) (x : Compile α) :
    (inField name x).run w =
      ((x.run w).1.mapError (·.within none (some name)), (x.run w).2) := by
  unfold inField
  simp only [ExceptT.run_mk, bind, StateT.bind]
  rcases x.run w with ⟨f | a, w₁⟩ <;> rfl

theorem run_inField_ok {α : Type} {name : String} {x : Compile α} {a : α}
    (h : (inField name x).run w = (.ok a, w')) : x.run w = (.ok a, w') := by
  rw [run_inField] at h
  rcases hx : x.run w with ⟨f | b, w₁⟩ <;> rw [hx] at h <;> cases h
  rfl

theorem run_inField_of_ok {α : Type} {x : Compile α} {a : α} (h : x.run w = (.ok a, w'))
    (name : String) : (inField name x).run w = (.ok a, w') := by
  rw [run_inField, h]
  rfl

/-- The fields that are bound are the scope of a formula. -/
def Workshop.scope (w : Workshop) (s : Setting) : Scope := ⟨s.voxelId, w.fields⟩

/-- A formula is built with the fields that are bound, and is refused if the building ends early. -/
theorem run_compileFormula (s : Setting) (k : Kind) (text : String) (w : Workshop) :
    (compileFormula s k text).run w =
      match (build (w.scope s) s.room k text.toList).run w.draft with
      | (.ok root, d) => (.ok root, { w with draft := d })
      | (.error (.refused r), d) => (.error (.refused (ofFormula r)), { w with draft := d })
      | (.error .noRoom, d) =>
        (.error (.refused (ofFormula (.nesting text.toList))), { w with draft := d }) := rfl

/-- A formula that compiles is built, and no field is bound by it. -/
theorem run_compileFormula_ok {k : Kind} {text : String}
    (h : (compileFormula s k text).run w = (.ok root, w')) :
    Built (w.scope s) s.room k text.toList w.draft root w'.draft ∧ w'.fields = w.fields := by
  rw [run_compileFormula] at h
  rcases hb : (build (w.scope s) s.room k text.toList).run w.draft with ⟨(r | _) | i, d⟩ <;>
    rw [hb] at h <;> cases h
  exact ⟨built_of_run hb, rfl⟩

/-- A formula that is built compiles, and its draft is the one it was built in. -/
theorem run_compileFormula_of_built {k : Kind} {text : String} {d : Draft}
    (h : Built (w.scope s) s.room k text.toList w.draft root d) :
    (compileFormula s k text).run w = (.ok root, { w with draft := d }) := by
  rw [run_compileFormula, h.run]

theorem run_demandNumber_ok {key : String} {x : Float}
    (h : (demandNumber entries key).run w = (.ok x, w')) : w = w' := by
  obtain ⟨v, w₁, hv, h⟩ := Attempt.run_bind_ok h
  obtain ⟨-, rfl⟩ := run_demand_ok hv
  cases v with
  | inr y =>
    cases h
    rfl
  | inl n =>
    dsimp only at h
    split at h <;> cases h
    rfl

/-! ## 3. Declarations -/

/-- What a declaration that is in order adds: a node of noise, or a formula. -/
theorem run_samplerNode_ok (h : (samplerNode s entries).run w = (.ok root, w')) :
    w'.fields = w.fields ∧
    ((Value.requireText entries "Type" "sampler" = .ok "Simplex" ∧
        ∃ wavelength amplitude, root = w.draft.graph.size ∧
          w'.draft = w.draft.made (.noise wavelength amplitude)) ∨
      (Value.requireText entries "Type" "sampler" = .ok "Formula" ∧
        ∃ text, Value.requireText entries "Formula" "sampler" = .ok text ∧
          Built (w.scope s) s.room .number text.toList w.draft root w'.draft)) := by
  obtain ⟨type, w₁, hd, h⟩ := Attempt.run_bind_ok h
  obtain ⟨htype, rfl⟩ := run_demand_ok hd
  rw [htype]
  split at h
  · rename_i hs
    obtain ⟨wavelength, w₁, hw, h⟩ := Attempt.run_bind_ok h
    obtain rfl := run_demandNumber_ok hw
    obtain ⟨amplitude, w₂, ha, h⟩ := Attempt.run_bind_ok h
    obtain rfl := run_demandNumber_ok ha
    cases h
    exact ⟨rfl, .inl ⟨by rw [hs], wavelength, amplitude, rfl, rfl⟩⟩
  · split at h
    · rename_i hf
      obtain ⟨text, w₁, hd, h⟩ := Attempt.run_bind_ok h
      obtain ⟨htext, rfl⟩ := run_demand_ok hd
      obtain ⟨hbuilt, hfields⟩ := run_compileFormula_ok h
      exact ⟨hfields, .inr ⟨by rw [hf], text, htext, hbuilt⟩⟩
    · cases h

/-- **A declaration that is bound**: its name was free, its node is made with the fields bound
    before, and it comes last. -/
theorem run_bindSampler_ok (h : (bindSampler s entries).run w = (.ok root, w')) :
    ∃ name w₁, Value.requireText entries "Name" "sampler" = .ok name ∧ w.binds name = false ∧
      (samplerNode s entries).run w = (.ok root, w₁) ∧
      w'.fields = w₁.fields ++ [⟨name.toList, root⟩] ∧ w'.draft.graph = w₁.draft.graph := by
  obtain ⟨name, w₁, hd, h⟩ := Attempt.run_bind_ok h
  obtain ⟨hname, rfl⟩ := run_demand_ok hd
  obtain ⟨i, w₂, hi, h⟩ := Attempt.run_bind_ok h
  have hi := run_inField_ok hi
  obtain ⟨w₃, w₄, hw, hi⟩ := Attempt.run_bind_ok hi
  cases hw
  cases hb : w.binds name with
  | true =>
    rw [hb] at hi
    cases hi
  | false =>
    rw [hb] at hi
    obtain ⟨⟨⟩, w₅, hbind, h⟩ := Attempt.run_bind_ok h
    cases h
    cases hbind
    exact ⟨name, w₂, hname, hb, hi, rfl, rfl⟩

/-- Declarations are bound one after the other, and every entry is a map. -/
theorem run_bindSamplers_cons_ok {v : Value} {rest : List Value} {u : Unit}
    (h : (bindSamplers s (v :: rest)).run w = (.ok u, w')) :
    ∃ entries root w₁, v = .map entries ∧ (bindSampler s entries).run w = (.ok root, w₁) ∧
      (bindSamplers s rest).run w₁ = (.ok u, w') := by
  cases v with
  | map entries =>
    obtain ⟨root, w₁, h₁, h⟩ := Attempt.run_bind_ok h
    exact ⟨entries, root, w₁, rfl, h₁, h⟩
  | _ => cases h

/-- **Declarations fail at the first that is not bound**, all before it being bound: it is no map, or
    binding it fails. -/
theorem bindSamplers_fails_iff {samplers : List Value} {f : Failure} :
    Attempt.Fails (bindSamplers s samplers) f w ↔
      ∃ before v after u w', samplers = before ++ v :: after ∧
        (bindSamplers s before).run w = (.ok u, w') ∧
        ((∃ sampler, v = .map sampler ∧ Attempt.Fails (bindSampler s sampler) f w') ∨
          (∀ sampler, v ≠ .map sampler) ∧ f = .refused (Fault.samplerNotMap v.form).somewhere) := by
  induction samplers generalizing w with
  | nil =>
    constructor
    · nofun
    · rintro ⟨before, v, after, u, w', h, -⟩
      simp at h
  | cons v rest ih =>
    cases v with
    | map entries =>
      have hcons : bindSamplers s (.map entries :: rest) =
          (bindSampler s entries >>= fun _ => bindSamplers s rest) := rfl
      rw [hcons, Attempt.fails_bind_iff]
      constructor
      · rintro (h | ⟨root, w₁, hw, h⟩)
        · exact ⟨[], _, rest, (), w, rfl, rfl, .inl ⟨entries, rfl, h⟩⟩
        · obtain ⟨before, v, after, u, w', rfl, hb, hv⟩ := ih.1 h
          refine ⟨.map entries :: before, v, after, u, w', rfl, ?_, hv⟩
          rw [← hb]
          exact Attempt.run_bind_of_ok hw _
      · rintro ⟨before, v, after, u, w', hl, hb, hv⟩
        cases before with
        | nil =>
          cases hl
          cases hb
          rcases hv with ⟨sampler, hs, h⟩ | ⟨hnot, -⟩
          · cases hs
            exact .inl h
          · exact absurd rfl (hnot entries)
        | cons c before =>
          cases hl
          obtain ⟨entries', root, w₁, he, hw, hb⟩ := run_bindSamplers_cons_ok hb
          cases he
          exact .inr ⟨root, w₁, hw, ih.2 ⟨before, v, after, u, w', rfl, hb, hv⟩⟩
    | _ =>
      constructor
      · intro h
        cases h
        exact ⟨[], _, rest, (), w, rfl, rfl, .inr ⟨nofun, rfl⟩⟩
      · rintro ⟨before, v, after, u, w', hl, hb, hv⟩
        cases before with
        | nil =>
          cases hl
          rcases hv with ⟨sampler, hs, -⟩ | ⟨-, rfl⟩
          · cases hs
          · rfl
        | cons c before =>
          cases hl
          obtain ⟨entries', root, w₁, he, -⟩ := run_bindSamplers_cons_ok hb
          cases he

/-! ## 4. Documents -/

/-- A formula under a key is built with all fields, and no field is bound by it. -/
theorem run_compileKey_ok {k : Kind} {key : String}
    (h : (compileKey s k entries key).run w = (.ok root, w')) :
    ∃ text, Value.requireText entries key "document" = .ok text ∧
      Built (w.scope s) s.room k text.toList w.draft root w'.draft ∧ w'.fields = w.fields := by
  obtain ⟨text, w₁, hd, h⟩ := Attempt.run_bind_ok h
  obtain ⟨htext, rfl⟩ := run_demand_ok hd
  obtain ⟨hbuilt, hfields⟩ := run_compileFormula_ok (run_inField_ok h)
  exact ⟨text, htext, hbuilt, hfields⟩

/-- A formula under a key compiles if it is built. -/
theorem run_compileKey_of_built {k : Kind} {key text : String} {d : Draft}
    (htext : Value.lookup key entries = some (.text text))
    (h : Built (w.scope s) s.room k text.toList w.draft root d) :
    (compileKey s k entries key).run w = (.ok root, { w with draft := d }) := by
  unfold compileKey
  rw [requireText_eq_ok_iff.2 htext]
  exact run_inField_of_ok (run_compileFormula_of_built h) key

/-- **A document that compiles**: its declarations are bound, and its three formulas are built one
    after the other. -/
theorem run_compileEntries_ok {name : String} {p : Profile}
    (h : (compileEntries s name entries).run w = (.ok p, w')) :
    ∃ samplers w₁ w₂ w₃ u, Value.requireList entries samplersKey "document" = .ok samplers ∧
      (bindSamplers s samplers).run w = (.ok u, w₁) ∧
      (compileKey s .number entries densityKey).run w₁ = (.ok p.density, w₂) ∧
      (compileKey s .voxel entries typeKey).run w₂ = (.ok p.voxelId, w₃) ∧
      (compileKey s .shape entries shapeKey).run w₃ = (.ok p.shape, w') ∧
      p = ⟨name, w'.fields, w'.draft.graph, p.density, p.voxelId, p.shape⟩ := by
  obtain ⟨samplers, w₀, hd, h⟩ := Attempt.run_bind_ok h
  obtain ⟨hlist, rfl⟩ := run_demand_ok hd
  obtain ⟨u, w₁, hsamplers, h⟩ := Attempt.run_bind_ok h
  obtain ⟨density, w₂, hdensity, h⟩ := Attempt.run_bind_ok h
  obtain ⟨voxelId, w₃, hvoxel, h⟩ := Attempt.run_bind_ok h
  obtain ⟨shape, w₄, hshape, h⟩ := Attempt.run_bind_ok h
  cases h
  exact ⟨samplers, w₁, w₂, w₃, u, hlist, hsamplers, hdensity, hvoxel, hshape, rfl⟩

/-- A document compiles if its declarations are bound and its three formulas compile. -/
theorem run_compileEntries_of_ok {w₁ w₂ w₃ : Workshop} {samplers : List Value} {u : Unit}
    {density voxelId shape : Nat} (name : String)
    (hlist : Value.lookup samplersKey entries = some (.list samplers))
    (hsamplers : (bindSamplers s samplers).run w = (.ok u, w₁))
    (hdensity : (compileKey s .number entries densityKey).run w₁ = (.ok density, w₂))
    (hvoxel : (compileKey s .voxel entries typeKey).run w₂ = (.ok voxelId, w₃))
    (hshape : (compileKey s .shape entries shapeKey).run w₃ = (.ok shape, w')) :
    (compileEntries s name entries).run w =
      (.ok ⟨name, w'.fields, w'.draft.graph, density, voxelId, shape⟩, w') := by
  unfold compileEntries
  rw [requireList_eq_ok_iff.2 hlist]
  refine (Attempt.run_bind_of_ok hsamplers _).trans ?_
  rw [Attempt.run_bind_of_ok hdensity, Attempt.run_bind_of_ok hvoxel,
    Attempt.run_bind_of_ok hshape]
  rfl

/-- A profile that compiles comes of a map. -/
theorem compile_ok {name : String} {document : Value} {p : Profile} {log : List Log.Record}
    (h : compile s name document = (.ok p, log)) :
    ∃ entries w, document = .map entries ∧
      (compileEntries s name entries).run Workshop.empty = (.ok p, w) := by
  unfold compile at h
  cases document with
  | map entries =>
    rcases hrun : (compileDocument s name (.map entries)).run Workshop.empty with ⟨f | q, w⟩ <;>
      rw [hrun] at h <;> cases h
    exact ⟨entries, w, rfl, hrun⟩
  | _ => cases h

/-- A map that compiles makes a profile. -/
theorem exists_compile_of_run {name : String} {p : Profile}
    (h : (compileEntries s name entries).run Workshop.empty = (.ok p, w)) :
    ∃ log, compile s name (.map entries) = (.ok p, log) := by
  refine ⟨w.draft.steps.toList.map stepRecord ++ [compiledRecord p], ?_⟩
  unfold compile compileDocument
  dsimp only
  rw [h]

end Terrain.Profile
