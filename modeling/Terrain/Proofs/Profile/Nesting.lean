import Terrain.Proofs.Formula.Nesting
import Terrain.Proofs.Profile.Locating

/-!
# What the limit of nesting does

A profile is compiled with room for so many formulas, one inside the other. The limit refuses the
formulas that need more, under their names, and changes nothing else.

* `Limited`: what the limit does to the compiling of one formula.
* `limited_bindSampler`, `limited_compileKey`: it does so to declared fields and to the formulas
  under keys.
* `limit_only_nesting`: and raising it changes no document but those that it refused.
-/

namespace Terrain.Profile

open Terrain.Formula Terrain.Attempt Terrain.Text

variable {s : Setting} {w : Workshop} {k : Kind} {name text : String} {more : Nat}

/-! ## 1. Limits -/

/-- The setting with another limit. -/
def Setting.limitedTo (s : Setting) (room : Nat) : Setting := { s with room := room }

/-- The setting without a limit, for one formula: no formula opens more than its length and one. -/
def Setting.unlimited (s : Setting) (text : String) : Setting :=
  s.limitedTo (text.toList.length + 1)

/-- A failure for the depth of a formula. -/
def Failure.IsNesting (f : Failure) : Prop := ∃ r, f = .refused r ∧ r.fault = .formula .tooDeep

theorem Failure.IsNesting.within {f : Failure} (h : f.IsNesting) (file field : Option String) :
    (f.within file field).IsNesting := by
  obtain ⟨r, rfl, hr⟩ := h
  exact ⟨_, rfl, hr⟩

/-- **What the limit does to the compiling of a formula**, under the name of a field or a key. -/
structure Limited (s : Setting) (w : Workshop) (k : Kind) (name text : String)
    (compiling : Setting → Compile Nat) : Prop where
  /-- Without a limit nothing is refused for its depth. -/
  unlimited : ∀ f, Fails (compiling (s.unlimited text)) f w → ¬ f.IsNesting
  /-- Where there is room for all that is opened without a limit, the limit changes nothing. -/
  same : (∀ n, Opens (w.scope s) k text.toList n → n ≤ s.room) →
    (compiling s).run w = (compiling (s.unlimited text)).run w
  /-- Otherwise the formula is refused for its depth, and no field is bound. -/
  refused : ∀ n, Opens (w.scope s) k text.toList n → s.room < n → ∃ r d,
    (compiling s).run w = (.error (.refused r), { w with draft := d }) ∧
    r.report = ⟨.callForm, "Formula nested too deeply", ⟨none, some name,
      some (if 80 < text.toList.length then text.toList.take 80 ++ "...".toList
        else text.toList)⟩⟩

/-! ## 2. Formulas -/

/-- A formula that there is no room for is refused for its depth. -/
theorem run_compileFormula_of_opens {n : Nat} (hn : Opens (w.scope s) k text.toList n)
    (hlt : s.room < n) : ∃ d, (compileFormula s k text).run w =
      (.error (.refused (ofFormula (.nesting text.toList))), { w with draft := d }) := by
  have hfails := hn.fails hlt w.draft
  rw [run_compileFormula]
  unfold Fails at hfails
  rcases hrun : (build (w.scope s) s.room k text.toList).run w.draft with ⟨stop | root, d⟩ <;>
    rw [hrun] at hfails <;> cases hfails
  exact ⟨d, rfl⟩

/-- A formula that there is room for is compiled as without a limit. -/
theorem run_compileFormula_of_room (h : ∀ n, Opens (w.scope s) k text.toList n → n ≤ s.room) :
    (compileFormula s k text).run w = (compileFormula (s.unlimited text) k text).run w := by
  rw [run_compileFormula, run_compileFormula, run_build_eq_buildFully h]
  rfl

/-- Without a limit no formula is refused for its depth. -/
theorem compileFormula_unlimited {f : Failure}
    (h : Fails (compileFormula (s.unlimited text) k text) f w) : ¬ f.IsNesting := by
  have hroom : ¬ Fails (build (w.scope (s.unlimited text)) (s.unlimited text).room k text.toList)
      .noRoom w.draft := not_fails_buildFully
  have hends := build_failsFor (w.scope (s.unlimited text)) (s.unlimited text).room k text.toList
  unfold Fails at h hroom
  rw [run_compileFormula] at h
  rcases hrun : (build (w.scope (s.unlimited text)) (s.unlimited text).room k text.toList).run
      w.draft with ⟨(r | _) | root, d⟩ <;> rw [hrun] at h hroom
  · cases h
    obtain ⟨-, hfault⟩ := hends (.refused r) w.draft (by unfold Fails; rw [hrun])
    intro hex
    obtain ⟨r', hr, hdeep⟩ := hex
    cases hr
    exact hfault (Fault.formula.inj hdeep)
  · exact absurd rfl hroom
  · cases h

/-- A higher limit changes nothing but what is refused for its depth. -/
theorem sameUnless_compileFormula (hle : s.room ≤ more) (k : Kind) (text : String) :
    SameUnless Failure.IsNesting (compileFormula s k text)
      (compileFormula (s.limitedTo more) k text) := by
  intro w
  by_cases h : ∃ n, Opens (w.scope s) k text.toList n ∧ s.room < n
  · obtain ⟨n, hn, hlt⟩ := h
    obtain ⟨d, hrun⟩ := run_compileFormula_of_opens hn hlt
    refine .inl ⟨.refused (ofFormula (.nesting text.toList)), ⟨_, rfl, rfl⟩, ?_⟩
    unfold Fails
    rw [hrun]
  · refine .inr ?_
    have hroom : ¬ Fails (build (w.scope s) s.room k text.toList) .noRoom w.draft :=
      fun hfails => h (fails_noRoom_iff.1 hfails)
    rw [run_compileFormula, run_compileFormula, ← run_build_of_le hle hroom]
    rfl

/-! ## 3. Formulas under a name -/

/-- Under a name an attempt comes to the same, if it does without. -/
theorem sameUnless_inField {x y : Compile Nat} (h : SameUnless Failure.IsNesting x y)
    (name : String) : SameUnless Failure.IsNesting (inField name x) (inField name y) := by
  intro w
  unfold Fails
  rw [run_inField, run_inField]
  rcases h w with ⟨f, hf, hfails⟩ | hsame
  · unfold Fails at hfails
    rw [hfails]
    exact .inl ⟨_, hf.within none (some name), rfl⟩
  · rw [hsame]
    exact .inr rfl

/-- **The limit refuses a formula under its name, and changes nothing else.** -/
theorem limited_inField (s : Setting) (w : Workshop) (k : Kind) (name text : String) :
    Limited s w k name text fun s => inField name (compileFormula s k text) where
  unlimited f hf hnesting := by
    unfold Fails at hf
    rw [run_inField] at hf
    rcases hrun : (compileFormula (s.unlimited text) k text).run w with ⟨f' | root, w'⟩ <;>
      rw [hrun] at hf <;> cases hf
    have hfails : Fails (compileFormula (s.unlimited text) k text) f' w := by
      unfold Fails
      rw [hrun]
    -- a name does not change the fault
    obtain ⟨r, hr, hdeep⟩ := hnesting
    cases f' with
    | refused r' =>
      cases hr
      exact compileFormula_unlimited hfails ⟨r', rfl, hdeep⟩
    | aborted a => cases hr
  same h := by
    rw [run_inField, run_inField, run_compileFormula_of_room h]
  refused n hn hlt := by
    obtain ⟨d, hrun⟩ := run_compileFormula_of_opens hn hlt
    refine ⟨(ofFormula (.nesting text.toList)).within none (some name), d, ?_, rfl⟩
    rw [run_inField, hrun]
    rfl

/-- What comes after a compiling, and never fails, is limited as the compiling is. -/
theorem Limited.bind {compiling compiling' : Setting → Compile Nat} {g : Nat → Compile Nat}
    (h : Limited s w k name text compiling) (hafter : ∀ root f w, ¬ Fails (g root) f w)
    (hrun : ∀ s, (compiling' s).run w = (compiling s >>= g).run w) :
    Limited s w k name text compiling' where
  unlimited f hf := by
    unfold Fails at hf
    rw [hrun] at hf
    rcases fails_bind_iff.1 hf with hf | ⟨root, w', -, hf⟩
    · exact h.unlimited f hf
    · exact absurd hf (hafter root f w')
  same hroom := by
    rw [hrun, hrun, run_bind, run_bind, h.same hroom]
  refused n hn hlt := by
    obtain ⟨r, d, hfirst, hr⟩ := h.refused n hn hlt
    exact ⟨r, d, by rw [hrun, run_bind_of_error hfirst], hr⟩

/-! ## 4. Declared fields and keys -/

/-- An entry of the samplers declares a field by a formula. -/
structure Declares (sampler : List (Value × Value)) (name text : String) : Prop where
  name : Value.requireText sampler "Name" "sampler" = .ok name
  type : Value.requireText sampler "Type" "sampler" = .ok "Formula"
  formula : Value.requireText sampler "Formula" "sampler" = .ok text

/-- A field that is declared by a formula, and whose name is free, is bound to the formula. -/
theorem run_bindSampler_of_declares {sampler : List (Value × Value)}
    (h : Declares sampler name text) (hfree : w.binds name = false) (s : Setting) :
    (bindSampler s sampler).run w =
      (inField name (compileFormula s .number text) >>= fun root =>
        bindField name root >>= fun _ => pure root).run w := by
  have hnode : samplerNode s sampler = compileFormula s .number text := by
    unfold samplerNode
    rw [h.type, h.formula]
    rfl
  have hget : (get : Compile Workshop).run w = (.ok w, w) := rfl
  have hname : (demand (.ok name) : Compile String).run w = (.ok name, w) := rfl
  unfold bindSampler
  rw [h.name, run_bind_of_ok hname, run_bind, run_bind, run_inField, run_inField,
    run_bind_of_ok hget, hfree, ← hnode]
  rfl

/-- **The limit refuses a declared field under its name, and changes nothing else.** -/
theorem limited_bindSampler {sampler : List (Value × Value)} (s : Setting)
    (h : Declares sampler name text) (hfree : w.binds name = false) :
    Limited s w .number name text (bindSampler · sampler) := by
  refine (limited_inField s w .number name text).bind (fun root f w hf => ?_)
    (run_bindSampler_of_declares h hfree)
  cases hf

/-- The limit does not matter to a sampler that is no formula. -/
theorem samplerNode_limitedTo {sampler : List (Value × Value)}
    (h : Value.requireText sampler "Type" "sampler" = .ok "Formula" →
      ∀ text, Value.requireText sampler "Formula" "sampler" ≠ .ok text) (room : Nat) :
    samplerNode (s.limitedTo room) sampler = samplerNode s sampler := by
  unfold samplerNode
  cases htype : Value.requireText sampler "Type" "sampler" with
  | error l => rfl
  | ok type =>
    by_cases hformula : type = "Formula"
    · subst hformula
      cases htext : Value.requireText sampler "Formula" "sampler" with
      | error l => rfl
      | ok text => exact absurd htext (h htype text)
    · simp only [demand, pure_bind, if_neg hformula]

/-- **An entry that declares no field by a formula comes to the same whatever the limit**, and so
    does one whose name is taken. -/
theorem run_bindSampler_limitedTo {sampler : List (Value × Value)}
    (h : ∀ name text, Declares sampler name text → w.binds name = true) (room : Nat) :
    (bindSampler (s.limitedTo room) sampler).run w = (bindSampler s sampler).run w := by
  have hget : (get : Compile Workshop).run w = (.ok w, w) := rfl
  unfold bindSampler
  cases hname : Value.requireText sampler "Name" "sampler" with
  | error l => rfl
  | ok name =>
    have hdemand : (demand (.ok name) : Compile String).run w = (.ok name, w) := rfl
    rw [run_bind_of_ok hdemand, run_bind_of_ok hdemand, run_bind, run_bind, run_inField,
      run_inField, run_bind_of_ok hget, run_bind_of_ok hget]
    by_cases htaken : w.binds name = true
    · simp only [htaken, if_true]
      rfl
    · have hnode : samplerNode (s.limitedTo room) sampler = samplerNode s sampler :=
        samplerNode_limitedTo (fun htype text htext => htaken (h name text ⟨hname, htype, htext⟩))
          room
      simp only [htaken, hnode]

/-- **The limit refuses the formula under a key under that key, and changes nothing else.** -/
theorem limited_compileKey {entries : List (Value × Value)} {key : String} (s : Setting)
    (w : Workshop) (k : Kind) (h : Value.requireText entries key "document" = .ok text) :
    Limited s w k key text (compileKey · k entries key) := by
  refine (limited_inField s w k key text).bind (g := pure) (fun _ _ _ hf => nomatch hf)
    fun s => ?_
  unfold compileKey
  rw [h, bind_pure]
  rfl

/-! ## 5. Higher limits -/

theorem sameUnless_samplerNode (hle : s.room ≤ more) (sampler : List (Value × Value)) :
    SameUnless Failure.IsNesting (samplerNode s sampler)
      (samplerNode (s.limitedTo more) sampler) := by
  unfold samplerNode
  refine .bind (.refl _ _) fun type => ?_
  split
  · exact .refl _ _
  · split
    · exact .bind (.refl _ _) fun text => sameUnless_compileFormula hle .number text
    · exact .refl _ _

theorem sameUnless_bindSampler (hle : s.room ≤ more) (sampler : List (Value × Value)) :
    SameUnless Failure.IsNesting (bindSampler s sampler)
      (bindSampler (s.limitedTo more) sampler) := by
  unfold bindSampler
  refine .bind (.refl _ _) fun name => .bind (sameUnless_inField ?_ name) fun _ => .refl _ _
  refine .bind (.refl _ _) fun w => ?_
  split
  · exact .bind (.refl _ _) fun _ => sameUnless_samplerNode hle sampler
  · exact sameUnless_samplerNode hle sampler

theorem sameUnless_bindSamplers (hle : s.room ≤ more) : ∀ samplers : List Value,
    SameUnless Failure.IsNesting (bindSamplers s samplers)
      (bindSamplers (s.limitedTo more) samplers)
  | [] => .refl _ _
  | v :: rest => by
    cases v with
    | map sampler =>
      exact .bind (sameUnless_bindSampler hle sampler) fun _ => sameUnless_bindSamplers hle rest
    | _ => exact .refl _ _

theorem sameUnless_compileKey (hle : s.room ≤ more) (k : Kind) (entries : List (Value × Value))
    (key : String) : SameUnless Failure.IsNesting (compileKey s k entries key)
      (compileKey (s.limitedTo more) k entries key) :=
  .bind (.refl _ _) fun text => sameUnless_inField (sameUnless_compileFormula hle k text) key

/-- **A higher limit changes no document but one that is refused for the depth of a formula.** -/
theorem sameUnless_compileDocument (hle : s.room ≤ more) (name : String) (document : Value) :
    SameUnless Failure.IsNesting (compileDocument s name document)
      (compileDocument (s.limitedTo more) name document) := by
  have hkey := sameUnless_compileKey hle
  cases document with
  | map entries =>
    exact .bind (.refl _ _) fun samplers => .bind (sameUnless_bindSamplers hle samplers) fun _ =>
      .bind (hkey .number entries densityKey) fun _ => .bind (hkey .voxel entries typeKey) fun _ =>
        .bind (hkey .shape entries shapeKey) fun _ => .refl _ _
  | _ => exact .refl _ _

/-- **The limit of nesting changes nothing but the formulas that are nested too deeply.** A field
    that is declared by a formula and the formula under a key come to what they come to without a
    limit, if all that is opened on the way there has room; otherwise they are refused for their
    depth, under their names. To no other entry of the samplers does the limit matter. So a higher
    limit changes no result but such a refusal. -/
theorem limit_only_nesting (s : Setting) (w : Workshop) :
    (∀ sampler name text, Declares sampler name text → w.binds name = false →
      Limited s w .number name text (bindSampler · sampler)) ∧
    (∀ sampler, (∀ name text, Declares sampler name text → w.binds name = true) →
      ∀ room, (bindSampler (s.limitedTo room) sampler).run w = (bindSampler s sampler).run w) ∧
    (∀ k entries key text, Value.requireText entries key "document" = .ok text →
      Limited s w k key text (compileKey · k entries key)) ∧
    (∀ more, s.room ≤ more →
      (∀ sampler, SameUnless Failure.IsNesting (bindSampler s sampler)
        (bindSampler (s.limitedTo more) sampler)) ∧
      (∀ k entries key, SameUnless Failure.IsNesting (compileKey s k entries key)
        (compileKey (s.limitedTo more) k entries key)) ∧
      ∀ name document, SameUnless Failure.IsNesting (compileDocument s name document)
        (compileDocument (s.limitedTo more) name document)) :=
  ⟨fun _ _ _ h hfree => limited_bindSampler s h hfree, fun _ h => run_bindSampler_limitedTo h,
    fun k _ _ _ h => limited_compileKey s w k h,
    fun _ hle => ⟨sameUnless_bindSampler hle, sameUnless_compileKey hle,
      sameUnless_compileDocument hle⟩⟩

/-- Three formulas one inside the other. -/
def terrace : String := "Add(Add(1, 2), 3)"

/-- An entry that declares them as a field. -/
def terraceEntry : List (Value × Value) :=
  [(.text "Name", .text "Terrace"), (.text "Type", .text "Formula"),
   (.text "Formula", .text terrace)]

/-- No voxel types, and room for two formulas. -/
def narrow : Setting := ⟨fun _ => none, 2, Json.nestingLimit⟩

/-- The sum opens the sum in it, and that its first number. -/
theorem opens_terrace : Opens (Workshop.empty.scope narrow) .number terrace.toList 3 := by
  have outer : (plan (Workshop.empty.scope narrow) .number (strip terrace.toList)).parts =
      [] ++ ⟨.number, "Add(1, 2)".toList⟩ :: [⟨.number, "3".toList⟩] := by decide +kernel
  have inner : (plan (Workshop.empty.scope narrow) .number (strip "Add(1, 2)".toList)).parts =
      [] ++ ⟨.number, "1".toList⟩ :: [⟨.number, "2".toList⟩] := by decide +kernel
  exact .part outer (List.forall_mem_nil _) (.part inner (List.forall_mem_nil _) .self)

theorem limit_only_nesting_terrace :
    (∃ r d, (bindSampler narrow terraceEntry).run .empty =
        (.error (.refused r), { Workshop.empty with draft := d }) ∧
      r.report = ⟨.callForm, "Formula nested too deeply",
        ⟨none, some "Terrace", some terrace.toList⟩⟩) ∧
    (compileKey narrow .number [(.text densityKey, .text "Depth")] densityKey).run .empty =
      (compileKey (narrow.unlimited "Depth") .number [(.text densityKey, .text "Depth")]
        densityKey).run .empty ∧
    SameUnless Failure.IsNesting (bindSampler narrow terraceEntry)
      (bindSampler (narrow.limitedTo 3) terraceEntry) := by
  obtain ⟨hsampler, -, hkey, hraise⟩ := limit_only_nesting narrow .empty
  refine ⟨?_, ?_, (hraise 3 (by decide)).1 terraceEntry⟩
  · exact (hsampler terraceEntry "Terrace" terrace ⟨rfl, rfl, rfl⟩ rfl).refused 3 opens_terrace
      (by decide)
  · refine (hkey .number [(.text densityKey, .text "Depth")] densityKey "Depth" rfl).same ?_
    have hleaf :
        (plan (Workshop.empty.scope narrow) .number (strip "Depth".toList)).parts = [] := by
      decide +kernel
    intro n hn
    cases hn with
    | self => decide
    | part hparts =>
      rw [hleaf] at hparts
      simp at hparts

end Terrain.Profile
