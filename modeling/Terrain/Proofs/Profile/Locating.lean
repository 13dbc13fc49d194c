import Terrain.Proofs.Formula.Refusing
import Terrain.Proofs.Profile.Compiling

/-!
# Where a document fails

A document fails in one place: in an entry of its samplers, in the formula under a key, or outside
of both. All that comes before that place is in order, so the place is the first that fails.

* `Spot`: a place in a document. `Arises` tells which faults arise where.
* `Refusal.LiesIn`: what a refusal says of its place.
* `exists_arises`, `Arises.fails`: a refusal of a document arises in a spot, and says so.
-/

namespace Terrain.Profile

open Terrain.Formula Terrain.Attempt

variable {s : Setting} {w w' : Workshop} {entries : List (Value × Value)} {name key : String}
  {text : Option String} {k : Kind}

/-! ## 1. Spots -/

/-- A place in a document: an entry of the samplers whose name is a text, a text under a key, or
    anything else. -/
inductive Spot where
  | apart
  | sampler (name : String) (entries : List (Value × Value))
  | key (key text : String)

/-- The field or key of a spot. -/
def Spot.field? : Spot → Option String
  | .apart => none
  | .sampler name _ => some name
  | .key key _ => some key

/-- The formula of an entry, if it has one. -/
def formula? (entries : List (Value × Value)) : Option String :=
  (Value.requireText entries "Formula" "sampler").toOption

/-- The formula of a spot, if there is one. -/
def Spot.formula? : Spot → Option String
  | .apart => none
  | .sampler _ entries => Profile.formula? entries
  | .key _ text => some text

/-- The keys of the formulas of a document, in the order in which these are compiled. -/
def formulaKeys : List (Kind × String) :=
  [(.number, densityKey), (.voxel, typeKey), (.shape, shapeKey)]

/-- The formulas under keys are compiled, one after the other. -/
inductive KeysCompile (s : Setting) (entries : List (Value × Value)) :
    List (Kind × String) → Workshop → Workshop → Prop
  | nil (w : Workshop) : KeysCompile s entries [] w w
  | cons {k : Kind} {key : String} {rest : List (Kind × String)} {w w₁ w₂ : Workshop} {root : Nat}
      (first : (compileKey s k entries key).run w = (.ok root, w₁))
      (others : KeysCompile s entries rest w₁ w₂) : KeysCompile s entries ((k, key) :: rest) w w₂

/-- **The fault that a document fails for, and where it arises**: all before it is in order. -/
inductive Arises (s : Setting) : Value → Spot → Fault → Prop
  /-- The document is no map. -/
  | notMap {v : Value} (h : ∀ entries, v ≠ .map entries) : Arises s v .apart (.notMap v.form)
  /-- There is no list of samplers. -/
  | samplers {entries : List (Value × Value)} {l : Value.Lack}
      (h : Value.requireList entries samplersKey "document" = .error l) :
      Arises s (.map entries) .apart (.lack l)
  /-- An entry of the samplers is no map, and those before it are bound. -/
  | entry {entries : List (Value × Value)} {before after : List Value} {v : Value} {u : Unit}
      {w : Workshop}
      (hlist : Value.requireList entries samplersKey "document" = .ok (before ++ v :: after))
      (hbefore : (bindSamplers s before).run .empty = (.ok u, w))
      (h : ∀ sampler, v ≠ .map sampler) : Arises s (.map entries) .apart (.samplerNotMap v.form)
  /-- An entry of the samplers has no text for a name, and those before it are bound. -/
  | name {entries sampler : List (Value × Value)} {before after : List Value} {u : Unit}
      {w : Workshop} {l : Value.Lack}
      (hlist : Value.requireList entries samplersKey "document" =
        .ok (before ++ .map sampler :: after))
      (hbefore : (bindSamplers s before).run .empty = (.ok u, w))
      (h : Value.requireText sampler "Name" "sampler" = .error l) :
      Arises s (.map entries) .apart (.lack l)
  /-- An entry with a name is refused, and those before it are bound. -/
  | sampler {entries sampler : List (Value × Value)} {before after : List Value} {u : Unit}
      {w : Workshop} {name : String} {r : Refusal}
      (hlist : Value.requireList entries samplersKey "document" =
        .ok (before ++ .map sampler :: after))
      (hbefore : (bindSamplers s before).run .empty = (.ok u, w))
      (hname : Value.requireText sampler "Name" "sampler" = .ok name)
      (h : Fails (bindSampler s sampler) (.refused r) w) :
      Arises s (.map entries) (.sampler name sampler) r.fault
  /-- There is no text under a key; all samplers are bound, and the formulas before compile. -/
  | keyLack {entries : List (Value × Value)} {samplers : List Value} {u : Unit}
      {w w₁ : Workshop} {earlier later : List (Kind × String)} {k : Kind} {key : String}
      {l : Value.Lack}
      (hlist : Value.requireList entries samplersKey "document" = .ok samplers)
      (hsamplers : (bindSamplers s samplers).run .empty = (.ok u, w))
      (hkeys : formulaKeys = earlier ++ (k, key) :: later)
      (hearlier : KeysCompile s entries earlier w w₁)
      (h : Value.requireText entries key "document" = .error l) :
      Arises s (.map entries) .apart (.lack l)
  /-- The text under a key is refused; all samplers are bound, and the formulas before compile. -/
  | key {entries : List (Value × Value)} {samplers : List Value} {u : Unit}
      {w w₁ : Workshop} {earlier later : List (Kind × String)} {k : Kind} {key text : String}
      {r : Refusal}
      (hlist : Value.requireList entries samplersKey "document" = .ok samplers)
      (hsamplers : (bindSamplers s samplers).run .empty = (.ok u, w))
      (hkeys : formulaKeys = earlier ++ (k, key) :: later)
      (hearlier : KeysCompile s entries earlier w w₁)
      (htext : Value.requireText entries key "document" = .ok text)
      (h : Fails (compileFormula s k text) (.refused r) w₁) :
      Arises s (.map entries) (.key key text) r.fault

/-! ## 2. What a refusal says of its place -/

/-- **A refusal lies in a field**: it names the field, and the formula it shows is a piece of the
    field's or, if that is nested too deeply, the start of it. -/
structure Refusal.LiesIn (r : Refusal) (file field text : Option String) : Prop where
  file : r.site.file = file
  field : r.site.field = field
  formula : ∀ piece, r.site.formula = some piece → ∃ t, text = some t ∧
    if r.fault = .formula .tooDeep then
      piece = if 80 < t.toList.length then t.toList.take 80 ++ "...".toList else t.toList
    else piece <:+: t.toList

/-- What ends a load says nothing of its place. -/
def Failure.LiesIn (file field text : Option String) : Failure → Prop
  | .refused r => r.LiesIn file field text
  | .aborted _ => True

theorem Fault.liesIn_somewhere (f : Fault) (text : Option String) :
    f.somewhere.LiesIn none none text := ⟨rfl, rfl, nofun⟩

theorem Refusal.LiesIn.inField {r : Refusal} (h : r.LiesIn none none text) (name : String) :
    (r.within none (some name)).LiesIn none (some name) text := by
  refine ⟨?_, ?_, h.formula⟩
  · simp [Refusal.within, Report.Site.within, h.file]
  · simp [Refusal.within, Report.Site.within, h.field]

theorem Refusal.LiesIn.inFile {r : Refusal} {field : Option String}
    (h : r.LiesIn none field text) (file : String) :
    (r.within (some file) none).LiesIn (some file) field text := by
  refine ⟨?_, ?_, h.formula⟩
  · simp [Refusal.within, Report.Site.within, h.file]
  · simp [Refusal.within, Report.Site.within, h.field]

/-! ## 3. Parts that fail -/

theorem demand_failsFor {α : Type} (x : Except Value.Lack α) :
    FailsFor (Failure.LiesIn none none text) (demand x) := by
  cases x with
  | error l =>
    intro e w he
    cases he
    exact (Fault.lack l).liesIn_somewhere text
  | ok a => exact .of_ok fun _ => rfl

theorem refuse_failsFor {α : Type} (f : Fault) :
    FailsFor (Failure.LiesIn none none text) (refuse f : Compile α) := by
  intro e w he
  cases he
  exact f.liesIn_somewhere text

/-- What runs once something required is there. -/
theorem demand_bind_failsFor {α β : Type} {x : Except Value.Lack α} {f : α → Compile β}
    (hf : ∀ a, x = .ok a → FailsFor (Failure.LiesIn none none text) (f a)) :
    FailsFor (Failure.LiesIn none none text) (demand x >>= f) := by
  intro e w he
  rcases fails_bind_iff.1 he with he | ⟨a, w₁, ha, he⟩
  · exact demand_failsFor x e w he
  · exact hf a (run_demand_ok ha).1 e w₁ he

theorem demandNumber_failsFor (entries : List (Value × Value)) (key : String) :
    FailsFor (Failure.LiesIn none none text) (demandNumber entries key) := by
  refine demand_bind_failsFor fun v _ => ?_
  cases v with
  | inr x => exact .of_ok fun _ => rfl
  | inl n =>
    dsimp only
    split
    · exact .of_ok fun _ => rfl
    · intro e w he
      cases he
      trivial

theorem inField_failsFor {x : Compile Nat} (hx : FailsFor (Failure.LiesIn none none text) x)
    (name : String) : FailsFor (Failure.LiesIn none (some name) text) (inField name x) := by
  intro e w he
  unfold Fails at he
  rw [run_inField] at he
  rcases hrun : (x.run w).1 with (r | a) | i <;> rw [hrun] at he <;> cases he
  · exact (hx (.refused r) w hrun).inField name
  · trivial

/-- **A formula that is refused shows a piece of itself**, or its start. -/
theorem compileFormula_failsFor (s : Setting) (k : Kind) (t : String) :
    FailsFor (Failure.LiesIn none none (some t)) (compileFormula s k t) := by
  intro e w he
  have hends := build_failsFor (w.scope s) s.room k t.toList
  unfold Fails at he
  rw [run_compileFormula] at he
  rcases hrun : (build (w.scope s) s.room k t.toList).run w.draft with ⟨(r | _) | i, d⟩ <;>
    rw [hrun] at he <;> cases he
  · have hstop : Fails (build (w.scope s) s.room k t.toList) (.refused r) w.draft := by
      unfold Fails
      rw [hrun]
    obtain ⟨hpiece, hfault⟩ := hends _ _ hstop
    refine ⟨rfl, rfl, fun piece hp => ⟨t, rfl, ?_⟩⟩
    cases hp
    have hother : Fault.formula r.fault ≠ .formula .tooDeep := fun h => hfault (Fault.formula.inj h)
    unfold ofFormula
    rw [if_neg hother]
    exact hpiece
  · refine ⟨rfl, rfl, fun piece hp => ⟨t, rfl, ?_⟩⟩
    cases hp
    rfl

/-- A declaration shows a piece of its own formula, if it shows one. -/
theorem samplerNode_failsFor (s : Setting) (entries : List (Value × Value)) :
    FailsFor (Failure.LiesIn none none (formula? entries)) (samplerNode s entries) := by
  refine demand_bind_failsFor fun type _ => ?_
  split
  · exact .bind (demandNumber_failsFor _ _) fun _ => .bind (demandNumber_failsFor _ _) fun _ =>
      .of_ok fun _ => rfl
  · split
    · refine demand_bind_failsFor fun t ht => ?_
      have hformula : formula? entries = some t := by
        unfold formula?
        rw [ht]
        rfl
      rw [hformula]
      exact compileFormula_failsFor s .number t
    · exact refuse_failsFor _

/-- **An entry with a name fails under its name.** -/
theorem bindSampler_failsFor (s : Setting)
    (hname : Value.requireText entries "Name" "sampler" = .ok name) :
    FailsFor (Failure.LiesIn none (some name) (formula? entries)) (bindSampler s entries) := by
  intro e w he
  have hnode : FailsFor (Failure.LiesIn none (some name) (formula? entries))
      (inField name do
        if (← get).binds name then refuse (.fieldTwice name)
        samplerNode s entries) := by
    refine inField_failsFor (.bind (.of_ok fun _ => rfl) fun v => ?_) name
    split
    · exact .bind (refuse_failsFor _) fun _ => samplerNode_failsFor s entries
    · exact samplerNode_failsFor s entries
  unfold bindSampler at he
  rw [hname] at he
  rcases fails_bind_iff.1 he with he | ⟨name', w₁, hd, he⟩
  · cases he
  cases hd
  rcases fails_bind_iff.1 he with he | ⟨root, w₂, -, he⟩
  · exact hnode e w he
  · cases he

/-- **A text under a key fails under the key.** -/
theorem compileKey_fails_iff {t : String} {f : Failure}
    (htext : Value.requireText entries key "document" = .ok t) :
    Fails (compileKey s k entries key) f w ↔
      ∃ f', Fails (compileFormula s k t) f' w ∧ f = f'.within none (some key) := by
  have hrun : (compileKey s k entries key).run w = (inField key (compileFormula s k t)).run w := by
    unfold compileKey
    rw [htext]
    rfl
  unfold Fails
  rw [hrun, run_inField]
  rcases (compileFormula s k t).run w with ⟨f' | i, w₁⟩
  · exact ⟨fun h => ⟨f', rfl, by cases h; rfl⟩, fun ⟨_, h, hf⟩ => by cases h; rw [hf]; rfl⟩
  · exact ⟨nofun, fun ⟨_, h, _⟩ => nomatch h⟩

/-! ## 4. Documents that fail -/

/-- **The formulas under the keys fail at the first that does not compile.** -/
theorem compileEntries_fails_iff {f : Failure} : Fails (compileEntries s name entries) f .empty ↔
    (∃ l, Value.requireList entries samplersKey "document" = .error l ∧
      f = .refused (Fault.lack l).somewhere) ∨
    ∃ samplers, Value.requireList entries samplersKey "document" = .ok samplers ∧
      (Fails (bindSamplers s samplers) f .empty ∨
        ∃ u w, (bindSamplers s samplers).run .empty = (.ok u, w) ∧
          ∃ earlier k key later w₁, formulaKeys = earlier ++ (k, key) :: later ∧
            KeysCompile s entries earlier w w₁ ∧ Fails (compileKey s k entries key) f w₁) := by
  unfold compileEntries
  cases hlist : Value.requireList entries samplersKey "document" with
  | error l =>
    constructor
    · intro h
      cases h
      exact .inl ⟨l, rfl, rfl⟩
    · rintro (⟨l', hl, rfl⟩ | ⟨samplers, hs, -⟩)
      · cases hl
        rfl
      · cases hs
  | ok samplers =>
    rw [fails_bind_iff]
    constructor
    · rintro (h | ⟨_, _, hdemand, h⟩)
      · cases h
      obtain ⟨hs, rfl⟩ := run_demand_ok hdemand
      cases hs
      refine .inr ⟨samplers, rfl, ?_⟩
      rcases fails_bind_iff.1 h with h | ⟨u, w, hu, h⟩
      · exact .inl h
      refine .inr ⟨u, w, hu, ?_⟩
      rcases fails_bind_iff.1 h with h | ⟨density, w₁, hdensity, h⟩
      · exact ⟨[], _, _, _, w, rfl, .nil w, h⟩
      rcases fails_bind_iff.1 h with h | ⟨voxelId, w₂, hvoxel, h⟩
      · exact ⟨[_], _, _, _, w₁, rfl, .cons hdensity (.nil w₁), h⟩
      rcases fails_bind_iff.1 h with h | ⟨shape, w₃, -, h⟩
      · exact ⟨[_, _], _, _, _, w₂, rfl, .cons hdensity (.cons hvoxel (.nil w₂)), h⟩
      · cases h
    · rintro (⟨l, hl, -⟩ | ⟨_, hs, h⟩)
      · cases hl
      cases hs
      refine .inr ⟨samplers, _, rfl, fails_bind_iff.2 ?_⟩
      rcases h with h | ⟨u, w, hu, earlier, k, key, later, w₁, hkeys, hearlier, h⟩
      · exact .inl h
      refine .inr ⟨u, w, hu, fails_bind_iff.2 ?_⟩
      cases hearlier with
      | nil =>
        cases hkeys
        exact .inl h
      | cons hfirst hothers =>
        cases hothers with
        | nil =>
          cases hkeys
          exact .inr ⟨_, _, hfirst, fails_bind_iff.2 (.inl h)⟩
        | cons hsecond hothers =>
          cases hothers with
          | nil =>
            cases hkeys
            exact .inr ⟨_, _, hfirst, fails_bind_iff.2 (.inr ⟨_, _, hsecond,
              fails_bind_iff.2 (.inl h)⟩)⟩
          | cons _ hothers => cases hothers <;> cases hkeys

/-- **A document that is refused is refused for a fault that arises in a spot.** -/
theorem exists_arises {document : Value} {r : Refusal}
    (h : Fails (compileDocument s name document) (.refused r) .empty) :
    ∃ spot, Arises s document spot r.fault := by
  cases document with
  | map entries =>
    rcases compileEntries_fails_iff.1 h with ⟨l, hl, hr⟩ | ⟨samplers, hlist, hsamplers | ⟨u, w, hu,
      earlier, k, key, later, w₁, hkeys, hearlier, hfails⟩⟩
    · cases hr
      exact ⟨_, .samplers hl⟩
    · obtain ⟨before, v, after, u, w, rfl, hbefore, ⟨sampler, rfl, hfails⟩ | ⟨hnot, hr⟩⟩ :=
        bindSamplers_fails_iff.1 hsamplers
      · cases hname : Value.requireText sampler "Name" "sampler" with
        | error l =>
          unfold bindSampler at hfails
          rw [hname] at hfails
          cases hfails
          exact ⟨_, .name hlist hbefore hname⟩
        | ok name => exact ⟨_, .sampler hlist hbefore hname hfails⟩
      · cases hr
        exact ⟨_, .entry hlist hbefore hnot⟩
    · cases htext : Value.requireText entries key "document" with
      | error l =>
        unfold compileKey at hfails
        rw [htext] at hfails
        cases hfails
        exact ⟨_, .keyLack hlist hu hkeys hearlier htext⟩
      | ok t =>
        obtain ⟨f, hf, hr⟩ := (compileKey_fails_iff htext).1 hfails
        cases f with
        | refused r =>
          cases hr
          exact ⟨_, .key (r := r) hlist hu hkeys hearlier htext hf⟩
        | aborted a => cases hr
  | _ =>
    cases h
    exact ⟨_, .notMap nofun⟩

/-- **A document is refused for the fault that arises in it**, and the refusal lies in its spot. -/
theorem Arises.fails {document : Value} {spot : Spot} {fault : Fault}
    (h : Arises s document spot fault) (name : String) :
    ∃ r, Fails (compileDocument s name document) (.refused r) .empty ∧ r.fault = fault ∧
      r.LiesIn none spot.field? spot.formula? := by
  have somewhere (f : Fault) {document : Value}
      (hfails : Fails (compileDocument s name document) (.refused f.somewhere) .empty) :
      ∃ r, Fails (compileDocument s name document) (.refused r) .empty ∧ r.fault = f ∧
        r.LiesIn none none none := ⟨_, hfails, rfl, f.liesIn_somewhere none⟩
  cases h with
  | notMap hnot =>
    refine somewhere _ ?_
    cases document with
    | map entries => exact absurd rfl (hnot entries)
    | _ => rfl
  | samplers hl => exact somewhere _ (compileEntries_fails_iff.2 (.inl ⟨_, hl, rfl⟩))
  | entry hlist hbefore hnot =>
    exact somewhere _ (compileEntries_fails_iff.2 (.inr ⟨_, hlist, .inl (bindSamplers_fails_iff.2
      ⟨_, _, _, _, _, rfl, hbefore, .inr ⟨hnot, rfl⟩⟩)⟩))
  | @name entries sampler before after u w l hlist hbefore hname =>
    have hfails : Fails (bindSampler s sampler) (.refused (Fault.lack l).somewhere) w := by
      unfold bindSampler
      rw [hname]
      rfl
    exact somewhere _ (compileEntries_fails_iff.2 (.inr ⟨_, hlist, .inl (bindSamplers_fails_iff.2
      ⟨_, _, _, _, _, rfl, hbefore, .inl ⟨_, rfl, hfails⟩⟩)⟩))
  | @sampler entries sampler before after u w name' r hlist hbefore hname hfails =>
    refine ⟨r, compileEntries_fails_iff.2 (.inr ⟨_, hlist, .inl (bindSamplers_fails_iff.2
      ⟨_, _, _, _, _, rfl, hbefore, .inl ⟨_, rfl, hfails⟩⟩)⟩), rfl, ?_⟩
    exact bindSampler_failsFor s hname _ _ hfails
  | @keyLack entries samplers u w w₁ earlier later k key l hlist hsamplers hkeys hearlier hlack =>
    have hfails : Fails (compileKey s k entries key) (.refused (Fault.lack l).somewhere) w₁ := by
      unfold compileKey
      rw [hlack]
      rfl
    exact somewhere _ (compileEntries_fails_iff.2 (.inr ⟨_, hlist, .inr ⟨_, _, hsamplers, _, _, _,
      _, _, hkeys, hearlier, hfails⟩⟩))
  | @key entries samplers u w w₁ earlier later k key text r hlist hsamplers hkeys hearlier htext
      hfails =>
    refine ⟨r.within none (some key), compileEntries_fails_iff.2 (.inr ⟨_, hlist, .inr ⟨_, _,
      hsamplers, _, _, _, _, _, hkeys, hearlier,
      (compileKey_fails_iff htext).2 ⟨_, hfails, rfl⟩⟩⟩), rfl, ?_⟩
    have hlies : r.LiesIn none none (some text) := compileFormula_failsFor s k text _ _ hfails
    exact hlies.inField key

end Terrain.Profile
