import Terrain.Host.Standard
import Terrain.Proofs.Formula.Grammar
import Terrain.Proofs.Profile.Interpreter
import Terrain.Proofs.Profile.Kinds

/-!
# How deep profiles go

The builder refuses formulas that are nested too deep, but it does not look into the fields that
they name. A field may be built on the field before it, and so on: each formula of the document is
shallow, and the tree that is compiled is as deep as there are fields.

* `exists_ok_of_compile`: a profile answers where as many calls may be open as it has nodes, and
  those that a leaf takes.
* `Linked`: the fields are links of a chain, the last of which is as deep as the chain is long.
* `chain_too_deep`, `link_too_deep`: however many calls may be open, there is a chain that compiles,
  and a link of it that is built, whose evaluation takes more.
* `document_too_deep`, `number_too_deep`: the same where the program is run.
-/

namespace Terrain.Profile

open Terrain.Formula Terrain.Text Terrain.Attempt

/-! ## 1. Room that is enough -/

section Enough

variable {p : Profile} {stack : Stack} {noise : Noise} {c : Context}

theorem tooDeep_of_sampleDensity (h : (p.sampleDensity stack noise c).result = .error .tooDeep) :
    (p.graph.evaluate stack noise c p.density).result = .error .tooDeep := by
  unfold sampleDensity at h
  rw [Answer.result_bind] at h
  rcases hr : (p.graph.evaluate stack noise c p.density).result with e | r
  · rw [hr] at h
    cases h
    rfl
  · rw [hr] at h
    cases r <;> cases h

theorem tooDeep_of_sampleVoxel (h : (p.sampleVoxel stack noise c).result = .error .tooDeep) :
    (p.graph.evaluate stack noise c p.voxelId).result = .error .tooDeep ∨
      (p.graph.evaluate stack noise c p.shape).result = .error .tooDeep := by
  unfold sampleVoxel at h
  simp only [Answer.result_bind] at h
  rcases hid : (p.graph.evaluate stack noise c p.voxelId).result with e | r
  · rw [hid] at h
    cases h
    exact .inl rfl
  · rcases hshape : (p.graph.evaluate stack noise c p.shape).result with e | r'
    · rw [hid, hshape] at h
      cases r <;> cases h
      exact .inr rfl
    · rw [hid, hshape] at h
      cases r <;> cases r' <;> cases h

/-- **A profile that compiles answers where as many calls may be open as it has nodes**, and those
    that a leaf takes, if noise is not refused at the place. -/
theorem exists_ok_of_compile {s : Setting} {name : String} {document : Value}
    {log : List Log.Record} (h : compile s name document = (.ok p, log))
    (hroom : p.graph.size + max stack.reading stack.asking ≤ stack.levels) {x : Float}
    (hnoise : noise c.position = .ok x) :
    (∃ density, (p.sampleDensity stack noise c).result = .ok density) ∧
      ∃ v, (p.sampleVoxel stack noise c).result = .ok v := by
  obtain ⟨hD, hV, hS⟩ := answers_of_compile h
  obtain ⟨hdensity, hvoxel⟩ := settles_of_compile h stack.toCalls noise c
  have ended {i : Nat} (hi : p.graph.Whole i) :
      (p.graph.evaluate stack noise c i).result ≠ .error .tooDeep := by
    have hlt := hi.lt_size
    exact (ordered_of_compile h).ne_tooDeep (by omega)
  have granted (e : Noise.Refusal) : noise c.position ≠ .error e := by
    rw [hnoise]
    nofun
  constructor
  · rcases hdensity.trichotomy stack.levels with ⟨density, hok, -⟩ | ⟨e, he, -⟩ | hdeep
    · exact ⟨density, hok⟩
    · exact absurd he (granted e)
    · exact absurd (tooDeep_of_sampleDensity hdeep) (ended hD.whole)
  · rcases hvoxel.trichotomy stack.levels with ⟨v, hok, -⟩ | ⟨e, he, -⟩ | hdeep
    · exact ⟨v, hok⟩
    · exact absurd he (granted e)
    · rcases tooDeep_of_sampleVoxel hdeep with hdeep | hdeep
      · exact absurd hdeep (ended hV.whole)
      · exact absurd hdeep (ended hS.whole)

end Enough

/-! ## 2. Chains of fields -/

/-- The name of a link. -/
def linkName (n : Nat) : String := .ofList (List.replicate (n + 1) 'x')

/-- The formula of a link: the first reads the depth, and each later one adds to the one before. -/
def linkFormula : Nat → String
  | 0 => "Depth"
  | n + 1 => "Add(" ++ linkName n ++ ",1)"

/-- The entry of a link. -/
def link (n : Nat) : List (Value × Value) := formulaEntry (linkName n) (linkFormula n)

/-- The entries of so many links, from one on. -/
def links (start count : Nat) : List Value := (List.range' start count).map fun n => .map (link n)

@[simp] theorem toList_linkName (n : Nat) : (linkName n).toList = List.replicate (n + 1) 'x' := by
  simp [linkName]

theorem linkName_injective {m n : Nat} (h : (linkName m).toList = (linkName n).toList) : m = n := by
  have hlength := congrArg List.length h
  simpa using hlength

/-- The name of a link is a name, and no literal. -/
theorem isName_linkName (n : Nat) : IsName (linkName n).toList := by
  refine .of_all (by simp) (List.all_eq_true.2 fun c hc => ?_)
  rw [toList_linkName] at hc
  rw [List.eq_of_mem_replicate hc]
  decide

theorem not_writes_linkName (n : Nat) (d : Number.Decimal) :
    ¬ Number.Writes (linkName n).toList d := by
  intro h
  have hx : ¬ Number.IsLiteralChar 'x' := by
    unfold Number.IsLiteralChar
    decide
  exact hx (h.mem 'x' (by simp))

/-- **The fields are links of a chain** of a length, and the last of them is as deep as it is
    long. -/
structure Linked (sc : Scope) (g : Graph) (length : Nat) : Prop where
  names : ∀ f ∈ sc.fields, ∃ n < length, f.name = (linkName n).toList
  last : ∀ n, n + 1 = length → ∃ i, sc.field? (linkName n).toList = some i ∧ g.Nests n i

namespace Linked

variable {sc : Scope} {g h : Graph} {n : Nat}

theorem plain (hl : Linked sc g n) : sc.Plain := by
  intro f hf
  obtain ⟨m, -, hname⟩ := hl.names f hf
  rw [hname]
  exact isName_linkName m

/-- The name of the next link is free. -/
theorem field?_next (hl : Linked sc g n) : sc.field? (linkName n).toList = none := by
  by_contra hf
  obtain ⟨f, hmem, hname⟩ := exists_of_field? hf
  obtain ⟨m, hm, hm'⟩ := hl.names f hmem
  rw [hname] at hm'
  exact absurd (linkName_injective hm') (Nat.ne_of_gt hm)

/-- The last link can be named in a formula. -/
theorem reading_last (hl : Linked sc g (n + 1)) :
    Reading sc .number (linkName n).toList (.field (linkName n).toList) := by
  obtain ⟨i, hi, -⟩ := hl.last n rfl
  refine Renders.reading hl.plain (.field (not_writes_linkName n) ?_ (.refl _))
  rw [hi]
  nofun

/-- **The formula of the next link is built**, and its node lies around that of the last. -/
theorem exists_built {s : Setting} {w : Workshop} (hroom : 2 ≤ s.room)
    (hl : Linked (w.scope s) w.draft.graph n) :
    ∃ root d, Built (w.scope s) s.room .number (linkFormula n).toList w.draft root d ∧
      d.graph.Nests n root := by
  cases n with
  | zero =>
    have hfree : (w.scope s).field? "Depth".toList = none := by
      by_contra hf
      obtain ⟨f, hmem, -⟩ := exists_of_field? hf
      obtain ⟨m, hm, -⟩ := hl.names f hmem
      exact absurd hm (Nat.not_lt_zero _)
    have hreading : Reading (w.scope s) .number (linkFormula 0).toList (.signal .depth) :=
      Renders.reading hl.plain (.signal (by decide : ("Depth", .depth) ∈ signals) hfree (.refl _))
    obtain ⟨root, d, hbuilt⟩ := hreading.built (Nat.le_trans (by decide) hroom) w.draft
    exact ⟨root, d, hbuilt, .last root⟩
  | succ n =>
    obtain ⟨i, hi, hnests⟩ := hl.last n rfl
    obtain ⟨one, hone⟩ : ∃ one, Number.Decimal.read? "1".toList = some one := ⟨_, rfl⟩
    have hleft : Renders (w.scope s) .number (.field (linkName n).toList) (linkName n).toList :=
      .field (not_writes_linkName n) (by rw [hi]; nofun) (.refl _)
    have hright : Renders (w.scope s) .number (.literal one) "1".toList :=
      .literal (Number.Decimal.read?_eq_some_iff.1 hone) (.refl _)
    have hcalled : Called .add [(linkName n).toList, "1".toList] (linkFormula (n + 1)).toList :=
      ⟨_, [], .refl _, .nil, by simp [linkFormula, joined, Call.name]⟩
    have hreading := (Renders.pair (k := .number) rfl hleft hright hcalled).reading hl.plain
    obtain ⟨root, d, hbuilt⟩ := hreading.built hroom w.draft
    obtain ⟨node, j, m, hnode, hn, hj, -⟩ := hbuilt.stands hreading
    cases hnode
    obtain rfl : i = j := Option.some.inj (hi.symm.trans hj)
    exact ⟨root, d, hbuilt, .inside hn (.add _ _) (hnests.grow hbuilt.starts)⟩

end Linked

/-! ## 3. Chains that are bound -/

section Binding

variable {s : Setting} {w : Workshop} {n : Nat}

/-- An entry of a formula is bound if its name is free and its formula is built. -/
theorem run_bindSampler_formulaEntry {name text : String} {root : Nat} {d : Draft}
    (hfree : w.binds name = false)
    (h : Built (w.scope s) s.room .number text.toList w.draft root d) :
    ∃ w', (bindSampler s (formulaEntry name text)).run w = (.ok root, w') ∧
      w'.fields = w.fields ++ [⟨name.toList, root⟩] ∧ w'.draft.graph = d.graph := by
  have hnode : (samplerNode s (formulaEntry name text)).run w = (.ok root, { w with draft := d }) :=
    run_compileFormula_of_built h
  have hmade : (do
      if (← get).binds name then refuse (.fieldTwice name)
      samplerNode s (formulaEntry name text) : Compile Nat).run w =
        (.ok root, { w with draft := d }) := by
    have hget : (get : Compile Workshop).run w = (.ok w, w) := rfl
    rw [run_bind_of_ok hget, hfree]
    exact hnode
  refine ⟨((bindField name root).run { w with draft := d }).2, ?_, rfl, rfl⟩
  exact run_bind_of_ok (run_inField_of_ok hmade name) _

/-- **The next link is bound.** -/
theorem Linked.exists_bound (hroom : 2 ≤ s.room) (hl : Linked (w.scope s) w.draft.graph n) :
    ∃ root w', (bindSampler s (link n)).run w = (.ok root, w') ∧
      Linked (w'.scope s) w'.draft.graph (n + 1) := by
  obtain ⟨root, d, hbuilt, hnests⟩ := hl.exists_built hroom
  have hfree : w.binds (linkName n) = false := by
    rw [Workshop.binds, List.any_eq_false]
    intro f hf hname
    obtain ⟨m, hm, hname'⟩ := hl.names f hf
    rw [beq_iff_eq, hname'] at hname
    exact absurd (linkName_injective hname) (Nat.ne_of_lt hm)
  obtain ⟨w', hrun, hfields, hgraph⟩ := run_bindSampler_formulaEntry hfree hbuilt
  refine ⟨root, w', hrun, ⟨fun f hf => ?_, fun m hm => ?_⟩⟩
  · dsimp only [Workshop.scope] at hf
    rw [hfields] at hf
    rcases List.mem_append.1 hf with hf | hf
    · obtain ⟨m, hm, hname⟩ := hl.names f hf
      exact ⟨m, Nat.lt_succ_of_lt hm, hname⟩
    · rw [List.mem_singleton.1 hf]
      exact ⟨n, Nat.lt_succ_self n, rfl⟩
  · obtain rfl := Nat.succ.inj hm
    refine ⟨root, ?_, by rwa [hgraph]⟩
    unfold Workshop.scope
    rw [hfields, field?_append, if_pos rfl]
    have hnone := hl.field?_next
    unfold Workshop.scope at hnone
    rw [hnone]
    rfl

/-- **A chain of any length is bound.** -/
theorem Linked.exists_bound_all (hroom : 2 ≤ s.room) : ∀ (count : Nat) {start : Nat}
    {w : Workshop}, Linked (w.scope s) w.draft.graph start →
    ∃ w', (bindSamplers s (links start count)).run w = (.ok (), w') ∧
      Linked (w'.scope s) w'.draft.graph (start + count)
  | 0, _, w, hl => ⟨w, rfl, hl⟩
  | count + 1, start, w, hl => by
    obtain ⟨root, w₁, hfirst, hl₁⟩ := hl.exists_bound hroom
    obtain ⟨w', hrest, hl'⟩ := Linked.exists_bound_all hroom count hl₁
    refine ⟨w', ?_, by rwa [Nat.add_assoc, Nat.add_comm 1] at hl'⟩
    have hcons : links start (count + 1) = .map (link start) :: links (start + 1) count := by
      unfold links
      rw [List.range'_succ]
      rfl
    rw [hcons]
    exact (run_bind_of_ok hfirst _).trans hrest

theorem linked_empty (s : Setting) : Linked (Workshop.empty.scope s) .empty 0 :=
  ⟨nofun, nofun⟩

/-- A formula under a key compiles where its text is read within the room. -/
theorem exists_compileKey_of_reading {k : Kind} {text : String} {e : Term}
    (entries : List (Value × Value)) (key : String)
    (htext : Value.lookup key entries = some (.text text))
    (h : Reading (w.scope s) k text.toList e) (hroom : e.depth ≤ s.room) :
    ∃ root d, (compileKey s k entries key).run w = (.ok root, { w with draft := d }) ∧
      e.Stands (w.scope s) d.graph root ∧ w.draft.graph.Starts d.graph := by
  obtain ⟨root, d, hbuilt⟩ := h.built hroom w.draft
  exact ⟨root, d, run_compileKey_of_built htext hbuilt, hbuilt.stands h, hbuilt.starts⟩

end Binding

/-! ## 4. Room that is never enough -/

/-- The entries of a document whose density is the last link of a chain. -/
def chainEntries (length : Nat) : List (Value × Value) :=
  [(.text samplersKey, .list (links 0 (length + 1))),
    (.text densityKey, .text (linkName length)),
    (.text typeKey, .text "Voxel(stone)"),
    (.text shapeKey, .text "CUBE")]

/-- The type of voxels in a chain is read wherever its name is known. -/
theorem reading_stone {sc : Scope} (hid : sc.voxelId "stone".toList ≠ none) :
    Reading sc .voxel "Voxel(stone)".toList (.voxel "stone".toList) :=
  .voxel ⟨classify_eq_call_iff.2 ⟨by decide, nofun⟩, by decide, by decide⟩ hid

/-- The shape of voxels in a chain is read everywhere. -/
theorem reading_cube (sc : Scope) : Reading sc .shape "CUBE".toList (.shape .cube) :=
  .bare (by decide) (.shape (by decide))

/-- The fields of a chain are bound, and the last of them is as deep as it is long. -/
theorem exists_chain (length : Nat) : ∃ w i,
    (bindSamplers stoneSetting (links 0 (length + 1))).run Workshop.empty = (.ok (), w) ∧
      Linked (w.scope stoneSetting) w.draft.graph (length + 1) ∧
      (w.scope stoneSetting).field? (linkName length).toList = some i ∧
      w.draft.graph.Nests length i := by
  obtain ⟨w, hrun, hl⟩ :=
    (linked_empty stoneSetting).exists_bound_all (w := Workshop.empty) (by decide) (length + 1)
  rw [Nat.zero_add] at hl
  obtain ⟨i, hi, hnests⟩ := hl.last length rfl
  exact ⟨w, i, hrun, hl, hi, hnests⟩

/-- **A chain of any length compiles**, and its density is as deep as it is long. -/
theorem exists_compile_chain (length : Nat) : ∃ p log,
    compile stoneSetting "chain" (.map (chainEntries length)) = (.ok p, log) ∧
      p.graph.Nests length p.density := by
  obtain ⟨w, i, hsamplers, hl, hi, hnests⟩ := exists_chain length
  have hroom : 1 ≤ stoneSetting.room := by decide
  obtain ⟨density, d₁, hrunD, hstands, hgrowD⟩ :=
    exists_compileKey_of_reading (chainEntries length) densityKey rfl hl.reading_last hroom
  have hstone : stoneSetting.voxelId "stone".toList ≠ none := by decide
  obtain ⟨voxelId, d₂, hrunV, -, hgrowV⟩ :=
    exists_compileKey_of_reading (s := stoneSetting) (w := { w with draft := d₁ })
      (chainEntries length) typeKey rfl (reading_stone hstone) hroom
  obtain ⟨shape, d₃, hrunS, -, hgrowS⟩ :=
    exists_compileKey_of_reading (s := stoneSetting) (w := { w with draft := d₂ })
      (chainEntries length) shapeKey rfl (reading_cube _) hroom
  obtain ⟨log, h⟩ := exists_compile_of_run
    (run_compileEntries_of_ok "chain" rfl hsamplers hrunD hrunV hrunS)
  obtain rfl : i = density := Option.some.inj (hi.symm.trans hstands)
  exact ⟨_, log, h, hnests.grow ((hgrowD.trans hgrowV).trans hgrowS)⟩

/-- **However many calls may be open, there is a chain that compiles and says a density, and whose
    profile has none**: its evaluation is too deep, with every noise and at every place. -/
theorem chain_too_deep (stack : Stack) : ∃ p log,
    compile stoneSetting "chain" (.map (chainEntries stack.levels)) = (.ok p, log) ∧
    ∀ noise c x, noise c.position = .ok x →
      (∃ density, (interpretDensity stoneSetting.voxelId stack.toCalls noise c
        (.map (chainEntries stack.levels))).result = .ok density) ∧
      (p.sampleDensity stack noise c).result = .error .tooDeep := by
  obtain ⟨p, log, h, hnests⟩ := exists_compile_chain stack.levels
  refine ⟨p, log, h, fun noise c x hnoise => ⟨?_, ?_⟩⟩
  · obtain ⟨hD, -, -⟩ := answers_of_compile h
    rcases (sampleDensity_follows hD stack noise c).2.result with ⟨density, hok, -⟩ | ⟨e, he, -⟩
    · exact ⟨density, hok⟩
    · rw [hnoise] at he
      cases he
  · unfold sampleDensity
    rw [Answer.result_bind]
    unfold Graph.evaluate
    rw [hnests.tooDeep (Nat.le_refl _)]
    rfl

/-- **A document has an answer that its profile has not**, where the program is run: each of its
    formulas is shallow, and the profile is too deep. -/
theorem document_too_deep : ∃ p log,
    compile stoneSetting "chain" (.map (chainEntries 900)) = (.ok p, log) ∧
    ∀ noise c x, noise c.position = .ok x →
      (∃ density, (interpretDensity stoneSetting.voxelId Host.calls.toCalls noise c
        (.map (chainEntries 900))).result = .ok density) ∧
      (p.sampleDensity Host.calls noise c).result = .error .tooDeep :=
  chain_too_deep Host.calls

/-- **However many calls may be open, there is a link that is built and never evaluated**: its name
    gives a node that answers numbers, but is too deep. -/
theorem link_too_deep (stack : Stack) : ∃ d root,
    (build ((Workshop.empty.runs stoneSetting [.bindAll (links 0 (stack.levels + 1))]).scope
      stoneSetting) nestingLimit .number (linkName stack.levels).toList).run
      (Workshop.empty.runs stoneSetting [.bindAll (links 0 (stack.levels + 1))]).draft =
        (.ok root, d) ∧
    d.graph.HasKind root .number ∧
    ∀ noise c, (d.graph.evaluate stack noise c root).result = .error .tooDeep := by
  obtain ⟨w, i, hsamplers, hl, hi, hnests⟩ := exists_chain stack.levels
  have hruns : Workshop.empty.runs stoneSetting [.bindAll (links 0 (stack.levels + 1))] = w :=
    congrArg Prod.snd hsamplers
  obtain ⟨root, d, hbuilt⟩ := hl.reading_last.built (by decide : 1 ≤ nestingLimit) w.draft
  obtain rfl : i = root := Option.some.inj (hi.symm.trans (hbuilt.stands hl.reading_last))
  have hnumeric : w.Numeric := by
    rw [← hruns]
    exact (regular_runs stoneSetting _ Workshop.regular_empty).numeric
  rw [hruns]
  exact ⟨d, i, hbuilt.run, hbuilt.hasKind hnumeric, fun noise c =>
    (hnests.grow hbuilt.starts).tooDeep (Nat.le_refl _)⟩

/-- **A number is built and never evaluated**, where the program is run: it is of its kind
    throughout, and too deep. -/
theorem number_too_deep : ∃ d root,
    (build ((Workshop.empty.runs stoneSetting [.bindAll (links 0 901)]).scope stoneSetting)
      nestingLimit .number (linkName 900).toList).run
      (Workshop.empty.runs stoneSetting [.bindAll (links 0 901)]).draft = (.ok root, d) ∧
    d.graph.HasKind root .number ∧
    ∀ noise c, (d.graph.evaluate Host.calls noise c root).result = .error .tooDeep :=
  link_too_deep Host.calls

end Terrain.Profile
