import Mathlib.Data.List.Nodup
import Terrain.Proofs.Profile.Compiling

/-!
# The fields of a workshop

A workshop is asked to bind an entry, to bind a list of entries, or to build a formula, one request
after the other. Any of them may fail, and the next is served all the same.

* `grows_serve`, `grows_runs`: whatever comes of a request, fields are only appended.
* `run_bindSamplers_ok`, `run_bindSamplers_error`: how far a list of entries is bound.
* `exists_origin`: every field of a run was bound by an entry, with the fields before it in scope.
* `orderly_runs`: what a run of requests comes to.
-/

namespace Terrain.Profile

open Terrain.Formula Terrain.Attempt

variable {s : Setting} {w w' : Workshop} {entries : List (Value × Value)} {root : Nat}

/-! ## 1. What is left alone -/

/-- The fields are as they were, and the graph has at most grown. -/
structure Workshop.Keeps (w w' : Workshop) : Prop where
  fields : w'.fields = w.fields
  graph : w.draft.graph.Starts w'.draft.graph

namespace Workshop.Keeps

theorem refl (w : Workshop) : w.Keeps w := ⟨rfl, .refl _⟩

theorem trans {w₁ w₂ w₃ : Workshop} (h : w₁.Keeps w₂) (h' : w₂.Keeps w₃) : w₁.Keeps w₃ :=
  ⟨h'.fields.trans h.fields, h.graph.trans h'.graph⟩

end Workshop.Keeps

/-- Asking for what is required changes nothing. -/
theorem leads_demand {α : Type} (x : Except Value.Lack α) : Leads Eq (demand x) := by
  cases x with
  | error l => exact fun w => rfl
  | ok a => exact fun w => rfl

/-- Asking for a number changes nothing. -/
theorem leads_demandNumber (entries : List (Value × Value)) (key : String) :
    Leads Eq (demandNumber entries key) := by
  refine .bind Eq.trans (leads_demand _) fun v => ?_
  cases v with
  | inr x => exact fun w => rfl
  | inl n =>
    dsimp only
    split
    · exact fun w => rfl
    · exact fun w => rfl

theorem keeps_get : Leads Workshop.Keeps (get : Compile Workshop) := fun w => .refl w

theorem keeps_inField {α : Type} {x : Compile α} (hx : Leads Workshop.Keeps x) (name : String) :
    Leads Workshop.Keeps (inField name x) := by
  intro w
  rw [run_inField]
  exact hx w

/-- Building a formula binds nothing. -/
theorem keeps_compileFormula (s : Setting) (k : Kind) (text : String) :
    Leads Workshop.Keeps (compileFormula s k text) := by
  intro w
  have hgrows := leads_build (w.scope s) s.room k text.toList w.draft
  rw [run_compileFormula]
  rcases hrun : (build (w.scope s) s.room k text.toList).run w.draft with ⟨(r | _) | i, d⟩ <;>
    rw [hrun] at hgrows <;> exact ⟨rfl, hgrows⟩

/-- The node of a declaration is made before anything is bound. -/
theorem keeps_samplerNode (s : Setting) (entries : List (Value × Value)) :
    Leads Workshop.Keeps (samplerNode s entries) := by
  refine .bind .trans ((leads_demand _).of_eq .refl) fun type => ?_
  split
  · exact .bind .trans ((leads_demandNumber _ _).of_eq .refl) fun _ =>
      .bind .trans ((leads_demandNumber _ _).of_eq .refl) fun _ => fun w => ⟨rfl, .push _ _⟩
  · split
    · exact .bind .trans ((leads_demand _).of_eq .refl) fun text =>
        keeps_compileFormula s .number text
    · exact fun w => .refl w

/-- **An entry that fails leaves the fields as they were**, whatever is wrong with it. -/
theorem run_bindSampler_error {f : Failure}
    (h : (bindSampler s entries).run w = (.error f, w')) : w.Keeps w' := by
  unfold bindSampler at h
  rcases hname : (demand (Value.requireText entries "Name" "sampler")).run w with ⟨e | name, w₁⟩
  · have hkept := leads_demand (Value.requireText entries "Name" "sampler") w
    rw [run_bind_of_error hname] at h
    rw [hname] at hkept
    cases h
    exact hkept ▸ .refl w
  obtain ⟨-, rfl⟩ := run_demand_ok hname
  rw [run_bind_of_ok hname] at h
  -- nothing is bound before the node is made, and binding does not fail
  have hkeeps : Leads Workshop.Keeps (inField name do
      if (← get).binds name then refuse (.fieldTwice name)
      samplerNode s entries) := by
    refine keeps_inField (.bind .trans keeps_get fun v => ?_) name
    split
    · exact .bind .trans (fun w => .refl w) fun _ => keeps_samplerNode s entries
    · exact keeps_samplerNode s entries
  have hkeeps := hkeeps w
  rcases hnode : (inField name do
      if (← get).binds name then refuse (.fieldTwice name)
      samplerNode s entries).run w with ⟨e | i, w₂⟩
  · rw [run_bind_of_error hnode] at h
    rw [hnode] at hkeeps
    cases h
    exact hkeeps
  · rw [run_bind_of_ok hnode] at h
    cases h

/-! ## 2. Growth -/

/-- The names of the fields. -/
def Workshop.names (w : Workshop) : List Text := w.fields.map (·.name)

/-- All names are different, and everything below the fields is there. -/
structure Workshop.Sound (w : Workshop) : Prop where
  distinct : w.names.Nodup
  whole : ∀ f ∈ w.fields, w.draft.graph.Whole f.root

/-- Where nothing is bound, all is sound. -/
theorem Workshop.sound_empty : Workshop.empty.Sound := ⟨List.nodup_nil, List.forall_mem_nil _⟩

/-- Fields are only appended, the graph only grows, and what was sound is sound. -/
structure Workshop.Grows (w w' : Workshop) : Prop where
  fields : w.fields <+: w'.fields
  graph : w.draft.graph.Starts w'.draft.graph
  sound : w.Sound → w'.Sound

namespace Workshop.Grows

theorem refl (w : Workshop) : w.Grows w := ⟨List.prefix_rfl, .refl _, id⟩

theorem trans {w₁ w₂ w₃ : Workshop} (h : w₁.Grows w₂) (h' : w₂.Grows w₃) : w₁.Grows w₃ :=
  ⟨h.fields.trans h'.fields, h.graph.trans h'.graph, h'.sound ∘ h.sound⟩

/-- The tree of a field stays what it was. -/
theorem table_eq (h : w.Grows w') (hw : w.Sound) {f : Field} (hf : f ∈ w.fields) :
    w'.draft.graph.table f.root = w.draft.graph.table f.root :=
  h.graph.table_eq (hw.whole f hf)

end Workshop.Grows

theorem Workshop.Keeps.grows (h : w.Keeps w') : w.Grows w' where
  fields := h.fields ▸ List.prefix_rfl
  graph := h.graph
  sound hw := by
    refine ⟨?_, fun f hf => ?_⟩
    · unfold Workshop.names
      rw [h.fields]
      exact hw.distinct
    · rw [h.fields] at hf
      exact (hw.whole f hf).grow h.graph

/-- **An entry that is bound appends its own name**, with its node. -/
theorem run_bindSampler_appends (h : (bindSampler s entries).run w = (.ok root, w')) :
    ∃ name, Value.requireText entries "Name" "sampler" = .ok name ∧
      w'.fields = w.fields ++ [⟨name.toList, root⟩] ∧ w.Grows w' := by
  obtain ⟨name, w₁, hname, hfree, hnode, hfields, hgraph⟩ := run_bindSampler_ok h
  obtain ⟨hkept, hadded⟩ := run_samplerNode_ok hnode
  have hgrow : w.draft.graph.Starts w'.draft.graph := by
    have hkeeps := keeps_samplerNode s entries w
    rw [hnode] at hkeeps
    rw [hgraph]
    exact hkeeps.graph
  rw [hkept] at hfields
  refine ⟨name, hname, hfields, ⟨⟨_, hfields.symm⟩, hgrow, fun hw => ⟨?_, ?_⟩⟩⟩
  · have hnew : name.toList ∉ w.names := by
      intro hmem
      obtain ⟨f, hf, hfname⟩ := List.mem_map.1 hmem
      have hbound : w.binds name = true := List.any_eq_true.2 ⟨f, hf, by simp [hfname]⟩
      rw [hfree] at hbound
      cases hbound
    unfold Workshop.names
    rw [hfields, List.map_append]
    exact hw.distinct.append (List.nodup_singleton _) (List.disjoint_singleton.2 hnew)
  · intro f hf
    rw [hfields] at hf
    rcases List.mem_append.1 hf with hf | hf
    · exact (hw.whole f hf).grow hgrow
    · obtain rfl := List.mem_singleton.1 hf
      rw [hgraph]
      rcases hadded with ⟨-, wavelength, amplitude, rfl, hdraft⟩ | ⟨-, text, -, hbuilt⟩
      · rw [hdraft]
        exact .node (Graph.node?_push_size _ _) (List.forall_mem_nil _)
      · exact hbuilt.whole hw.whole

/-- Whatever comes of an entry, fields are only appended. -/
theorem grows_bindSampler (s : Setting) (entries : List (Value × Value)) :
    Leads Workshop.Grows (bindSampler s entries) := by
  intro w
  rcases hrun : (bindSampler s entries).run w with ⟨f | root, w'⟩
  · exact (run_bindSampler_error hrun).grows
  · obtain ⟨name, -, -, hgrows⟩ := run_bindSampler_appends hrun
    exact hgrows

/-- Whatever comes of a list of entries, fields are only appended. -/
theorem grows_bindSamplers (s : Setting) : ∀ samplers : List Value,
    Leads Workshop.Grows (bindSamplers s samplers)
  | [] => fun w => .refl w
  | v :: rest => by
    cases v with
    | map entries =>
      exact .bind .trans (grows_bindSampler s entries) fun _ => grows_bindSamplers s rest
    | _ => exact fun w => .refl w

/-! ## 3. Lists of entries -/

/-- The entries are bound, one after the other. -/
inductive BindsAll (s : Setting) : Workshop → List (List (Value × Value)) → Workshop → Prop
  | nil (w : Workshop) : BindsAll s w [] w
  | cons {w w₁ w₂ : Workshop} {entries : List (Value × Value)}
      {rest : List (List (Value × Value))} {root : Nat}
      (first : (bindSampler s entries).run w = (.ok root, w₁)) (others : BindsAll s w₁ rest w₂) :
      BindsAll s w (entries :: rest) w₂

theorem BindsAll.grows {all : List (List (Value × Value))} (h : BindsAll s w all w') :
    w.Grows w' := by
  induction h with
  | nil w => exact .refl w
  | cons first _ ih =>
    obtain ⟨name, -, -, hgrows⟩ := run_bindSampler_appends first
    exact hgrows.trans ih

/-- **A list that succeeds is bound to the last**, and all its entries are maps. -/
theorem run_bindSamplers_ok {u : Unit} : ∀ {samplers : List Value} {w : Workshop},
    (bindSamplers s samplers).run w = (.ok u, w') →
    ∃ all, samplers = all.map .map ∧ BindsAll s w all w'
  | [], w, h => by
    cases h
    exact ⟨[], rfl, .nil _⟩
  | v :: rest, w, h => by
    obtain ⟨entries, root, w₁, rfl, hfirst, hrest⟩ := run_bindSamplers_cons_ok h
    obtain ⟨all, rfl, hall⟩ := run_bindSamplers_ok hrest
    exact ⟨entries :: all, rfl, .cons hfirst hall⟩

/-- **A list that fails is bound up to the entry that fails**, which is no map, or a map that is not
    bound. -/
theorem run_bindSamplers_error {f : Failure} : ∀ {samplers : List Value} {w : Workshop},
    (bindSamplers s samplers).run w = (.error f, w') →
    ∃ all v after w₁, samplers = all.map .map ++ v :: after ∧ BindsAll s w all w₁ ∧
      w₁.Keeps w' ∧ ((∀ entries, v ≠ .map entries) ∨
        ∃ entries, v = .map entries ∧ (bindSampler s entries).run w₁ = (.error f, w'))
  | [], w, h => by cases h
  | v :: rest, w, h => by
    cases v with
    | map entries =>
      rcases hfirst : (bindSampler s entries).run w with ⟨e | root, w₁⟩
      · rw [bindSamplers, run_bind_of_error hfirst] at h
        cases h
        exact ⟨[], .map entries, rest, w, rfl, .nil w, run_bindSampler_error hfirst,
          .inr ⟨entries, rfl, hfirst⟩⟩
      · rw [bindSamplers, run_bind_of_ok hfirst] at h
        obtain ⟨all, v, after, w₂, rfl, hall, hkeeps, hwrong⟩ := run_bindSamplers_error h
        exact ⟨entries :: all, v, after, w₂, rfl, .cons hfirst hall, hkeeps, hwrong⟩
    | _ =>
      cases h
      exact ⟨[], _, rest, _, rfl, .nil _, .refl _, .inl nofun⟩

/-! ## 4. Runs of requests -/

/-- What a workshop can be asked for. -/
inductive Request where
  | bind (entries : List (Value × Value))
  | bindAll (samplers : List Value)
  | build (kind : Kind) (text : String)

/-- The workshop after a request, whatever came of it. -/
def Workshop.serve (s : Setting) (w : Workshop) : Request → Workshop
  | .bind entries => ((bindSampler s entries).run w).2
  | .bindAll samplers => ((bindSamplers s samplers).run w).2
  | .build k text => ((compileFormula s k text).run w).2

/-- The workshop after a run of requests. -/
def Workshop.runs (s : Setting) (w : Workshop) (rs : List Request) : Workshop :=
  rs.foldl (Workshop.serve s) w

theorem grows_serve (s : Setting) (w : Workshop) (r : Request) : w.Grows (w.serve s r) := by
  cases r with
  | bind entries => exact grows_bindSampler s entries w
  | bindAll samplers => exact grows_bindSamplers s samplers w
  | build k text => exact (keeps_compileFormula s k text w).grows

/-- **A run only appends fields.** -/
theorem grows_runs (s : Setting) : ∀ (rs : List Request) (w : Workshop), w.Grows (w.runs s rs)
  | [], w => .refl w
  | r :: rs, w => (grows_serve s w r).trans (grows_runs s rs (w.serve s r))

/-- An entry has its turn in a request, once those before it are bound. -/
inductive Request.Reaches : Request → List (List (Value × Value)) → List (Value × Value) → Prop
  | bind (entries : List (Value × Value)) : Reaches (.bind entries) [] entries
  | bindAll (before : List (List (Value × Value))) (entries : List (Value × Value))
      (after : List Value) :
      Reaches (.bindAll (before.map .map ++ .map entries :: after)) before entries

/-- **What a request binds is bound one after the other**, and all of it had its turn. -/
theorem exists_bindsAll (s : Setting) (w : Workshop) (r : Request) :
    ∃ all w₁, BindsAll s w all w₁ ∧ w₁.Keeps (w.serve s r) ∧
      ∀ before entries after, all = before ++ entries :: after → r.Reaches before entries := by
  have hlist {all : List (List (Value × Value))} (rest : List Value)
      (before : List (List (Value × Value))) (entries : List (Value × Value))
      (after : List (List (Value × Value))) (hall : all = before ++ entries :: after) :
      (Request.bindAll (all.map .map ++ rest)).Reaches before entries := by
    rw [hall, List.map_append, List.append_assoc]
    exact .bindAll before entries (after.map .map ++ rest)
  cases r with
  | bind entries =>
    simp only [Workshop.serve]
    rcases hrun : (bindSampler s entries).run w with ⟨f | root, w'⟩
    · exact ⟨[], w, .nil w, run_bindSampler_error hrun, by simp⟩
    · refine ⟨[entries], w', .cons hrun (.nil w'), .refl w', fun before entries' after h => ?_⟩
      rcases List.singleton_eq_append_iff.1 h with ⟨rfl, h⟩ | ⟨-, h⟩
      · cases h
        exact .bind entries
      · cases h
  | bindAll samplers =>
    simp only [Workshop.serve]
    rcases hrun : (bindSamplers s samplers).run w with ⟨f | u, w'⟩
    · obtain ⟨all, v, after, w₁, rfl, hall, hkeeps, -⟩ := run_bindSamplers_error hrun
      exact ⟨all, w₁, hall, hkeeps, hlist (v :: after)⟩
    · obtain ⟨all, rfl, hall⟩ := run_bindSamplers_ok hrun
      rw [← List.append_nil (all.map Value.map)]
      exact ⟨all, w', hall, .refl w', hlist []⟩
  | build k text => exact ⟨[], w, .nil w, keeps_compileFormula s k text w, by simp⟩

/-- A field that entries bind one after the other was bound by one of them. -/
theorem BindsAll.exists_origin {all : List (List (Value × Value))} (h : BindsAll s w all w') :
    ∀ {pre : List Field} {f : Field} {post : List Field}, w'.fields = w.fields ++ pre ++ f :: post →
    ∃ before entries after v v', all = before ++ entries :: after ∧ BindsAll s w before v ∧
      v.fields = w.fields ++ pre ∧ (bindSampler s entries).run v = (.ok f.root, v') ∧
      v'.fields = v.fields ++ [f] ∧ v'.Grows w' := by
  induction h with
  | nil w =>
    intro pre f post h
    have hlength := congrArg List.length h
    simp at hlength
  | @cons w w₁ w₂ entries rest root first others ih =>
    intro pre f post h
    obtain ⟨name, -, hfields, -⟩ := run_bindSampler_appends first
    obtain ⟨added, hadded⟩ := others.grows.fields
    rw [← hadded, hfields, List.append_assoc, List.append_assoc, List.append_cancel_left_eq] at h
    cases pre with
    | nil =>
      -- the field is the one that the first entry binds
      cases h
      exact ⟨[], entries, rest, w, w₁, rfl, .nil w, (List.append_nil _).symm, first, hfields,
        others.grows⟩
    | cons g pre =>
      cases h
      have hrest : w₂.fields = w₁.fields ++ pre ++ f :: post :=
        hadded.symm.trans (List.append_assoc _ _ _).symm
      obtain ⟨before, entries', after, v, v', rfl, hbefore, hv, hrun, hv', hgrows⟩ := ih hrest
      refine ⟨entries :: before, entries', after, v, v', rfl, .cons first hbefore, ?_, hrun, hv',
        hgrows⟩
      rw [hv, hfields, List.append_assoc]
      rfl

/-- **Where a field of a run comes from**: an entry that had its turn bound it, when the fields
    before it were bound and no others. -/
theorem exists_origin : ∀ {rs : List Request} {w : Workshop} {pre : List Field} {f : Field}
    {post : List Field}, (w.runs s rs).fields = w.fields ++ pre ++ f :: post →
    ∃ served r rest before entries v v', rs = served ++ r :: rest ∧ r.Reaches before entries ∧
      BindsAll s (w.runs s served) before v ∧ v.fields = w.fields ++ pre ∧
      (bindSampler s entries).run v = (.ok f.root, v') ∧ v'.fields = v.fields ++ [f] ∧
      v'.Grows (w.runs s rs)
  | [], w, pre, f, post, h => by
    have hlength := congrArg List.length h
    simp [Workshop.runs] at hlength
  | r :: rs, w, pre, f, post, h => by
    obtain ⟨all, w₁, hall, hkeeps, hreaches⟩ := exists_bindsAll s w r
    obtain ⟨bound, hbound⟩ := hall.grows.fields
    have hserve : (w.serve s r).fields = w.fields ++ bound := hkeeps.fields.trans hbound.symm
    obtain ⟨added, hadded⟩ := (grows_runs s rs (w.serve s r)).fields
    change ((w.serve s r).runs s rs).fields = _ at h
    have hsplit := h
    rw [← hadded, hserve, List.append_assoc, List.append_assoc, List.append_cancel_left_eq]
      at hsplit
    have later (mid : List Field) (hpre : pre = bound ++ mid) :
        ∃ served r' rest before entries v v', r :: rs = served ++ r' :: rest ∧
          r'.Reaches before entries ∧ BindsAll s (w.runs s served) before v ∧
          v.fields = w.fields ++ pre ∧ (bindSampler s entries).run v = (.ok f.root, v') ∧
          v'.fields = v.fields ++ [f] ∧ v'.Grows (w.runs s (r :: rs)) := by
      rw [hpre, ← List.append_assoc, ← hserve] at h ⊢
      obtain ⟨served, r', rest, before, entries, v, v', rfl, horigin⟩ := exists_origin h
      exact ⟨r :: served, r', rest, before, entries, v, v', rfl, horigin⟩
    -- the field is bound by a later request, or by the first
    rcases List.append_eq_append_iff.1 hsplit with ⟨mid, hpre, -⟩ | ⟨mid, hbound', hmid⟩
    · exact later mid hpre
    · cases mid with
      | nil => exact later [] (by simpa using hbound'.symm)
      | cons g mid =>
        cases hmid
        have hfields : w₁.fields = w.fields ++ pre ++ f :: mid := by
          rw [← hbound, hbound', List.append_assoc]
        obtain ⟨before, entries, after, v, v', hsplit', hbefore, hv, hrun, hv', hgrows⟩ :=
          hall.exists_origin hfields
        exact ⟨[], r, rs, before, entries, v, v', rfl, hreaches _ _ _ hsplit', hbefore, hv, hrun,
          hv', (hgrows.trans hkeeps.grows).trans (grows_runs s rs _)⟩

/-! ## 5. The account of a run -/

/-- What an entry makes of a field, with the fields of a workshop in scope: noise, or the tree that
    its formula is built as. -/
structure Makes (s : Setting) (v : Workshop) (entries : List (Value × Value)) (f : Field)
    (g : Graph) : Prop where
  name : ∃ name, Value.requireText entries "Name" "sampler" = .ok name ∧ f.name = name.toList
  tree : (Value.requireText entries "Type" "sampler" = .ok "Simplex" ∧
      ∃ wavelength amplitude, g.node? f.root = some (.noise wavelength amplitude)) ∨
    (Value.requireText entries "Type" "sampler" = .ok "Formula" ∧
      ∃ text d, Value.requireText entries "Formula" "sampler" = .ok text ∧
        (build (v.scope s) s.room .number text.toList).run v.draft = (.ok f.root, d) ∧
        g.table f.root = d.graph.table f.root)

/-- An entry that is bound makes its field of the fields bound before, also in graphs that grew. -/
theorem makes_of_run {f : Field} {g : Graph} (hw : w.Sound)
    (h : (bindSampler s entries).run w = (.ok f.root, w')) (hfield : w'.fields = w.fields ++ [f])
    (hgrow : w'.draft.graph.Starts g) : Makes s w entries f g := by
  obtain ⟨name, w₁, hname, -, hnode, hfields, hgraph⟩ := run_bindSampler_ok h
  obtain ⟨hkept, hadded⟩ := run_samplerNode_ok hnode
  refine ⟨⟨name, hname, ?_⟩, ?_⟩
  · rw [hkept, hfield] at hfields
    have hf := List.append_cancel_left hfields
    cases f
    cases hf
    rfl
  · rw [hgraph] at hgrow
    rcases hadded with ⟨htype, wavelength, amplitude, hroot, hdraft⟩ |
      ⟨htype, text, htext, hbuilt⟩
    · refine .inl ⟨htype, wavelength, amplitude, hgrow.node?_of_some ?_⟩
      rw [hroot, hdraft]
      exact Graph.node?_push_size _ _
    · exact .inr ⟨htype, text, w₁.draft, htext, hbuilt.run,
        hgrow.table_eq (hbuilt.whole hw.whole)⟩

/-- **What a run of requests comes to**, whatever each of them comes to. -/
structure Orderly (s : Setting) (w : Workshop) (rs : List Request) : Prop where
  /-- No two fields have one name. -/
  distinct : (w.runs s rs).names.Nodup
  /-- More requests only append fields. -/
  appended : ∀ more, ∃ added, (w.runs s (rs ++ more)).fields = (w.runs s rs).fields ++ added
  /-- The tree of a field that is there stays what it is. -/
  trees : ∀ more, ∀ f ∈ (w.runs s rs).fields,
    (w.runs s (rs ++ more)).draft.graph.table f.root = (w.runs s rs).draft.graph.table f.root
  /-- An entry that fails leaves the fields alone. -/
  bind_error : ∀ entries f w', (bindSampler s entries).run (w.runs s rs) = (.error f, w') →
    w'.fields = (w.runs s rs).fields
  /-- An entry that is bound appends its own name. -/
  bind_ok : ∀ entries root w', (bindSampler s entries).run (w.runs s rs) = (.ok root, w') →
    ∃ name, Value.requireText entries "Name" "sampler" = .ok name ∧
      w'.fields = (w.runs s rs).fields ++ [⟨name.toList, root⟩]
  /-- A list of entries that fails has bound those before the one that fails. -/
  bindAll_error : ∀ samplers f w', (bindSamplers s samplers).run (w.runs s rs) = (.error f, w') →
    ∃ before v after w₁, samplers = before.map .map ++ v :: after ∧
      BindsAll s (w.runs s rs) before w₁ ∧ w'.fields = w₁.fields ∧
      ((∀ entries, v ≠ .map entries) ∨
        ∃ entries, v = .map entries ∧ (bindSampler s entries).run w₁ = (.error f, w'))
  /-- Building a formula binds nothing. -/
  build : ∀ k text, ((compileFormula s k text).run (w.runs s rs)).2.fields = (w.runs s rs).fields
  /-- A field was made of the fields before it: neither it nor a later one was in scope. -/
  origin : ∀ pre f post, (w.runs s rs).fields = w.fields ++ pre ++ f :: post →
    ∃ served r rest before entries v, rs = served ++ r :: rest ∧ r.Reaches before entries ∧
      BindsAll s (w.runs s served) before v ∧ v.fields = w.fields ++ pre ∧
      (∀ g ∈ f :: post, (v.scope s).field? g.name = none) ∧ v.Grows (w.runs s rs) ∧
      Makes s v entries f (w.runs s rs).draft.graph

theorem runs_append (s : Setting) (w : Workshop) (rs more : List Request) :
    w.runs s (rs ++ more) = (w.runs s rs).runs s more := List.foldl_append

/-- **A run of requests is orderly**, from every workshop that is sound. -/
theorem orderly_runs (hw : w.Sound) (rs : List Request) : Orderly s w rs := by
  have hsound := (grows_runs s rs w).sound hw
  refine ⟨hsound.distinct, fun more => ?_, fun more f hf => ?_, fun entries f w' h => ?_,
    fun entries root w' h => ?_, fun samplers f w' h => ?_, fun k text => ?_,
    fun pre f post h => ?_⟩
  · rw [runs_append]
    obtain ⟨added, hadded⟩ := (grows_runs s more (w.runs s rs)).fields
    exact ⟨added, hadded.symm⟩
  · rw [runs_append]
    exact (grows_runs s more (w.runs s rs)).table_eq hsound hf
  · exact (run_bindSampler_error h).fields
  · obtain ⟨name, hname, hfields, -⟩ := run_bindSampler_appends h
    exact ⟨name, hname, hfields⟩
  · obtain ⟨before, v, after, w₁, hsplit, hbefore, hkeeps, hwrong⟩ := run_bindSamplers_error h
    exact ⟨before, v, after, w₁, hsplit, hbefore, hkeeps.fields, hwrong⟩
  · exact (keeps_compileFormula s k text _).fields
  · obtain ⟨served, r, rest, before, entries, v, v', hrs, hreaches, hbefore, hv, hrun, hv',
      hgrows⟩ := exists_origin h
    have hsoundv := ((grows_runs s served w).trans hbefore.grows).sound hw
    obtain ⟨-, -, -, hfirst⟩ := run_bindSampler_appends hrun
    refine ⟨served, r, rest, before, entries, v, hrs, hreaches, hbefore, hv, fun g hg => ?_,
      hfirst.trans hgrows, makes_of_run hsoundv hrun hv' hgrows.graph⟩
    -- the names of the fields in scope are not those of the fields that follow
    have hdistinct := hsound.distinct
    unfold Workshop.names at hdistinct
    rw [h, ← hv, List.map_append] at hdistinct
    unfold Scope.field?
    rw [Option.map_eq_none_iff, List.find?_eq_none]
    intro f' hf' hname
    exact List.disjoint_of_nodup_append hdistinct (List.mem_map_of_mem hf')
      (List.mem_map.2 ⟨g, hg, (beq_iff_eq.1 hname).symm⟩)

/-- A setting without voxel types. -/
def plainSetting : Setting := .standard fun _ => none

/-- A workshop that starts with one field, for the depth. -/
def depthWorkshop : Workshop := ⟨[⟨"low".toList, 0⟩], ⟨⟨#[.signal .depth]⟩, #[]⟩⟩

/-- The entry of a formula. -/
def formulaEntry (name formula : String) : List (Value × Value) :=
  [(.text "Name", .text name), (.text "Type", .text "Formula"), (.text "Formula", .text formula)]

/-- Requests that fail half-way: a field in its own formula, a name that is taken, an entry that is
    no map. -/
def mixedRequests : List Request :=
  [.bind (formulaEntry "loop" "Add(loop, low)"),
    .bindAll [.map (formulaEntry "wet" "Add(low, Moisture)"), .null],
    .build .number "Add(wet, dry)",
    .bind (formulaEntry "wet" "Depth"),
    .bind (formulaEntry "low wet" "Add(low, wet)")]

theorem orderly_runs_mixed : depthWorkshop.Sound ∧
    (depthWorkshop.runs plainSetting mixedRequests).names =
      ["low".toList, "wet".toList, "low wet".toList] ∧
    Orderly plainSetting depthWorkshop mixedRequests := by
  have hsound : depthWorkshop.Sound := by
    refine ⟨List.nodup_singleton _, fun f hf => ?_⟩
    obtain rfl := List.mem_singleton.1 hf
    exact .node (n := .signal .depth) rfl (List.forall_mem_nil _)
  exact ⟨hsound, by decide +kernel, orderly_runs hsound mixedRequests⟩

end Terrain.Profile
