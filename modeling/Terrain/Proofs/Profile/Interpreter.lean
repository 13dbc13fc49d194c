import Terrain.Proofs.Formula.Kinds
import Terrain.Proofs.Formula.Splitting
import Terrain.Proofs.Profile.Compiling

/-!
# Profiles read without compiling

A profile document can be read directly: a formula text has a value at a place, and no node is ever
made. A name stands for the latest declaration before the formula, read with the declarations
before that one alone.

* `interpret` is the value of a formula text, with the places noise is asked at, and how deep the
  calls are nested that are read on the way. Nothing limits the reading.
* `interpretDensity`, `interpretVoxel` are what the formulas of a document say.
* `compile_agrees`: a profile that compiles answers at every place what its document says, unless
  that is nested deeper than calls may be.
-/

namespace Terrain.Profile

open Terrain.Formula Terrain.Text

/-! ## 1. Declarations -/

/-- What a sampler is declared to be. -/
inductive Source where
  | noise
  | formula (text : Text)

/-- A declared sampler. -/
structure Declaration where
  name : Text
  source : Source

/-- The sampler that an entry declares. -/
def Declaration.read? : Value → Option Declaration
  | .map entries =>
    match Value.lookup "Name" entries, Value.lookup "Type" entries with
    | some (.text name), some (.text type) =>
      if type = "Simplex" then some ⟨name.toList, .noise⟩
      else if type = "Formula" then
        match Value.lookup "Formula" entries with
        | some (.text f) => some ⟨name.toList, .formula f.toList⟩
        | _ => none
      else none
    | _, _ => none
  | _ => none

/-- What a name is declared to be, and the declarations before; the latest comes first. -/
def declared? (name : Text) : List Declaration → Option (Source × List Declaration)
  | [] => none
  | d :: before => if d.name = name then some (d.source, before) else declared? name before

theorem length_lt_of_declared? {name : Text} {source : Source} {before : List Declaration} :
    ∀ {ds : List Declaration}, declared? name ds = some (source, before) →
      before.length < ds.length
  | [], h => by cases h
  | d :: ds, h => by
    unfold declared? at h
    split at h
    · cases h
      exact Nat.lt_succ_self _
    · exact Nat.lt_succ_of_lt (length_lt_of_declared? h)

/-! ## 2. The value of a formula -/

/-- The number a text writes, if a number is asked for. -/
def literal? (k : Kind) (t : Text) : Option Float :=
  match k with
  | .number => (Number.Decimal.read? t).map Number.Decimal.toFloat
  | _ => none

/-- What a text is declared to be, if a number is asked for. -/
def sampler? (k : Kind) (ds : List Declaration) (t : Text) : Option (Source × List Declaration) :=
  match k with
  | .number => declared? t ds
  | _ => none

/-- The value of a signal or a shape by its name. A signal takes calls to be read. -/
def named? (s : Calls) (c : Context) (k : Kind) (t : Text) : Option (Course Result) :=
  match k with
  | .number => (Signal.named? t).map fun f => .under s.reading (return .number (f.read c))
  | .shape => (Shape.named? t).map fun f => return .shape f
  | _ => none

/-- The noise at a place. It takes calls to be asked. -/
def noiseAt (s : Calls) (noise : Noise) (c : Context) : Course Result :=
  .under s.asking (return .number (← .ask noise c.position))

theorem length_lt_of_sampler? {k : Kind} {ds before : List Declaration} {t : Text}
    {source : Source} (h : sampler? k ds t = some (source, before)) :
    before.length < ds.length := by
  cases k with
  | number => exact length_lt_of_declared? h
  | _ => cases h

/-- An argument of a call is shorter than the text of the call. -/
theorem length_lt_of_argument {text a : Text} {parts : Parts}
    (h : takeApart (strip text) = .ok parts) (ha : a ∈ parts.arguments) :
    a.length < text.length :=
  Nat.lt_of_lt_of_le (length_lt_of_takeApart h ha) (length_strip_le text)

/-- **The value of a formula text at a place.** A text is a literal, else a sampler declared before,
    else a name, else a call; of a choice only the selected branch is read. All but a declared
    formula is one call, with what is read inside. -/
def interpret (voxelId : Text → Option Nat) (s : Calls) (noise : Noise) (c : Context)
    (ds : List Declaration) (k : Kind) (text : Text) : Course Result :=
  match literal? k (strip text) with
  | some x => .under 1 (return .number x)
  | none =>
    match _hs : sampler? k ds (strip text) with
    | some (.noise, _) => .under 1 (noiseAt s noise c)
    | some (.formula f, before) => interpret voxelId s noise c before .number f
    | none =>
      match named? s c k (strip text) with
      | some r => .under 1 r
      | none =>
        match _ht : takeApart (strip text) with
        | .error _ => .halt .stuck
        | .ok parts =>
          match k.call? parts.name, _ha : parts.arguments with
          | some .add, [l, r] => .under 1 do
            let x ← interpret voxelId s noise c ds .number l
            let y ← interpret voxelId s noise c ds .number r
            return .number ((← x.number?) + (← y.number?))
          | some .subtract, [l, r] => .under 1 do
            let x ← interpret voxelId s noise c ds .number l
            let y ← interpret voxelId s noise c ds .number r
            return .number ((← x.number?) - (← y.number?))
          | some .less, [l, r] => .under 1 do
            let x ← interpret voxelId s noise c ds .number l
            let y ← interpret voxelId s noise c ds .number r
            return .boolean ((← x.number?) < (← y.number?))
          | some .choose, [p, t, e] => .under 1 do
            if ← (← interpret voxelId s noise c ds .boolean p).boolean? then
              interpret voxelId s noise c ds k t
            else interpret voxelId s noise c ds k e
          | some .voxel, [w] =>
            match voxelId w with
            | some id => .under 1 (return .voxel id)
            | none => .halt .stuck
          | _, _ => .halt .stuck
termination_by (ds.length, text.length)
decreasing_by
  · exact Prod.Lex.left _ _ (length_lt_of_sampler? _hs)
  all_goals exact Prod.Lex.right _ (length_lt_of_argument _ht (by rw [_ha]; simp))

/-! ## 3. Reading case by case -/

section Reading

variable {voxelId : Text → Option Nat} {s : Calls} {noise : Noise} {c : Context}
variable {ds before : List Declaration} {k : Kind} {text : Text} {source : Source} {call : Call}
variable {args : List Text}

/-- The value of a declared sampler, read with the declarations before it. -/
def Source.answer (voxelId : Text → Option Nat) (s : Calls) (noise : Noise) (c : Context)
    (before : List Declaration) : Source → Course Result
  | .noise => .under 1 (noiseAt s noise c)
  | .formula f => interpret voxelId s noise c before .number f

/-- The value of two numbers put together by a call. -/
def operation : Call → Float → Float → Result
  | .subtract, x, y => .number (x - y)
  | .less, x, y => .boolean (x < y)
  | _, x, y => .number (x + y)

/-- A text is no literal, no declared sampler and no name. -/
structure Unnamed (s : Calls) (c : Context) (ds : List Declaration) (k : Kind) (t : Text) :
    Prop where
  literal : literal? k t = none
  sampler : sampler? k ds t = none
  name : named? s c k t = none

theorem interpret_literal {x : Float} (h : literal? k (strip text) = some x) :
    interpret voxelId s noise c ds k text = .under 1 (return .number x) := by
  rw [interpret, h]

theorem interpret_sampler (hl : literal? k (strip text) = none)
    (hs : sampler? k ds (strip text) = some (source, before)) :
    interpret voxelId s noise c ds k text = source.answer voxelId s noise c before := by
  rw [interpret, hl]
  dsimp only
  split
  · rename_i heq
    rw [hs] at heq
    cases heq
    rfl
  · rename_i heq
    rw [hs] at heq
    cases heq
    rfl
  · rename_i heq
    rw [hs] at heq
    cases heq

theorem interpret_named {r : Course Result} (hl : literal? k (strip text) = none)
    (hs : sampler? k ds (strip text) = none) (hn : named? s c k (strip text) = some r) :
    interpret voxelId s noise c ds k text = .under 1 r := by
  rw [interpret, hl]
  dsimp only
  split
  · rename_i heq
    rw [hs] at heq
    cases heq
  · rename_i heq
    rw [hs] at heq
    cases heq
  · rw [hn]

/-- A text that is nothing else is read as a call. -/
theorem interpret_call (h : Unnamed s c ds k (strip text))
    (hparts : takeApart (strip text) = .ok ⟨call.name.toList, args⟩) (hmem : call ∈ k.calls) :
    interpret voxelId s noise c ds k text =
      match call, args with
      | .choose, [p, t, e] =>
        .under 1 (select (interpret voxelId s noise c ds .boolean p)
          (interpret voxelId s noise c ds k t) (interpret voxelId s noise c ds k e))
      | .voxel, [w] =>
        match voxelId w with
        | some id => .under 1 (return .voxel id)
        | none => .halt .stuck
      | .choose, _ => .halt .stuck
      | .voxel, _ => .halt .stuck
      | call, [l, r] =>
        .under 1 (join (operation call) (interpret voxelId s noise c ds .number l)
          (interpret voxelId s noise c ds .number r))
      | _, _ => .halt .stuck := by
  have hcall : k.call? call.name.toList = some call := Kind.call?_eq_some_iff.2 ⟨hmem, rfl⟩
  rw [interpret, h.literal]
  dsimp only
  split
  · rename_i heq
    rw [h.sampler] at heq
    cases heq
  · rename_i heq
    rw [h.sampler] at heq
    cases heq
  rw [h.name]
  dsimp only
  split
  · rename_i heq
    rw [hparts] at heq
    cases heq
  · rename_i parts heq
    rw [hparts] at heq
    cases heq
    rw [hcall]
    rcases args with _ | ⟨a, _ | ⟨b, _ | ⟨e, _ | ⟨f, rest⟩⟩⟩⟩ <;> cases call <;> rfl

end Reading

/-! ## 4. Nodes and readings that agree -/

section Agreement

variable {g h : Graph} {i : Nat} {k : Kind} {m : Calls → Noise → Context → Course Result}

/-- A node is there with all below it, and runs at every place the course that a reading gives
    there. -/
structure Answers (g : Graph) (i : Nat) (k : Kind) (m : Calls → Noise → Context → Course Result) :
    Prop where
  whole : g.Whole i
  runs : ∀ s noise c, g.Runs s noise c i k (m s noise c)

/-- The same answers come of a reading that gives the same. -/
theorem Answers.congr {m' : Calls → Noise → Context → Course Result} (ha : Answers g i k m)
    (hm : ∀ s noise c, m' s noise c = m s noise c) : Answers g i k m' where
  whole := ha.whole
  runs s noise c := by
    rw [hm]
    exact ha.runs s noise c

theorem Answers.grow (hgh : g.Starts h) (ha : Answers g i k m) : Answers h i k m where
  whole := ha.whole.grow hgh
  runs s noise c := (ha.runs s noise c).grow hgh ha.whole

/-- A node that is made without children. -/
theorem Answers.leaf {n : Node} {r : Calls → Noise → Context → Course Result}
    (hchildren : n.children = []) (hgives : n.Gives k)
    (hr : ∀ s noise c, n.leaf? s noise c = some (r s noise c))
    (hm : ∀ s noise c, m s noise c = (r s noise c).under 1) :
    Answers (g.push n) g.size k m where
  whole := .node (Graph.node?_push_size g n) (by rw [hchildren]; exact List.forall_mem_nil _)
  runs s noise c := by
    rw [hm]
    exact .leaf (Graph.node?_push_size g n) (hr s noise c)
      (Node.yields_of_leaf (hr s noise c) hgives)

theorem joins_of_pairNode? {call : Call} {node : Nat → Nat → Node}
    (hnode : call.pairNode? = some node) (l r : Nat) :
    (node l r).Joins l r (operation call) ∧ (node l r).children = [l, r] := by
  cases call <;> cases hnode
  · exact ⟨.add l r, rfl⟩
  · exact ⟨.subtract l r, rfl⟩
  · exact ⟨.less l r, rfl⟩

/-- A node of two numbers answers what is read from them. -/
theorem Answers.pair {call : Call} {node : Nat → Nat → Node} {l r : Nat}
    {ml mr : Calls → Noise → Context → Course Result} (hnode : call.pairNode? = some node)
    (hl : Answers g l .number ml) (hr : Answers g r .number mr)
    (hk : ∀ x y, (operation call x y).kind = k)
    (hm : ∀ s noise c,
      m s noise c = .under 1 (join (operation call) (ml s noise c) (mr s noise c))) :
    Answers (g.push (node l r)) g.size k m := by
  obtain ⟨hjoins, hchildren⟩ := joins_of_pairNode? hnode l r
  have hl := hl.grow (.push g (node l r))
  have hr := hr.grow (.push g (node l r))
  refine ⟨.node (Graph.node?_push_size g _) fun j hj => ?_, fun s noise c => ?_⟩
  · rw [hchildren] at hj
    rcases List.mem_pair.1 hj with rfl | rfl
    · exact hl.whole
    · exact hr.whole
  · rw [hm]
    exact .pair (Graph.node?_push_size g _) hjoins hk (hl.runs s noise c) (hr.runs s noise c)

/-- A choice answers what is read from its condition and from the branch that is selected. -/
theorem Answers.choose {p t e : Nat} {mp mt me : Calls → Noise → Context → Course Result}
    (hp : Answers g p .boolean mp) (ht : Answers g t k mt) (he : Answers g e k me)
    (hm : ∀ s noise c,
      m s noise c = .under 1 (select (mp s noise c) (mt s noise c) (me s noise c))) :
    Answers (g.push (.choose p t e)) g.size k m := by
  have hp := hp.grow (.push g (.choose p t e))
  have ht := ht.grow (.push g (.choose p t e))
  have he := he.grow (.push g (.choose p t e))
  refine ⟨.node (Graph.node?_push_size g _) fun j hj => ?_, fun s noise c => ?_⟩
  · simp only [Node.children, List.mem_cons, List.not_mem_nil, or_false] at hj
    rcases hj with rfl | rfl | rfl
    · exact hp.whole
    · exact ht.whole
    · exact he.whole
  · rw [hm]
    exact .choose (Graph.node?_push_size g _) (hp.runs s noise c) (ht.runs s noise c)
      (he.runs s noise c)

/-- The fields of a scope and the declarations agree: every field answers what its declaration is
    read as, and no other name is declared. -/
structure Agrees (sc : Scope) (g : Graph) (ds : List Declaration) : Prop where
  bound : ∀ name root, sc.field? name = some root → ∃ source before,
    declared? name ds = some (source, before) ∧
      Answers g root .number fun s noise c => source.answer sc.voxelId s noise c before
  free : ∀ name, sc.field? name = none → declared? name ds = none

theorem Agrees.grow {sc : Scope} {ds : List Declaration} (hgh : g.Starts h)
    (ha : Agrees sc g ds) : Agrees sc h ds where
  bound name root hf := by
    obtain ⟨source, before, hd, hans⟩ := ha.bound name root hf
    exact ⟨source, before, hd, hans.grow hgh⟩
  free := ha.free

end Agreement

/-! ## 5. Formulas -/

section Formulas

variable {sc : Scope} {ds : List Declaration} {g : Graph} {k : Kind} {t text : Text}

theorem literal?_of_unread (h : Unread sc k t) : literal? k t = none := by
  cases k with
  | number => rw [literal?, (h rfl).1]; rfl
  | _ => rfl

theorem sampler?_of_unread (ha : Agrees sc g ds) (h : Unread sc k t) : sampler? k ds t = none := by
  cases k with
  | number => exact ha.free t (h rfl).2
  | _ => rfl

/-- No signal and no shape has a parenthesis in its name. -/
theorem named?_of_open {s : Calls} {c : Context} (h : '(' ∈ t) : named? s c k t = none := by
  cases k with
  | number => rw [named?, signal_named?_of_open h]; rfl
  | shape => rw [named?, shape_named?_of_open h]; rfl
  | _ => rfl

/-- What is built as a call is read as a call. -/
theorem unnamed_of_isCall {s : Calls} {c : Context} {call : Call} {args : List Text}
    (ha : Agrees sc g ds) (h : IsCall sc k text call args) : Unnamed s c ds k (strip text) := by
  obtain ⟨ho, hu⟩ := classify_eq_call_iff.1 h.form
  exact ⟨literal?_of_unread hu, sampler?_of_unread ha hu, named?_of_open ho⟩

/-- The calls of two numbers that a formula of a kind may be give results of that kind. -/
theorem operation_kind {call : Call} {node : Nat → Nat → Node} (hnode : call.pairNode? = some node)
    (hmem : call ∈ k.calls) (x y : Float) : (operation call x y).kind = k := by
  cases call <;> cases hnode
  all_goals
    cases k <;> first | rfl | exact absurd hmem (by decide)

/-- **A formula that is built answers what its text is read as.** -/
theorem answers_of_built {room : Nat} {d d' : Draft} {root : Nat}
    (hb : Built sc room k text d root d') (ha : Agrees sc d.graph ds) :
    Answers d'.graph root k fun s noise c => interpret sc.voxelId s noise c ds k text := by
  induction hb with
  | leaf hne hform =>
    rcases classify_eq_leaf hform with ⟨d, rfl, hd, rfl⟩ | ⟨sig, rfl, hu, hsig, rfl⟩ |
      ⟨shape, rfl, hshape, rfl⟩
    · exact .leaf rfl rfl (fun _ _ _ => rfl) fun s noise c =>
        interpret_literal (by rw [literal?, hd]; rfl)
    · exact .leaf rfl rfl (fun _ _ _ => rfl) fun s noise c =>
        interpret_named (literal?_of_unread hu) (sampler?_of_unread ha hu)
          (by rw [named?, hsig]; rfl)
    · exact .leaf rfl rfl (fun _ _ _ => rfl) fun s noise c =>
        interpret_named rfl rfl (by rw [named?, hshape]; rfl)
  | bound hne hform =>
    obtain ⟨rfl, hd, hf⟩ := classify_eq_bound hform
    obtain ⟨source, before, hdecl, hans⟩ := ha.bound _ _ hf
    exact hans.congr fun s noise c => interpret_sampler (by rw [literal?, hd]; rfl) hdecl
  | pair hcall hnode hl hr ihl ihr =>
    refine .pair hnode ((ihl ha).grow hr.starts) (ihr (ha.grow hl.starts))
      (operation_kind hnode hcall.allowed) fun s noise c => ?_
    rw [interpret_call (unnamed_of_isCall ha hcall) hcall.parts hcall.allowed]
    rename_i call _ _ _
    cases call <;> cases hnode <;> rfl
  | choose hcall hp ht he ihp iht ihe =>
    have hat := ha.grow hp.starts
    have hae := hat.grow ht.starts
    refine .choose ((ihp ha).grow (ht.starts.trans he.starts)) ((iht hat).grow he.starts)
      (ihe hae) fun s noise c => ?_
    rw [interpret_call (unnamed_of_isCall ha hcall) hcall.parts hcall.allowed]
  | voxel hcall hid =>
    refine .leaf rfl (eq_voxel_of_mem_calls hcall.allowed) (fun _ _ _ => rfl) fun s noise c => ?_
    rw [interpret_call (unnamed_of_isCall ha hcall) hcall.parts hcall.allowed]
    dsimp only
    rw [hid]

end Formulas

/-! ## 6. Declarations -/

section Declarations

variable {s : Setting} {w w' : Workshop} {ds : List Declaration}

theorem field?_append (voxelId : Text → Option Nat) (fields : List Field) (f : Field)
    (name : Text) : Scope.field? ⟨voxelId, fields ++ [f]⟩ name =
      (Scope.field? ⟨voxelId, fields⟩ name).or (if f.name = name then some f.root else none) := by
  unfold Scope.field?
  rw [List.find?_append]
  cases fields.find? (·.name == name) with
  | some g => rfl
  | none => by_cases h : f.name = name <;> simp [h]

/-- A name that is not bound is not found. -/
theorem field?_of_not_binds {name : String} (h : w.binds name = false) :
    (w.scope s).field? name.toList = none := by
  unfold Scope.field?
  rw [Option.map_eq_none_iff, List.find?_eq_none]
  intro f hf he
  have : w.binds name = true := List.any_eq_true.2 ⟨f, hf, he⟩
  rw [h] at this
  cases this

/-- Nothing is bound, and nothing is declared. -/
theorem agrees_empty (s : Setting) : Agrees (Workshop.empty.scope s) .empty [] where
  bound := nofun
  free _ _ := rfl

/-- **A declaration that is bound agrees with what is read.** -/
theorem agrees_bindSampler {entries : List (Value × Value)} {root : Nat}
    (h : (bindSampler s entries).run w = (.ok root, w'))
    (ha : Agrees (w.scope s) w.draft.graph ds) :
    ∃ d, Declaration.read? (.map entries) = some d ∧
      Agrees (w'.scope s) w'.draft.graph (d :: ds) := by
  obtain ⟨name, w₁, hname, hfree, hnode, hfields, hgraph⟩ := run_bindSampler_ok h
  obtain ⟨hkept, hadded⟩ := run_samplerNode_ok hnode
  have hlname := requireText_eq_ok_iff.1 hname
  -- what the declaration is read as, how the graph grew, and what the new node answers
  have hread : ∃ source, Declaration.read? (.map entries) = some ⟨name.toList, source⟩ ∧
      w.draft.graph.Starts w₁.draft.graph ∧
      Answers w₁.draft.graph root .number
        fun calls noise c => source.answer s.voxelId calls noise c ds := by
    rcases hadded with ⟨htype, wavelength, amplitude, rfl, hdraft⟩ | ⟨htype, text, htext, hbuilt⟩
    · refine ⟨.noise, ?_, ?_, ?_⟩
      · simp [Declaration.read?, hlname, requireText_eq_ok_iff.1 htype]
      · rw [hdraft]
        exact .push _ _
      · rw [hdraft]
        exact .leaf rfl rfl (fun _ _ _ => rfl) fun _ _ _ => rfl
    · refine ⟨.formula text.toList, ?_, hbuilt.starts, answers_of_built hbuilt ha⟩
      simp [Declaration.read?, hlname, requireText_eq_ok_iff.1 htype, requireText_eq_ok_iff.1 htext]
  obtain ⟨source, hread, hgrow, hans⟩ := hread
  have hscope (n : Text) : (w'.scope s).field? n =
      ((w.scope s).field? n).or (if name.toList = n then some root else none) := by
    unfold Workshop.scope
    rw [hfields, hkept, field?_append]
  refine ⟨⟨name.toList, source⟩, hread, ⟨fun n i hn => ?_, fun n hn => ?_⟩⟩
  · rw [hgraph]
    rw [hscope] at hn
    by_cases he : name.toList = n
    · subst he
      rw [field?_of_not_binds hfree, if_pos rfl] at hn
      cases hn
      exact ⟨source, ds, by simp [declared?], hans⟩
    · rw [if_neg he, Option.or_none] at hn
      obtain ⟨source', before, hd, hans'⟩ := ha.bound n i hn
      exact ⟨source', before, by simpa [declared?, he] using hd, hans'.grow hgrow⟩
  · rw [hscope, Option.or_eq_none_iff] at hn
    have he : name.toList ≠ n := by
      intro he
      rw [if_pos he] at hn
      cases hn.2
    simpa [declared?, he] using ha.free n hn.1

/-- Declarations that are bound one after the other agree with what is read, the latest first. -/
theorem agrees_bindSamplers {u : Unit} : ∀ {samplers : List Value} {w : Workshop}
    {ds : List Declaration}, (bindSamplers s samplers).run w = (.ok u, w') →
    Agrees (w.scope s) w.draft.graph ds →
    ∃ ds', samplers.mapM Declaration.read? = some ds' ∧
      Agrees (w'.scope s) w'.draft.graph (ds'.reverse ++ ds)
  | [], w, ds, h, ha => by
    cases h
    exact ⟨[], rfl, ha⟩
  | v :: rest, w, ds, h, ha => by
    obtain ⟨entries, root, w₁, rfl, h₁, h₂⟩ := run_bindSamplers_cons_ok h
    obtain ⟨d, hd, ha₁⟩ := agrees_bindSampler h₁ ha
    obtain ⟨ds', hds, ha'⟩ := agrees_bindSamplers h₂ ha₁
    refine ⟨d :: ds', ?_, ?_⟩
    · rw [List.mapM_cons, hd, hds]
      rfl
    · rw [List.reverse_cons, List.append_assoc]
      exact ha'

end Declarations

/-! ## 7. Documents -/

/-- The value of the formula under a key of a document. -/
def interpretDocument (voxelId : Text → Option Nat) (s : Calls) (noise : Noise) (c : Context)
    (document : Value) (k : Kind) (key : String) : Course Result :=
  match document with
  | .map entries =>
    match Value.lookup samplersKey entries, Value.lookup key entries with
    | some (.list samplers), some (.text text) =>
      match samplers.mapM Declaration.read? with
      | some ds => interpret voxelId s noise c ds.reverse k text.toList
      | none => .halt .stuck
    | _, _ => .halt .stuck
  | _ => .halt .stuck

/-- The density that a document says a place has. -/
def interpretDensity (voxelId : Text → Option Nat) (s : Calls) (noise : Noise) (c : Context)
    (document : Value) : Course Float := do
  (← interpretDocument voxelId s noise c document .number densityKey).number?

/-- The voxel that a document says a place has. -/
def interpretVoxel (voxelId : Text → Option Nat) (s : Calls) (noise : Noise) (c : Context)
    (document : Value) : Course Voxel := do
  let id ← (← interpretDocument voxelId s noise c document .voxel typeKey).voxel?
  let shape ← (← interpretDocument voxelId s noise c document .shape shapeKey).shape?
  return ⟨id, shape, 0⟩

/-- A formula under a key answers what the document is read as, and no field is bound by it. -/
theorem answers_of_compileKey {s : Setting} {w w' : Workshop} {entries : List (Value × Value)}
    {samplers : List Value} {ds : List Declaration} {k : Kind} {key : String} {root : Nat}
    (h : (compileKey s k entries key).run w = (.ok root, w'))
    (hlist : Value.lookup samplersKey entries = some (.list samplers))
    (hds : samplers.mapM Declaration.read? = some ds)
    (ha : Agrees (w.scope s) w.draft.graph ds.reverse) :
    Answers w'.draft.graph root k (fun calls noise c =>
        interpretDocument s.voxelId calls noise c (.map entries) k key) ∧
      Agrees (w'.scope s) w'.draft.graph ds.reverse ∧
      w.draft.graph.Starts w'.draft.graph := by
  obtain ⟨text, htext, hbuilt, hfields⟩ := run_compileKey_ok h
  refine ⟨?_, ?_, hbuilt.starts⟩
  · refine (answers_of_built hbuilt ha).congr fun calls noise c => ?_
    unfold interpretDocument
    dsimp only
    rw [hlist, requireText_eq_ok_iff.1 htext]
    dsimp only
    rw [hds]
    rfl
  · have hscope : w'.scope s = w.scope s := by
      unfold Workshop.scope
      rw [hfields]
    rw [hscope]
    exact ha.grow hbuilt.starts

/-- **The three formulas of a profile that compiles** answer what the document is read as. -/
theorem answers_of_compile {s : Setting} {name : String} {document : Value} {p : Profile}
    {log : List Log.Record} (h : compile s name document = (.ok p, log)) :
    let said (k : Kind) (key : String) : Calls → Noise → Context → Course Result :=
      fun calls noise c => interpretDocument s.voxelId calls noise c document k key
    Answers p.graph p.density .number (said .number densityKey) ∧
      Answers p.graph p.voxelId .voxel (said .voxel typeKey) ∧
      Answers p.graph p.shape .shape (said .shape shapeKey) := by
  obtain ⟨entries, w, rfl, hrun⟩ := compile_ok h
  obtain ⟨samplers, w₁, w₂, w₃, u, hlist, hsamplers, hdensity, hvoxel, hshape, hp⟩ :=
    run_compileEntries_ok hrun
  obtain ⟨ds, hds, ha⟩ := agrees_bindSamplers hsamplers (agrees_empty s)
  rw [List.append_nil] at ha
  have hlist := requireList_eq_ok_iff.1 hlist
  obtain ⟨hansD, ha₂, -⟩ := answers_of_compileKey hdensity hlist hds ha
  obtain ⟨hansV, ha₃, hgrowV⟩ := answers_of_compileKey hvoxel hlist hds ha₂
  obtain ⟨hansS, -, hgrowS⟩ := answers_of_compileKey hshape hlist hds ha₃
  -- all three formulas answer in the graph of the profile, which is the last one
  have hgraph : p.graph = w.draft.graph := by rw [hp]
  rw [hgraph]
  exact ⟨hansD.grow (hgrowV.trans hgrowS), hansV.grow hgrowS, hansS⟩

section Sampling

variable {p : Profile} {mD mV mS : Calls → Noise → Context → Course Result}

/-- The density of a profile follows what its formula is read as. -/
theorem sampleDensity_follows (hD : Answers p.graph p.density .number mD) (stack : Stack)
    (noise : Noise) (c : Context) :
    (p.sampleDensity stack noise c).Follows stack.levels
        (do (← mD stack.toCalls noise c).number?) ∧
      (do (← mD stack.toCalls noise c).number? : Course Float).Yields noise c fun _ => True := by
  have hruns := hD.runs stack.toCalls noise c
  refine ⟨(hruns.follows _).bind fun r => Answer.follows_lift _ _, hruns.yields.bind fun r hr => ?_⟩
  cases r <;> cases hr
  exact .lift rfl trivial

/-- The voxel of a profile follows what its two formulas are read as, the type first. -/
theorem sampleVoxel_follows (hV : Answers p.graph p.voxelId .voxel mV)
    (hS : Answers p.graph p.shape .shape mS) (stack : Stack) (noise : Noise) (c : Context) :
    let said : Course Voxel := do
      let id ← (← mV stack.toCalls noise c).voxel?
      let shape ← (← mS stack.toCalls noise c).shape?
      return ⟨id, shape, 0⟩
    (p.sampleVoxel stack noise c).Follows stack.levels said ∧ said.Yields noise c (·.state = 0) := by
  have hrunsV := hV.runs stack.toCalls noise c
  have hrunsS := hS.runs stack.toCalls noise c
  refine ⟨?_, ?_⟩
  · exact (hrunsV.follows _).bind fun r => (Answer.follows_lift _ _).bind fun id =>
      (hrunsS.follows _).bind fun r' => (Answer.follows_lift _ _).bind fun shape =>
        Answer.follows_pure _ _
  · refine hrunsV.yields.bind fun r hr => ?_
    cases r <;> cases hr
    refine .bind (P := fun _ => True) (.lift rfl trivial) fun id _ => ?_
    refine hrunsS.yields.bind fun r' hr' => ?_
    cases r' <;> cases hr'
    exact .bind (P := fun _ => True) (.lift rfl trivial) fun shape _ => .pure rfl

end Sampling

/-- **A profile that compiles answers at every place what its document says**, if that is nested no
    deeper than calls may be: the density and the voxel, and the places that noise is asked at on
    the way, in order. What is nested deeper is too deep. A document always says something, unless
    noise is refused at the place; the state is the one that all voxels are in. -/
theorem compile_agrees {s : Setting} {name : String} {document : Value} {p : Profile}
    {log : List Log.Record} (h : compile s name document = (.ok p, log)) (stack : Stack)
    (noise : Noise) (c : Context) :
    (p.sampleDensity stack noise c).Follows stack.levels
        (interpretDensity s.voxelId stack.toCalls noise c document) ∧
      (interpretDensity s.voxelId stack.toCalls noise c document).Yields noise c (fun _ => True) ∧
      (p.sampleVoxel stack noise c).Follows stack.levels
        (interpretVoxel s.voxelId stack.toCalls noise c document) ∧
      (interpretVoxel s.voxelId stack.toCalls noise c document).Yields noise c (·.state = 0) := by
  obtain ⟨hD, hV, hS⟩ := answers_of_compile h
  obtain ⟨hfollowsD, hyieldsD⟩ := sampleDensity_follows hD stack noise c
  obtain ⟨hfollowsV, hyieldsV⟩ := sampleVoxel_follows hV hS stack noise c
  exact ⟨hfollowsD, hyieldsD, hfollowsV, hyieldsV⟩

/-- **The answers of a profile that compiles settle**, at every place and with every noise. -/
theorem settles_of_compile {s : Setting} {name : String} {document : Value} {p : Profile}
    {log : List Log.Record} (h : compile s name document = (.ok p, log)) (calls : Calls)
    (noise : Noise) (c : Context) :
    Settles noise c (fun room => p.sampleDensity ⟨calls, room⟩ noise c) (fun _ => True) ∧
      Settles noise c (fun room => p.sampleVoxel ⟨calls, room⟩ noise c) (·.state = 0) := by
  obtain ⟨hD, hV, hS⟩ := answers_of_compile h
  exact ⟨⟨_, fun room => (sampleDensity_follows hD ⟨calls, room⟩ noise c).1,
      (sampleDensity_follows hD ⟨calls, 0⟩ noise c).2⟩,
    ⟨_, fun room => (sampleVoxel_follows hV hS ⟨calls, room⟩ noise c).1,
      (sampleVoxel_follows hV hS ⟨calls, 0⟩ noise c).2⟩⟩

/-- Voxel types with one name. -/
def stoneSetting : Setting := .standard fun t => if t = "stone".toList then some 7 else none

/-- A document with a field of noise that another field uses twice. -/
def layered : Value :=
  .map [(.text samplersKey, .list [
      .map [(.text "Name", .text "hills"), (.text "Type", .text "Simplex"),
        (.text "Wavelength", .float 32.0), (.text "Amplitude", .float 4.0)],
      .map [(.text "Name", .text "ground"), (.text "Type", .text "Formula"),
        (.text "Formula", .text "Add(hills, hills)")]]),
    (.text densityKey, .text "If(Less(Depth, ground), Subtract(ground, 1), hills)"),
    (.text typeKey, .text "Voxel( stone )"),
    (.text shapeKey, .text "If(Less(ground, Density), SLAB, CUBE)")]

theorem compile_agrees_layered : ∃ p log, compile stoneSetting "layered" layered = (.ok p, log) ∧
    ∀ stack noise c, (p.sampleDensity stack noise c).Follows stack.levels
        (interpretDensity stoneSetting.voxelId stack.toCalls noise c layered) ∧
      (interpretDensity stoneSetting.voxelId stack.toCalls noise c layered).Yields noise c
        (fun _ => True) ∧
      (p.sampleVoxel stack noise c).Follows stack.levels
        (interpretVoxel stoneSetting.voxelId stack.toCalls noise c layered) ∧
      (interpretVoxel stoneSetting.voxelId stack.toCalls noise c layered).Yields noise c
        (·.state = 0) := by
  have hok : (compile stoneSetting "layered" layered).1.toOption.isSome = true := by
    decide +kernel
  obtain ⟨p, log, h⟩ := Attempt.exists_run_of_isSome hok
  exact ⟨p, log, h, fun stack noise c => compile_agrees h stack noise c⟩

end Terrain.Profile
