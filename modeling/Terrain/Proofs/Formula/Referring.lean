import Terrain.Proofs.Formula.Blaming
import Terrain.Proofs.Formula.Sharing
import Terrain.Proofs.Number.Spelling

/-!
# Names that can be referred to

A field may have any text for its name. A formula refers to it by writing the name, with blanks
around it, where a number is to stand. For this the name must not be empty, have no outer blanks and
be no literal; within a call it must be one argument as well.

* `run_build_name`: a name that can be referred to is built as the field.
* `Mentions`, `exists_run_build_of_mentions`: a call with the name for an argument is a node over
  the field.
* `build_congr`: a building depends on what is bound under names that can be referred to.
* `field_referable`: which names can be referred to, and that a field with another name is dead.
-/

namespace Terrain.Formula

open Terrain.Text Terrain.Number Terrain.Attempt

variable {s s' : Scope} {name t text : Text} {root room i : Nat} {k : Kind} {call : Call}
  {args : List Text} {d : Draft}

/-! ## 1. Names by themselves -/

/-- A name that can be referred to: it is not empty, has no outer blanks, and is no literal. -/
structure Referable (name : Text) : Prop where
  ne_nil : name ≠ []
  trimmed : Trimmed name
  not_literal : ¬ Literal name

/-- **A name that can be referred to is built as the field**, whatever else it may look like. -/
theorem run_build_name (hname : Referable name) (hbound : s.field? name = some root)
    (htext : Padded name text) :
    (build s (room + 1) .number text).run d = (.ok root, d.visited .number name) := by
  have hstrip : strip text = name := strip_eq_iff.2 ⟨htext, hname.trimmed⟩
  have hne : strip text ≠ [] := hstrip ▸ hname.ne_nil
  rw [run_build hne, hstrip, classify_field (read?_eq_none_iff.2 hname.not_literal) hbound]
  rfl

/-! ## 2. Names in calls -/

/-- A text is a call of a kind that is not the name of a field. A name stands for one of its
    arguments, where a number is asked, and the others are formulas of the kinds that are asked. -/
structure Mentions (s : Scope) (room : Nat) (k : Kind) (call : Call) (args : List Text) (i : Nat)
    (name text : Text) : Prop where
  allowed : call ∈ k.calls
  called : Called call args text
  unbound : k = .number → s.field? (strip text) = none
  arity : args.length = call.arity
  named : ∃ a, (call.asked k args)[i]? = some ⟨.number, a⟩ ∧ Padded name a
  others : ∀ j p, j ≠ i → (call.asked k args)[j]? = some p →
    Argument p.text ∧ ∃ root d, Gives (build s room p.kind p.text) root d

/-- What is made of a call has its name, and a child for each argument. -/
theorem Call.node_of_plan {n : Node} {parts : List Part} (hvoxel : call ≠ .voxel)
    (h : call.plan s k args = .node n parts) :
    n.label = call.name ∧ n.children = List.range call.arity := by
  unfold Call.plan at h
  split at h
  case h_5 => exact absurd rfl hvoxel
  case h_6 => cases h
  all_goals
    cases h
    exact ⟨rfl, rfl⟩

theorem Node.label_rename (f : Nat → Nat) (n : Node) : (n.rename f).label = n.label := by
  cases n <;> rfl

/-- An argument is asked as the formula that it is without its outer blanks. -/
theorem Call.asked_map_strip : call.asked k (args.map strip) =
    (call.asked k args).map fun p => ⟨p.kind, strip p.text⟩ := by
  unfold Call.asked
  rw [List.zipWith_map_right, List.map_zipWith]

/-- All arguments of a call are asked as formulas, unless it names a voxel type. -/
theorem Call.map_text_asked (hvoxel : call ≠ .voxel) (harity : args.length = call.arity) :
    (call.asked k args).map (·.text) = args := by
  cases call with
  | add | subtract | less =>
    obtain ⟨l, r, rfl⟩ := List.length_eq_two.1 harity
    rfl
  | choose =>
    obtain ⟨p, a, b, rfl⟩ := List.length_eq_three.1 harity
    rfl
  | voxel => exact absurd rfl hvoxel

theorem plan_of_isCall (h : IsCall s k text call args) :
    plan s k (strip text) = call.plan s k args := by
  unfold plan
  rw [if_neg h.ne_nil, h.form]
  dsimp only
  rw [h.parts]
  dsimp only
  rw [Kind.call?_eq_some_iff.2 ⟨h.allowed, rfl⟩]

/-- **A call whose arguments are built is a node over what they are built as.** -/
theorem exists_run_build_of_isCall (hcall : IsCall s k text call (args.map strip))
    (hvoxel : call ≠ .voxel) (harity : args.length = call.arity)
    (hparts : ∀ p ∈ call.asked k args, ∀ d, ∃ root, Gives (build s room p.kind p.text) root d)
    (d : Draft) : ∃ top n d', (build s (room + 1) k text).run d = (.ok top, d') ∧
      d'.graph.node? top = some n ∧ n.label = call.name ∧
      ∀ (i : Nat) (p : Part), (call.asked k args)[i]? = some p →
        ∃ root d, n.children[i]? = some root ∧ Gives (build s room p.kind p.text) root d := by
  have harity' : (args.map strip).length = call.arity := by rw [List.length_map, harity]
  obtain ⟨n, hplan⟩ := Call.exists_plan_eq (s := s) (k := k) hvoxel harity'
  obtain ⟨hlabel, hchildren⟩ := Call.node_of_plan hvoxel hplan
  obtain ⟨roots, d', hrun, hroots⟩ := exists_run_mapM hparts (d.entered k (strip text))
  have hstripped : (call.asked k (args.map strip)).mapM (fun p => build s room p.kind p.text) =
      (call.asked k args).mapM fun p => build s room p.kind p.text := by
    rw [Call.asked_map_strip, List.mapM_map]
    simp only [Function.comp_def, build_strip]
  have hbuild : (build s (room + 1) k text).run d =
      (.ok d'.graph.size, d'.made (n.rename fun i => roots.getD i 0)) := by
    rw [run_build_plan, plan_of_isCall hcall, hplan, Plan.carryOut, hstripped, run_bind_of_ok hrun,
      run_makeNode]
  refine ⟨_, _, _, hbuild, Graph.node?_push_size _ _, ?_, fun i p hp => ?_⟩
  · rw [Node.label_rename, hlabel]
  · obtain ⟨root, d₁, hroot, hgives⟩ := hroots i p hp
    have hi : i < call.arity := by
      rw [← harity, ← Call.map_text_asked (k := k) hvoxel harity, List.length_map]
      exact (List.getElem?_eq_some_iff.1 hp).1
    refine ⟨root, d₁, ?_, hgives⟩
    rw [Node.children_rename, hchildren, List.getElem?_map, List.getElem?_range hi, Option.map_some,
      List.getD_eq_getElem?_getD, hroot, Option.getD_some]

/-- **A call that mentions a name is a node over the field.** -/
theorem exists_run_build_of_mentions (hname : Referable name) (hargument : Argument name)
    (hbound : s.field? name = some root) (h : Mentions s (room + 1) k call args i name text)
    (d : Draft) : ∃ top n d', (build s (room + 2) k text).run d = (.ok top, d') ∧
      d'.graph.node? top = some n ∧ n.label = call.name ∧ n.children[i]? = some root := by
  obtain ⟨a, hi, ha⟩ := h.named
  have hvoxel : call ≠ .voxel := by
    rintro rfl
    cases hi
  -- where the name stands, its field is built; the others are built as by themselves
  have hself (d : Draft) : Gives (build s (room + 1) .number a) root d :=
    gives_iff.2 ⟨_, run_build_name hname hbound ha⟩
  have hpart (p : Part) (hp : p ∈ call.asked k args) :
      Argument p.text ∧ ∀ d, ∃ root, Gives (build s (room + 1) p.kind p.text) root d := by
    obtain ⟨j, hj⟩ := List.getElem?_of_mem hp
    by_cases hji : j = i
    · obtain rfl : (⟨.number, a⟩ : Part) = p := Option.some.inj (hi.symm.trans (hji ▸ hj))
      exact ⟨(Argument.padded_iff ha).2 hargument, fun d => ⟨root, hself d⟩⟩
    · obtain ⟨hbalanced, root, d₀, hgives⟩ := h.others j p hji hj
      exact ⟨hbalanced, exists_gives_build_of_le (Nat.le_refl _) hgives⟩
  have hargs : ∀ a ∈ args, Argument a := by
    intro a ha
    rw [← Call.map_text_asked (k := k) hvoxel h.arity] at ha
    obtain ⟨p, hp, rfl⟩ := List.mem_map.1 ha
    exact (hpart p hp).1
  have hne : args ≠ [] := by
    rintro rfl
    rw [Call.asked, List.zipWith_nil_right] at hi
    cases hi
  have hcall := h.called.isCall_of_field? h.unbound h.allowed hne hargs
  obtain ⟨top, n, d', hrun, hnode, hlabel, hchildren⟩ :=
    exists_run_build_of_isCall hcall hvoxel h.arity (fun p hp => (hpart p hp).2) d
  obtain ⟨found, d₁, hfound, hgives⟩ := hchildren i _ hi
  -- a building gives one node in one draft
  obtain rfl : found = root := Except.ok.inj (hgives.symm.trans (hself d₁))
  exact ⟨top, n, d', hrun, hnode, hlabel, hfound⟩

/-! ## 3. Dead names -/

/-- What is built of a text at first sight does not depend on the fields. -/
theorem buildForm_congr (hid : s.voxelId = s'.voxelId) (sub : Kind → Text → Build Nat) (k : Kind)
    (t : Text) (form : Form) : buildForm s sub k t form = buildForm s' sub k t form := by
  unfold buildForm buildCall
  rw [hid]

/-- What a text is at first sight depends on what is bound under it, if it can be referred to. -/
theorem classify_congr (hfield : Referable t → s.field? t = s'.field? t) (hne : t ≠ [])
    (ht : Trimmed t) : classify s k t = classify s' k t := by
  unfold classify
  cases k with
  | number =>
    cases hread : Decimal.read? t with
    | some d => rfl
    | none =>
      dsimp only
      rw [hfield ⟨hne, ht, read?_eq_none_iff.1 hread⟩]
  | _ => rfl

/-- **A building depends on what is bound under names that can be referred to**, and on nothing else
    that is bound. -/
theorem build_congr (hid : s.voxelId = s'.voxelId)
    (hfield : ∀ t, Referable t → s.field? t = s'.field? t) :
    ∀ (room : Nat) (k : Kind) (text : Text), build s room k text = build s' room k text
  | 0, _, _ => rfl
  | room + 1, k, text => by
    have hsub : build s room = build s' room :=
      funext fun k => funext fun text => build_congr hid hfield room k text
    rw [build, build]
    by_cases hne : strip text = []
    · rw [hne]
      rfl
    · have he : (strip text).isEmpty = false := by simpa using hne
      rw [he, classify_congr (hfield _) hne (strip_trimmed text), hsub]
      simp only [buildForm_congr hid]

/-- The scope without what is bound under a name. -/
def Scope.without (s : Scope) (name : Text) : Scope :=
  { s with fields := s.fields.filter (·.name != name) }

/-- Other names mean what they meant. -/
theorem Scope.field?_without (h : t ≠ name) : (s.without name).field? t = s.field? t := by
  unfold Scope.field? Scope.without
  rw [List.find?_filter]
  congr 2
  funext f
  by_cases hf : f.name = t <;> simp [hf, h]

/-- **Which names can be referred to.** For any bound name: if it is not empty, has no outer blanks
    and is no literal, the name is built as its field, and so is it in a call where it is one
    argument. Otherwise no formula of any kind is built or refused otherwise than without it. -/
theorem field_referable (s : Scope) (name : Text) (root : Nat)
    (hbound : s.field? name = some root) :
    (name ≠ [] ∧ Trimmed name ∧ ¬ Literal name →
      (∀ room text d, Padded name text →
        (build s (room + 1) .number text).run d = (.ok root, d.visited .number name)) ∧
      (Argument name → ∀ room k call args i text,
        Mentions s (room + 1) k call args i name text → ∀ d, ∃ top n d',
          (build s (room + 2) k text).run d = (.ok top, d') ∧ d'.graph.node? top = some n ∧
          n.label = call.name ∧ n.children[i]? = some root)) ∧
    (name = [] ∨ ¬ Trimmed name ∨ Literal name → ∀ room k text,
      build s room k text = build (s.without name) room k text) := by
  refine ⟨fun hex => ?_, fun hdead room k text => ?_⟩
  · obtain ⟨hne, htrim, hnot⟩ := hex
    have hname : Referable name := ⟨hne, htrim, hnot⟩
    exact ⟨fun room text d htext => run_build_name hname hbound htext,
      fun hargument room k call args i text h d =>
        exists_run_build_of_mentions hname hargument hbound h d⟩
  · have hid : s.voxelId = (s.without name).voxelId := rfl
    refine build_congr hid (fun t ht => ?_) room k text
    -- what can be referred to is another name
    have hother : t ≠ name := by
      rintro rfl
      rcases hdead with hempty | huntrimmed | hliteral
      · exact ht.ne_nil hempty
      · exact huntrimmed ht.trimmed
      · exact ht.not_literal hliteral
    exact (Scope.field?_without hother).symm

/-- A field that is named like a call, and one that is named like a literal. -/
def oddScope : Scope := ⟨fun _ => none, [⟨"Add(x, y)".toList, 3⟩, ⟨"1".toList, 4⟩]⟩

theorem field_referable_odd :
    (∀ d, (build oddScope 1 .number " Add(x, y)".toList).run d =
      (.ok 3, d.visited .number "Add(x, y)".toList)) ∧
    (∀ d, ∃ top n d', (build oddScope 2 .boolean "Less( Add(x, y) ,1)".toList).run d =
      (.ok top, d') ∧ d'.graph.node? top = some n ∧ n.label = "Less" ∧
      n.children[0]? = some 3) ∧
    ∀ room k text,
      build oddScope room k text = build (oddScope.without "1".toList) room k text := by
  have hblank : Blanks [' '] := List.all_eq_true.1 (by decide : [' '].all isBlank = true)
  have hstrip : strip "Add(x, y)".toList = "Add(x, y)".toList := by decide
  have htrim : Trimmed "Add(x, y)".toList := (strip_eq_iff.1 hstrip).2
  have hnot : ¬ Literal "Add(x, y)".toList := read?_eq_none_iff.1 (by decide +kernel)
  have hargument : Argument "Add(x, y)".toList := argument_iff.2 (by decide)
  have hone : Literal "1".toList :=
    .mk (a := []) (m := ['1']) (p := []) (by decide) (.whole (.of_all (by decide)) (by decide)) .none
  have hmentions : Mentions oddScope 1 .boolean .less [" Add(x, y) ".toList, "1".toList] 0
      "Add(x, y)".toList "Less( Add(x, y) ,1)".toList := {
    allowed := by decide
    called := ⟨"Less".toList, [], .refl _, .nil, by decide⟩
    unbound := nofun
    arity := rfl
    named := ⟨_, rfl, [' '], [' '], hblank, hblank, by decide⟩
    others := by
      intro j p hj hp
      match j, hp with
      | 0, _ => exact absurd rfl hj
      | 1, hp =>
        cases hp
        refine ⟨argument_iff.2 (by decide), 0, .empty, ?_⟩
        unfold Gives
        decide +kernel }
  obtain ⟨hname, hcall⟩ := (field_referable oddScope "Add(x, y)".toList 3 (by decide)).1
    ⟨by decide, htrim, hnot⟩
  have hpadded : Padded "Add(x, y)".toList " Add(x, y)".toList :=
    ⟨[' '], [], hblank, .nil, by decide⟩
  exact ⟨fun d => hname 0 _ d hpadded,
    hcall hargument 0 .boolean .less _ 0 _ hmentions,
    (field_referable oddScope "1".toList 4 (by decide)).2 (.inr (.inr hone))⟩

end Terrain.Formula
