import Terrain.Proofs.Formula.Reading
import Terrain.Proofs.Formula.Splitting
import Terrain.Proofs.Number.Literal

/-!
# The grammar of formulas

| kind | formulas |
|---|---|
| number | literal, field, signal, `Add(n, n)`, `Subtract(n, n)`, `If(b, n, n)` |
| boolean | `Less(n, n)` |
| voxel type | `Voxel(w)`, `If(b, v, v)` |
| voxel shape | `CUBE`, `SLAB`, `If(b, s, s)` |

Blanks may stand around every name, literal, parenthesis and comma.

* `Renders s k e t`: the text `t` is a term of kind `k`, with blanks.
* `renders_iff_reading`: these are the terms that texts are read as.
* `build_iff_renders`: the builder of a kind accepts exactly the texts of its terms.
-/

namespace Terrain.Formula

open Terrain.Text

/-! ## 1. Texts of terms -/

/-- A name is not empty, has no outer blanks, and holds no parenthesis and no comma. -/
structure IsName (t : Text) : Prop where
  ne_nil : t ≠ []
  trimmed : Trimmed t
  plain : ∀ c ∈ t, c ≠ '(' ∧ c ≠ ')' ∧ c ≠ ','

/-- The fields of a scope have names. -/
def Scope.Plain (s : Scope) : Prop := ∀ f ∈ s.fields, IsName f.name

/-- The kind of a call of two numbers. -/
def Call.pairKind? : Call → Option Kind
  | .add | .subtract => some .number
  | .less => some .boolean
  | _ => none

/-- The text of a call: its name, with blanks, and its arguments between parentheses. -/
def Called (call : Call) (args : List Text) (t : Text) : Prop :=
  ∃ n after, Padded call.name.toList n ∧ Blanks after ∧
    t = n ++ '(' :: (joined args ++ ')' :: after)

/-- **A text is a term of a kind, with blanks.** -/
inductive Renders (s : Scope) : Kind → Term → Text → Prop
  | literal {d : Number.Decimal} {w t : Text} (hw : Number.Writes w d) (ht : Padded w t) :
      Renders s .number (.literal d) t
  | field {name t : Text} (hd : ∀ d, ¬ Number.Writes name d) (hf : s.field? name ≠ none)
      (ht : Padded name t) : Renders s .number (.field name) t
  | signal {name : String} {sig : Signal} {t : Text} (hname : (name, sig) ∈ signals)
      (hf : s.field? name.toList = none) (ht : Padded name.toList t) :
      Renders s .number (.signal sig) t
  | shape {shape : Shape} {t : Text} (ht : Padded shape.name.toList t) :
      Renders s .shape (.shape shape) t
  | pair {k : Kind} {call : Call} {el er : Term} {l r t : Text} (hk : call.pairKind? = some k)
      (left : Renders s .number el l) (right : Renders s .number er r)
      (ht : Called call [l, r] t) : Renders s k (.pair call el er) t
  | choose {k : Kind} {ep ea eb : Term} {p a b t : Text} (hk : k ≠ .boolean)
      (condition : Renders s .boolean ep p) (whenTrue : Renders s k ea a)
      (whenFalse : Renders s k eb b) (ht : Called .choose [p, a, b] t) :
      Renders s k (.choose ep ea eb) t
  | voxel {w a t : Text} (hid : s.voxelId w ≠ none) (hw : Argument w) (htrim : Trimmed w)
      (ha : Padded w a) (ht : Called .voxel [a] t) : Renders s .voxel (.voxel w) t

variable {s : Scope} {k : Kind} {e f : Term} {t u : Text} {call : Call} {args : List Text}

/-! ## 2. Blanks -/

/-- A blank is none of the characters a call is made of. -/
theorem plain_of_isBlank {c : Char} (h : isBlank c = true) : c ≠ '(' ∧ c ≠ ')' ∧ c ≠ ',' := by
  refine ⟨?_, ?_, ?_⟩ <;> rintro rfl <;> exact absurd h (by decide)

theorem Argument.blanks (h : Blanks t) : Argument t :=
  .of_plain fun c hc => plain_of_isBlank (h c hc)

/-- Blanks around a text do not matter to its parentheses and commas. -/
theorem Argument.padded_iff (h : Padded t u) : Argument u ↔ Argument t := by
  obtain ⟨a, b, ha, hb, rfl⟩ := h
  have hread {v : Text} (hv : Blanks v) (n : Nat) : levelAfter? n v = some n :=
    levelAfter?_of_plain (fun c hc => plain_of_isBlank (hv c hc)) n
  rw [argument_iff, argument_iff, List.append_assoc, levelAfter?_append, hread ha,
    Option.bind_some, levelAfter?_append]
  cases levelAfter? 0 t with
  | none => rfl
  | some d => rw [Option.bind_some, hread hb]

/-- More blanks around the text of a call. -/
theorem Called.pad (h : Called call args t) (hu : Padded t u) : Called call args u := by
  obtain ⟨n, after, hn, hafter, rfl⟩ := h
  obtain ⟨a, b, ha, hb, rfl⟩ := hu
  refine ⟨a ++ n, after ++ b, hn.trans ⟨a, [], ha, .nil, by simp⟩, hafter.append hb, ?_⟩
  simp [List.append_assoc]

/-- More blanks around the text of a term. -/
theorem Renders.pad (h : Renders s k e t) (hu : Padded t u) : Renders s k e u := by
  cases h with
  | literal hw ht => exact .literal hw (ht.trans hu)
  | field hd hf ht => exact .field hd hf (ht.trans hu)
  | signal hname hf ht => exact .signal hname hf (ht.trans hu)
  | shape ht => exact .shape (ht.trans hu)
  | pair hk left right ht => exact .pair hk left right (ht.pad hu)
  | choose hk condition whenTrue whenFalse ht =>
    exact .choose hk condition whenTrue whenFalse (ht.pad hu)
  | voxel hid hw htrim ha ht => exact .voxel hid hw htrim ha (ht.pad hu)

/-! ## 3. Names -/

/-- A name that is found is the name of a field. -/
theorem exists_of_field? {name : Text} (h : s.field? name ≠ none) :
    ∃ f ∈ s.fields, f.name = name := by
  obtain ⟨root, hroot⟩ := Option.ne_none_iff_exists'.1 h
  obtain ⟨f, hf, -⟩ := Option.map_eq_some_iff.1 hroot
  exact ⟨f, List.mem_of_find?_eq_some hf, by simpa using List.find?_some hf⟩

/-- No plain name holds a parenthesis. -/
theorem Scope.Plain.field?_of_open (hs : s.Plain) (h : '(' ∈ t) : s.field? t = none := by
  by_contra hf
  obtain ⟨f, hmem, rfl⟩ := exists_of_field? hf
  exact ((hs f hmem).plain _ h).1 rfl

theorem read?_of_open (h : '(' ∈ t) : Number.Decimal.read? t = none := by
  rw [Option.eq_none_iff_forall_ne_some]
  intro d hd
  exact (((Number.Decimal.read?_eq_some_iff.1 hd).mem _ h).plain).1 rfl

/-- The signal of a name. -/
theorem signal_named?_eq_some_iff {sig : Signal} :
    Signal.named? t = some sig ↔ ∃ name, (name, sig) ∈ signals ∧ name.toList = t := by
  constructor
  · intro h
    obtain ⟨⟨name, sig'⟩, hp, rfl⟩ := Option.map_eq_some_iff.1 h
    exact ⟨name, List.mem_of_find?_eq_some hp, by simpa using List.find?_some hp⟩
  · intro hex
    obtain ⟨name, hmem, rfl⟩ := hex
    have found : ∀ p ∈ signals, Signal.named? p.1.toList = some p.2 := by decide
    exact found _ hmem

/-- The shape of a name. -/
theorem shape_named?_eq_some_iff {shape : Shape} :
    Shape.named? t = some shape ↔ shape.name.toList = t := by
  constructor
  · intro h
    simpa using List.find?_some h
  · rintro rfl
    exact Shape.named?_name shape

theorem trimmed_of_forall (h : ∀ c ∈ t, isBlank c = false) : Trimmed t where
  head c hc := h c (List.mem_of_mem_head? hc)
  last c hc := h c (List.mem_of_getLast? hc)

/-- A character that is no blank and that no call is made of. -/
def isNameChar (c : Char) : Bool := !isBlank c && c != '(' && c != ')' && c != ','

theorem isNameChar_iff {c : Char} :
    isNameChar c = true ↔ isBlank c = false ∧ c ≠ '(' ∧ c ≠ ')' ∧ c ≠ ',' := by
  simp [isNameChar, and_assoc]

/-- A text of such characters is a name. -/
theorem IsName.of_all (hne : t ≠ []) (h : t.all isNameChar = true) : IsName t where
  ne_nil := hne
  trimmed := trimmed_of_forall fun c hc => (isNameChar_iff.1 (List.all_eq_true.1 h c hc)).1
  plain c hc := (isNameChar_iff.1 (List.all_eq_true.1 h c hc)).2

theorem isName_literal {d : Number.Decimal} (h : Number.Writes t d) : IsName t :=
  .of_all h.ne_nil <| List.all_eq_true.2 fun c hc =>
    isNameChar_iff.2 ⟨(h.mem c hc).isBlank, (h.mem c hc).plain⟩

theorem isName_field (hs : s.Plain) (h : s.field? t ≠ none) : IsName t := by
  obtain ⟨f, hf, rfl⟩ := exists_of_field? h
  exact hs f hf

theorem isName_signal {name : String} {sig : Signal} (h : (name, sig) ∈ signals) :
    IsName name.toList := by
  have all : ∀ p ∈ signals, p.1.toList ≠ [] ∧ p.1.toList.all isNameChar = true := by decide
  exact .of_all (all _ h).1 (all _ h).2

theorem isName_shape (shape : Shape) : IsName shape.name.toList := by
  cases shape <;> exact .of_all (by decide) (by decide)

theorem isName_call (call : Call) : IsName call.name.toList := by
  cases call <;> exact .of_all (by decide) (by decide)

theorem IsName.strip_eq (h : IsName t) (hu : Padded t u) : strip u = t :=
  strip_eq_iff.2 ⟨hu, h.trimmed⟩

theorem IsName.argument (h : IsName t) (hu : Padded t u) : Argument u :=
  (Argument.padded_iff hu).2 (.of_plain h.plain)

/-! ## 4. Calls -/

/-- The text of a call is an argument if its arguments are. -/
theorem Called.argument (h : Called call args t) (hargs : ∀ a ∈ args, Argument a) :
    Argument t := by
  obtain ⟨n, after, hn, hafter, rfl⟩ := h
  exact .call ((isName_call call).argument hn) hargs (.blanks hafter)

/-- **The text of a call is taken apart into its name and its arguments.** -/
theorem Called.takeApart (h : Called call args t) (hne : args ≠ [])
    (hargs : ∀ a ∈ args, Argument a) :
    '(' ∈ strip t ∧ takeApart (strip t) = .ok ⟨call.name.toList, args.map strip⟩ := by
  obtain ⟨n, after, ⟨a, b, ha, hb, rfl⟩, hafter, rfl⟩ := h
  have hname := isName_call call
  -- without its outer blanks the text runs from the name to the closing parenthesis
  have hstrip : strip (a ++ call.name.toList ++ b ++ '(' :: (joined args ++ ')' :: after)) =
      call.name.toList ++ b ++ '(' :: (joined args ++ [')']) := by
    refine strip_eq_iff.2 ⟨⟨a, after, ha, hafter, by simp [List.append_assoc]⟩, ?_, ?_⟩
    · intro c hc
      refine hname.trimmed.head c ?_
      obtain ⟨x, r, hx⟩ := List.exists_cons_of_ne_nil hname.ne_nil
      rw [hx] at hc ⊢
      exact hc
    · intro c hc
      have hlast : ')' = c := by simpa [List.getLast?_append, List.getLast?_cons] using hc
      rw [← hlast]
      decide
  rw [hstrip, takeApart_eq_ok_iff]
  have hpad : Padded call.name.toList (call.name.toList ++ b) := ⟨[], b, .nil, hb, rfl⟩
  refine ⟨by simp, call.name.toList ++ b, args, [], ?_, hne, hargs, .nil, rfl, ?_⟩
  · intro ho
    rcases List.mem_append.1 ho with ho | ho
    · exact (hname.plain _ ho).1 rfl
    · exact (plain_of_isBlank (hb _ ho)).1 rfl
  · rw [hname.strip_eq hpad]

/-- The text of a call is read as the call, unless it is the name of a field. -/
theorem Called.isCall_of_field? (h : Called call args t)
    (hfield : k = .number → s.field? (strip t) = none) (hmem : call ∈ k.calls) (hne : args ≠ [])
    (hargs : ∀ a ∈ args, Argument a) : IsCall s k t call (args.map strip) := by
  obtain ⟨hopen, hparts⟩ := h.takeApart hne hargs
  exact ⟨classify_eq_call_iff.2 ⟨hopen, fun hk => ⟨read?_of_open hopen, hfield hk⟩⟩, hparts, hmem⟩

/-- **The text of a call is read as the call.** -/
theorem Called.isCall (hs : s.Plain) (h : Called call args t) (hmem : call ∈ k.calls)
    (hne : args ≠ []) (hargs : ∀ a ∈ args, Argument a) :
    IsCall s k t call (args.map strip) :=
  h.isCall_of_field? (fun _ => hs.field?_of_open (h.takeApart hne hargs).1) hmem hne hargs

/-- **What is read as a call is the text of it.** -/
theorem IsCall.called (h : IsCall s k t call args) :
    ∃ ps, args = ps.map strip ∧ (∀ p ∈ ps, Argument p) ∧ Called call ps t := by
  obtain ⟨n, ps, rest, -, -, hargs, hrest, ht, hparts⟩ := takeApart_eq_ok_iff.1 h.parts
  obtain ⟨hname, rfl⟩ := Parts.mk.inj hparts
  refine ⟨ps, rfl, hargs, Called.pad ⟨n, rest, ?_, hrest, ht⟩ (padded_strip t)⟩
  rw [hname]
  exact padded_strip n

theorem pairKind?_eq_some_iff : call.pairKind? = some k ↔
    call ∈ k.calls ∧ ∃ node, call.pairNode? = some node := by
  cases call <;> cases k <;> simp [Call.pairKind?, Call.pairNode?, Kind.calls]

theorem choose_mem_calls : Call.choose ∈ k.calls ↔ k ≠ .boolean := by
  cases k <;> simp [Kind.calls]

/-! ## 5. Texts of terms are what is read -/

/-- The text of a term is an argument. -/
theorem Renders.argument (hs : s.Plain) (h : Renders s k e t) : Argument t := by
  induction h with
  | literal hw ht => exact (isName_literal hw).argument ht
  | field _ hf ht => exact (isName_field hs hf).argument ht
  | signal hname _ ht => exact (isName_signal hname).argument ht
  | shape ht => exact (isName_shape _).argument ht
  | pair _ _ _ ht ihl ihr =>
    exact ht.argument (List.forall_mem_cons.2 ⟨ihl, List.forall_mem_singleton.2 ihr⟩)
  | choose _ _ _ _ ht ihp iha ihb =>
    exact ht.argument (List.forall_mem_cons.2
      ⟨ihp, List.forall_mem_cons.2 ⟨iha, List.forall_mem_singleton.2 ihb⟩⟩)
  | voxel _ hw _ ha ht =>
    exact ht.argument (List.forall_mem_singleton.2 ((Argument.padded_iff ha).2 hw))

/-- What is read of a text is read of it without its outer blanks. -/
theorem Reading.of_strip (h : Reading s k t e) : Reading s k (strip t) e := by
  have hcall {call : Call} {args : List Text} (hc : IsCall s k t call args) :
      IsCall s k (strip t) call args :=
    ⟨by rw [strip_strip]; exact hc.form, by rw [strip_strip]; exact hc.parts, hc.allowed⟩
  cases h with
  | bare hne he => exact .bare (by rwa [strip_strip]) (by rwa [strip_strip])
  | pair hc hnode left right => exact .pair (hcall hc) hnode left right
  | choose hc condition whenTrue whenFalse =>
    exact .choose (hcall hc) condition whenTrue whenFalse
  | voxel hc hid => exact .voxel (hcall hc) hid

/-- A name is read at first sight. -/
theorem IsName.reading (h : IsName t) (hu : Padded t u) (he : Bare s k t e) :
    Reading s k u e := by
  obtain rfl := h.strip_eq hu
  exact .bare h.ne_nil he

theorem Renders.reading (hs : s.Plain) (h : Renders s k e t) : Reading s k t e := by
  induction h with
  | literal hw ht =>
    exact (isName_literal hw).reading ht (.literal (Number.Decimal.read?_eq_some_iff.2 hw))
  | field hd hf ht =>
    refine (isName_field hs hf).reading ht (.field ?_ hf)
    rw [Option.eq_none_iff_forall_ne_some]
    exact fun d hr => hd d (Number.Decimal.read?_eq_some_iff.1 hr)
  | signal hname hf ht =>
    have unread : ∀ p ∈ signals, Number.Decimal.read? p.1.toList = none := by decide +kernel
    have hd := unread _ hname
    refine (isName_signal hname).reading ht (.signal (fun _ => ⟨hd, hf⟩) ?_)
    exact signal_named?_eq_some_iff.2 ⟨_, hname, rfl⟩
  | shape ht => exact (isName_shape _).reading ht (.shape (Shape.named?_name _))
  | pair hk left right ht ihl ihr =>
    obtain ⟨hmem, node, hnode⟩ := pairKind?_eq_some_iff.1 hk
    have hcall := ht.isCall hs hmem (List.cons_ne_nil _ _) (List.forall_mem_cons.2
      ⟨left.argument hs, List.forall_mem_singleton.2 (right.argument hs)⟩)
    exact .pair hcall hnode ihl.of_strip ihr.of_strip
  | choose hk condition whenTrue whenFalse ht ihp iha ihb =>
    have hcall := ht.isCall hs (choose_mem_calls.2 hk) (List.cons_ne_nil _ _)
      (List.forall_mem_cons.2 ⟨condition.argument hs, List.forall_mem_cons.2
        ⟨whenTrue.argument hs, List.forall_mem_singleton.2 (whenFalse.argument hs)⟩⟩)
    exact .choose hcall ihp.of_strip iha.of_strip ihb.of_strip
  | voxel hid hw htrim ha ht =>
    rename_i w a t
    have hcall := ht.isCall (k := .voxel) hs (by decide) (List.cons_ne_nil _ _)
      (List.forall_mem_singleton.2 ((Argument.padded_iff ha).2 hw))
    have hstrip : strip a = w := strip_eq_iff.2 ⟨ha, htrim⟩
    rw [List.map_cons, hstrip] at hcall
    exact .voxel hcall hid

theorem Bare.renders (h : Bare s k (strip t) e) : Renders s k e t := by
  have ht := padded_strip t
  generalize strip t = core at h ht
  cases h with
  | literal hd => exact .literal (Number.Decimal.read?_eq_some_iff.1 hd) ht
  | field hd hf =>
    refine .field (fun d hw => ?_) hf ht
    rw [Number.Decimal.read?_eq_some_iff.2 hw] at hd
    cases hd
  | signal hu hsig =>
    obtain ⟨name, hname, rfl⟩ := signal_named?_eq_some_iff.1 hsig
    exact .signal hname (hu rfl).2 ht
  | shape hshape =>
    obtain rfl := shape_named?_eq_some_iff.1 hshape
    exact .shape ht

theorem Reading.renders (h : Reading s k t e) : Renders s k e t := by
  induction h with
  | bare _ he => exact he.renders
  | pair hcall hnode _ _ ihl ihr =>
    obtain ⟨ps, hps, -, ht⟩ := hcall.called
    match ps, hps with
    | [p, q], hps =>
      cases hps
      exact .pair (pairKind?_eq_some_iff.2 ⟨hcall.allowed, _, hnode⟩)
        (ihl.pad (padded_strip p)) (ihr.pad (padded_strip q)) ht
  | choose hcall _ _ _ ihp iha ihb =>
    obtain ⟨ps, hps, -, ht⟩ := hcall.called
    match ps, hps with
    | [p, q, r], hps =>
      cases hps
      exact .choose (choose_mem_calls.1 hcall.allowed) (ihp.pad (padded_strip p))
        (iha.pad (padded_strip q)) (ihb.pad (padded_strip r)) ht
  | voxel hcall hid =>
    rename_i k _ _
    have hk : k = .voxel := by
      have := hcall.allowed
      cases k <;> first | rfl | exact absurd this (by decide)
    obtain ⟨ps, hps, hargs, ht⟩ := hcall.called
    match ps, hps with
    | [p], hps =>
      cases hps
      subst hk
      exact .voxel hid ((Argument.padded_iff (padded_strip p)).1 (hargs p List.mem_cons_self))
        (strip_trimmed p) (padded_strip p) ht

/-- **The texts of a term are those that are read as it.** -/
theorem renders_iff_reading (hs : s.Plain) : Renders s k e t ↔ Reading s k t e :=
  ⟨Renders.reading hs, Reading.renders⟩

/-! ## 6. What is accepted -/

/-- **The builder of a kind accepts exactly the texts of the terms of the kind that are no deeper
    than its room**, whatever was built before. The node it gives stands for the term, and no text
    is a text of two terms. -/
theorem build_iff_renders (hs : s.Plain) (room : Nat) (k : Kind) (t : Text) (d : Draft) :
    ((∃ root d', (build s room k t).run d = (.ok root, d')) ↔
      ∃ e, Renders s k e t ∧ e.depth ≤ room) ∧
    (∀ e root d', Renders s k e t → (build s room k t).run d = (.ok root, d') →
      e.Stands s d'.graph root) ∧
    (∀ e f, Renders s k e t → Renders s k f t → e = f) := by
  refine ⟨⟨?_, ?_⟩, ?_, ?_⟩
  · intro hex
    obtain ⟨root, d', h⟩ := hex
    obtain ⟨e, he, hdepth, -⟩ := (built_of_run h).reading
    exact ⟨e, he.renders, hdepth⟩
  · intro hex
    obtain ⟨e, he, hdepth⟩ := hex
    obtain ⟨root, d', hb⟩ := (he.reading hs).built hdepth d
    exact ⟨root, d', hb.run⟩
  · intro e root d' he h
    obtain ⟨f, hf, -, hstands⟩ := (built_of_run h).reading
    rwa [(he.reading hs).unique hf]
  · intro e f he hf
    exact (he.reading hs).unique (hf.reading hs)

/-- One field, and one type of voxels. -/
def hillScope : Scope := ⟨fun w => if w = "stone".toList then some 1 else none,
  [⟨"hills".toList, 0⟩]⟩

theorem build_iff_renders_hills : ∃ root d',
    (build hillScope 2 .number " Add (hills, 1.5) ".toList).run .empty = (.ok root, d') ∧
      Term.Stands hillScope d'.graph
        (.pair .add (.field "hills".toList) (.literal ⟨false, 15, -1⟩)) root := by
  have hs : hillScope.Plain := by
    intro f hf
    rw [List.mem_singleton.1 hf]
    exact .of_all (by decide) (by decide)
  have hblank : Blanks [' '] := List.all_eq_true.1 (by decide : [' '].all isBlank = true)
  have hnot : Number.Decimal.read? "hills".toList = none := by decide +kernel
  have he : Renders hillScope .number
      (.pair .add (.field "hills".toList) (.literal ⟨false, 15, -1⟩))
      " Add (hills, 1.5) ".toList := by
    refine .pair rfl (l := "hills".toList) (r := " 1.5".toList)
      (.field (fun d hd => ?_) (by decide) (.refl _))
      (.literal (w := "1.5".toList) (Number.Decimal.read?_eq_some_iff.1 (by decide +kernel))
        ⟨[' '], [], hblank, .nil, rfl⟩)
      ⟨" Add ".toList, [' '], ⟨[' '], [' '], hblank, hblank, rfl⟩, hblank, rfl⟩
    rw [Number.Decimal.read?_eq_some_iff.2 hd] at hnot
    cases hnot
  obtain ⟨hiff, hstands, -⟩ := build_iff_renders hs 2 .number " Add (hills, 1.5) ".toList .empty
  obtain ⟨root, d', h⟩ := hiff.2 ⟨_, he, by decide⟩
  exact ⟨root, d', h, hstands _ _ _ he h⟩

end Terrain.Formula
