import Terrain.Proofs.Attempt
import Terrain.Proofs.Named
import Terrain.Proofs.VoxelTypes.Registering

/-!
# The history of a registry

A registry of voxel types is made from the entries of a map, and then types are registered one
after the other, whatever comes of it. What the registry answers can be told from these calls alone.

* `enter`: a registration step by step; it comes to the same as `register` (`run_enter`).
* `made`: the types that the successful ones of a run of registrations make (`types_triedAll`).
* `Makes`: a call of a run makes a type (`mem_made_iff`).
* `registerAll_eq_foldlM`: the entries of a map are registered in order.
* `Settles`, `Records`: what a call comes to, and what the registry answers after a run
  (`history_recorded`).
-/

namespace Terrain.VoxelTypes

variable {t t' : VoxelTypes} {name : String} {id : Value} {type : VoxelType} {n : Nat}

/-! ## 1. Single registrations -/

/-- An id that a value writes is a whole number of sixteen bits. -/
theorem idFor_eq_ok_iff : idFor name id = .ok n ↔ id.integer? = .ok (n : Int) ∧ n ≤ maxId := by
  unfold idFor
  cases id.integer? with
  | error u => exact ⟨nofun, fun h => nomatch h.1⟩
  | ok i =>
    change (if 0 ≤ i ∧ i ≤ maxId then _ else _) = _ ↔ _
    rw [Except.ok.injEq]
    split
    · rename_i hi
      constructor
      · intro h
        cases h
        omega
      · intro h
        obtain ⟨rfl, -⟩ := h
        rfl
    · rename_i hi
      refine ⟨fun h => ?_, fun h => absurd ⟨by omega, by omega⟩ hi⟩
      split at h <;> cases h

/-- **When a type is registered**: its name is free, and the value writes an id. -/
theorem exists_register_iff : (∃ r, t.register name id = .ok r) ↔
    t.find? name = none ∧ ∃ n : Nat, id.integer? = .ok (n : Int) ∧ n ≤ maxId := by
  constructor
  · intro hex
    obtain ⟨⟨type, t'⟩, h⟩ := hex
    obtain ⟨hfree, n, hn, -⟩ := register_eq_ok_iff.1 h
    exact ⟨by simpa using hfree, n, idFor_eq_ok_iff.1 hn⟩
  · intro hex
    obtain ⟨hfree, n, hn⟩ := hex
    exact ⟨_, register_eq_ok_iff.2
      ⟨by rw [hfree]; rfl, n, idFor_eq_ok_iff.2 hn, rfl, rfl⟩⟩

/-- A registration step by step. The name is looked up and the id is checked before the type is
    stored. -/
def enter (name : String) (id : Value) : ExceptT Refusal (StateM VoxelTypes) VoxelType := do
  if ((← get).find? name).isSome then throw (.twice name)
  let type : VoxelType := ⟨name, ← ExceptT.mk (pure (idFor name id))⟩
  modify fun t => { t with types := t.types ++ [type] }
  return type

/-- **Step by step, a registration comes to the same**, and one that is refused has changed
    nothing. -/
theorem run_enter (t : VoxelTypes) (name : String) (id : Value) : (enter name id).run t =
    match t.register name id with
    | .ok (type, t') => (.ok type, t')
    | .error r => (.error r, t) := by
  have hget : (get : ExceptT Refusal (StateM VoxelTypes) VoxelTypes).run t = (.ok t, t) := rfl
  unfold enter register
  rw [Attempt.run_bind_of_ok hget]
  cases (t.find? name).isSome with
  | true => rfl
  | false => cases hid : idFor name id <;> rfl

/-! ## 2. Runs of registrations -/

section Runs

variable {calls before after : List (String × Value)}

theorem triedAll_append (t : VoxelTypes) (calls more : List (String × Value)) :
    t.triedAll (calls ++ more) = (t.triedAll calls).triedAll more := List.foldl_append

/-- The types that are made when registrations are tried one after the other. -/
def made (t : VoxelTypes) : List (String × Value) → List VoxelType
  | [] => []
  | (name, id) :: calls =>
    match t.register name id with
    | .ok (type, t') => type :: t'.made calls
    | .error _ => t.made calls

theorem tried_of_ok (h : t.register name id = .ok (type, t')) : t.tried name id = t' := by
  unfold tried
  rw [h]

theorem tried_of_error {r : Refusal} (h : t.register name id = .error r) :
    t.tried name id = t := by
  unfold tried
  rw [h]

/-- **A run stores the types that it makes**, after those that are there. -/
theorem types_triedAll : ∀ {calls : List (String × Value)} {t : VoxelTypes},
    (t.triedAll calls).types = t.types ++ t.made calls
  | [], t => (List.append_nil _).symm
  | (name, id) :: calls, t => by
    change ((t.tried name id).triedAll calls).types = _
    rw [types_triedAll, made]
    rcases h : t.register name id with r | ⟨type, t'⟩
    · rw [tried_of_error h]
    · rw [tried_of_ok h]
      obtain ⟨-, n, -, rfl, rfl⟩ := register_eq_ok_iff.1 h
      exact List.append_assoc _ _ _

/-- A run counts no type that has no name. -/
theorem unnamed_triedAll : ∀ {calls : List (String × Value)} {t : VoxelTypes},
    (t.triedAll calls).unnamed = t.unnamed
  | [], _ => rfl
  | (name, id) :: calls, t => by
    change ((t.tried name id).triedAll calls).unnamed = _
    rw [unnamed_triedAll]
    rcases h : t.register name id with r | ⟨type, t'⟩
    · rw [tried_of_error h]
    · rw [tried_of_ok h]
      obtain ⟨-, n, -, -, rfl⟩ := register_eq_ok_iff.1 h
      rfl

/-- A call of a run makes a type: it comes after the calls `before`, and succeeds. -/
def Makes (t : VoxelTypes) (calls before : List (String × Value)) (type : VoxelType) : Prop :=
  ∃ id after t', calls = before ++ (type.name, id) :: after ∧
    (t.triedAll before).register type.name id = .ok (type, t') ∧ id.integer? = .ok (type.id : Int)

theorem free_of_register (h : t.register name id = .ok (type, t')) : t.find? name = none := by
  obtain ⟨hfree, -⟩ := register_eq_ok_iff.1 h
  simpa using hfree

/-- What is registered has the name it was registered under. -/
theorem of_register (h : t.register name id = .ok (type, t')) :
    type.name = name ∧ id.integer? = .ok (type.id : Int) ∧ type.id ≤ maxId := by
  obtain ⟨-, n, hn, rfl, -⟩ := register_eq_ok_iff.1 h
  exact ⟨rfl, idFor_eq_ok_iff.1 hn⟩

theorem mem_made_iff : ∀ {calls : List (String × Value)} {t : VoxelTypes},
    type ∈ t.made calls ↔ ∃ before, Makes t calls before type
  | [], t => by simp [made, Makes]
  | (name, id) :: calls, t => by
    -- what a later call makes it makes after the first was tried
    have later (before : List (String × Value)) :
        Makes t ((name, id) :: calls) ((name, id) :: before) type ↔
          Makes (t.tried name id) calls before type := by
      unfold Makes
      simp only [List.cons_append, List.cons.injEq, true_and]
      rfl
    have hmade : type ∈ t.made ((name, id) :: calls) ↔
        (∃ t', t.register name id = .ok (type, t')) ∨ type ∈ (t.tried name id).made calls := by
      rw [made]
      rcases h : t.register name id with r | ⟨made, t'⟩
      · rw [tried_of_error h]
        simp
      · rw [tried_of_ok h]
        simp [eq_comm]
    rw [hmade, mem_made_iff]
    constructor
    · intro hor
      rcases hor with ⟨t', h⟩ | ⟨before, h⟩
      · obtain ⟨rfl, hid, -⟩ := of_register h
        exact ⟨[], id, calls, t', rfl, h, hid⟩
      · exact ⟨_, (later before).2 h⟩
    · intro hex
      obtain ⟨before, h⟩ := hex
      cases before with
      | nil =>
        obtain ⟨id', after, t', hcalls, hregister, -⟩ := h
        cases hcalls
        exact .inl ⟨t', hregister⟩
      | cons call before =>
        have hcalls := h
        obtain ⟨id', after, t', hcalls, -⟩ := hcalls
        cases hcalls
        exact .inr ⟨before, (later before).1 h⟩

end Runs

/-! ## 3. Names -/

/-- No two types have one name. -/
def Distinct (t : VoxelTypes) : Prop := (t.types.map (·.name)).Nodup

theorem distinct_empty : empty.Distinct := List.nodup_nil

theorem find?_eq_none_iff : t.find? name = none ↔ ∀ type ∈ t.types, type.name ≠ name := by
  unfold find?
  rw [List.find?_eq_none]
  exact forall₂_congr fun type _ => by simp

theorem Distinct.tried (ht : t.Distinct) (name : String) (id : Value) :
    (t.tried name id).Distinct := by
  rcases h : t.register name id with r | ⟨type, t'⟩
  · rwa [tried_of_error h]
  · rw [tried_of_ok h]
    have hfree := free_of_register h
    obtain ⟨-, n, -, -, rfl⟩ := register_eq_ok_iff.1 h
    unfold Distinct
    rw [List.map_append]
    refine ht.append (List.nodup_singleton _) (List.disjoint_singleton.2 fun hmem => ?_)
    obtain ⟨type, htype, hname⟩ := List.mem_map.1 hmem
    exact find?_eq_none_iff.1 hfree type htype hname

/-- **Names stay distinct**, whatever is tried. -/
theorem Distinct.triedAll (ht : t.Distinct) (calls : List (String × Value)) :
    (t.triedAll calls).Distinct := by
  induction calls generalizing t with
  | nil => exact ht
  | cons e calls ih => exact ih (ht.tried e.1 e.2)

/-- The type of a name, if no two types have one name. -/
theorem Distinct.find?_eq_some_iff (ht : t.Distinct) :
    t.find? name = some type ↔ type ∈ t.types ∧ type.name = name := by
  constructor
  · intro h
    exact ⟨List.mem_of_find?_eq_some h, by simpa using List.find?_some h⟩
  · intro hex
    obtain ⟨hmem, rfl⟩ := hex
    cases hfound : t.find? type.name with
    | none => exact absurd rfl (find?_eq_none_iff.1 hfound type hmem)
    | some other =>
      have hname : other.name = type.name := by simpa using List.find?_some hfound
      rw [List.inj_on_of_nodup_map ht (List.mem_of_find?_eq_some hfound) hmem hname]

/-- A type that is there is there after a run. -/
theorem find?_triedAll (ht : t.Distinct) (h : t.find? name = some type)
    (calls : List (String × Value)) : (t.triedAll calls).find? name = some type := by
  obtain ⟨hmem, hname⟩ := ht.find?_eq_some_iff.1 h
  refine (ht.triedAll calls).find?_eq_some_iff.2 ⟨?_, hname⟩
  rw [types_triedAll]
  exact List.mem_append_left _ hmem

/-- **What is found after a run** of a registry that had no type of the name: what the first call of
    the name makes that succeeds. -/
theorem find?_triedAll_iff (ht : t.Distinct) (hfree : t.find? name = none)
    (calls : List (String × Value)) : (t.triedAll calls).find? name = some type ↔
      type.name = name ∧ ∃ before, Makes t calls before type ∧
        ∀ b id a, before = b ++ (name, id) :: a →
          ∃ r, (t.triedAll b).register name id = .error r := by
  rw [(ht.triedAll calls).find?_eq_some_iff, types_triedAll, List.mem_append, mem_made_iff,
    and_comm]
  refine and_congr_right fun hname => ⟨fun hor => ?_, fun hex => ?_⟩
  · have hother : type ∉ t.types := fun hmem => find?_eq_none_iff.1 hfree type hmem hname
    obtain ⟨before, hmakes⟩ := hor.resolve_left hother
    refine ⟨before, hmakes, fun b id a hbefore => ?_⟩
    obtain ⟨id', after, t', -, hregister, -⟩ := hmakes
    -- had an earlier call of the name succeeded, the name would be taken
    rcases hearlier : (t.triedAll b).register name id with r | ⟨other, u⟩
    · exact ⟨r, rfl⟩
    · have htaken : ((t.triedAll b).tried name id).find? name = some other := by
        rw [tried_of_ok hearlier]
        exact find?_register hearlier
      have hstill := find?_triedAll ((ht.triedAll b).tried name id) htaken a
      have hsplit : t.triedAll before = ((t.triedAll b).tried name id).triedAll a := by
        rw [hbefore, triedAll_append]
        rfl
      rw [← hsplit, ← hname, free_of_register hregister] at hstill
      cases hstill
  · obtain ⟨before, hmakes, -⟩ := hex
    exact .inr ⟨before, hmakes⟩

/-- **What is not found after a run**: a name whose calls all fail. -/
theorem find?_triedAll_eq_none_iff (hfree : t.find? name = none) (calls : List (String × Value)) :
    (t.triedAll calls).find? name = none ↔ ∀ before id after,
      calls = before ++ (name, id) :: after →
        ∃ r, (t.triedAll before).register name id = .error r := by
  rw [find?_eq_none_iff, types_triedAll]
  constructor
  · intro hnone before id after hcalls
    rcases h : (t.triedAll before).register name id with r | ⟨type, t'⟩
    · exact ⟨r, rfl⟩
    · obtain ⟨rfl, hid, -⟩ := of_register h
      have hmade : type ∈ t.made calls := mem_made_iff.2 ⟨before, id, after, t', hcalls, h, hid⟩
      exact absurd rfl (hnone type (List.mem_append_right _ hmade))
  · intro hfails type hmem hname
    rcases List.mem_append.1 hmem with hmem | hmem
    · exact find?_eq_none_iff.1 hfree type hmem hname
    · obtain ⟨before, id, after, t', hcalls, hregister, -⟩ := mem_made_iff.1 hmem
      rw [hname] at hcalls hregister
      obtain ⟨r, hr⟩ := hfails before id after hcalls
      rw [hregister] at hr
      cases hr

/-- **The names are listed in order**, each once. -/
theorem Distinct.names (ht : t.Distinct) :
    t.names.Pairwise (· < ·) ∧ t.names.length = t.types.length ∧
      ∀ name, name ∈ t.names ↔ ∃ type, t.find? name = some type := by
  refine ⟨Named.pairwise_lt_sort ht, ?_, fun name => ?_⟩
  · unfold VoxelTypes.names Named.sort
    rw [List.length_mergeSort, List.length_map]
  · unfold VoxelTypes.names Named.sort
    rw [List.mem_mergeSort, List.mem_map]
    exact exists_congr fun type => ht.find?_eq_some_iff.symm

/-! ## 4. The entries of a map -/

/-- Registers a type under a key of a map. Under a key that is no text it is checked and counted. -/
def enterKey (t : VoxelTypes) (key id : Value) : Except Refusal VoxelTypes :=
  match key with
  | .text name => (t.register name id).map (·.2)
  | key => (idFor key.plain id).map fun _ => { t with unnamed := t.unnamed + 1 }

/-- **The entries of a map are registered in order.** -/
theorem registerAll_eq_foldlM : ∀ {es : List (Value × Value)} {t : VoxelTypes},
    t.registerAll es = es.foldlM (fun t e => t.enterKey e.1 e.2) t
  | [], _ => rfl
  | (key, id) :: es, t => by
    rw [List.foldlM_cons]
    cases key with
    | text name =>
      rw [registerAll, enterKey]
      rcases t.register name id with r | ⟨type, t'⟩
      · rfl
      · exact registerAll_eq_foldlM
    | _ =>
      rw [registerAll, enterKey]
      · rcases idFor _ id with r | n
        · rfl
        · exact registerAll_eq_foldlM
      · nofun
      · nofun

/-- **The entries of a map are refused exactly if one of them is**, after those before it were
    registered. -/
theorem registerAll_eq_error_iff {es : List (Value × Value)} {r : Refusal} :
    t.registerAll es = .error r ↔ ∃ before e after u, es = before ++ e :: after ∧
      t.registerAll before = .ok u ∧ u.enterKey e.1 e.2 = .error r := by
  rw [registerAll_eq_foldlM, Attempt.foldlM_eq_error_iff]
  simp only [registerAll_eq_foldlM]

/-- The entries of a map that have a text for a key. -/
def named (es : List (Value × Value)) : List (String × Value) :=
  es.filterMap fun e => match e.1 with
    | .text name => some (name, e.2)
    | _ => none

/-- What is registered depends on the types that are listed. -/
theorem register_of_types_eq {u : VoxelTypes} (h : t.types = u.types) :
    (t.register name id).map (·.1) = (u.register name id).map (·.1) ∧
      (t.tried name id).types = (u.tried name id).types := by
  unfold tried register find?
  rw [h]
  cases (u.types.find? (·.name == name)).isSome with
  | true => exact ⟨rfl, h⟩
  | false =>
    cases idFor name id with
    | error r => exact ⟨rfl, h⟩
    | ok n => exact ⟨rfl, rfl⟩

theorem types_triedAll_of_types_eq {u : VoxelTypes} (h : t.types = u.types)
    (calls : List (String × Value)) : (t.triedAll calls).types = (u.triedAll calls).types := by
  induction calls generalizing t u with
  | nil => exact h
  | cons e calls ih => exact ih (register_of_types_eq h).2

/-- **What the entries of a map come to**: those with texts for keys are registered, and all of them
    are counted. -/
theorem registerAll_ok {es : List (Value × Value)} (h : t.registerAll es = .ok t') :
    t'.types = (t.triedAll (named es)).types ∧
      t'.types.length = t.types.length + (named es).length ∧ t'.size = t.size + es.length := by
  fun_induction VoxelTypes.registerAll t es with
  | case1 =>
    cases h
    exact ⟨rfl, rfl, rfl⟩
  | case2 t name id es ih =>
    rcases hregister : t.register name id with r | ⟨type, u⟩
    · rw [hregister] at h
      cases h
    · rw [hregister] at h
      obtain ⟨htypes, hlength, hsize⟩ := ih u h
      have htried : t.tried name id = u := tried_of_ok hregister
      obtain ⟨-, n, -, -, rfl⟩ := register_eq_ok_iff.1 hregister
      have hnamed : named ((.text name, id) :: es) = (name, id) :: named es := rfl
      refine ⟨?_, ?_, ?_⟩
      · rw [htypes, ← htried]
        rfl
      · rw [hlength, hnamed]
        simp only [List.length_append, List.length_cons, List.length_nil]
        omega
      · rw [hsize]
        simp only [size, List.length_append, List.length_cons, List.length_nil]
        omega
  | case3 t key id es hkey ih =>
    cases hn : idFor key.plain id with
    | error r =>
      rw [hn] at h
      cases h
    | ok n =>
      rw [hn] at h
      obtain ⟨htypes, hlength, hsize⟩ := ih h
      have hnamed : named ((key, id) :: es) = named es := by
        unfold named
        rw [List.filterMap_cons]
        split
        · rfl
        · rename_i hsome
          split at hsome
          · rename_i name he
            exact absurd he (hkey name)
          · cases hsome
      have hsame : { t with unnamed := t.unnamed + 1 }.types = t.types := rfl
      refine ⟨?_, by rw [hlength, hnamed], ?_⟩
      · rw [htypes, hnamed]
        exact types_triedAll_of_types_eq hsame _
      · rw [hsize]
        simp only [size, List.length_cons]
        omega

/-! ## 5. The whole of a history -/

/-- What a registration comes to that is tried. -/
structure Settles (t : VoxelTypes) (name : String) (id : Value) : Prop where
  /-- Step by step it comes to the same as at once. -/
  result : ((enter name id).run t).1 = (t.register name id).map (·.1)
  /-- It succeeds exactly if the name is free and the value writes a whole number that is an id. -/
  succeeds_iff : (∃ type t', (enter name id).run t = (.ok type, t')) ↔
    t.find? name = none ∧ ∃ n : Nat, id.integer? = .ok (n : Int) ∧ n ≤ maxId
  /-- What it makes has the name and the number. -/
  makes : ∀ type t', (enter name id).run t = (.ok type, t') →
    type.name = name ∧ id.integer? = .ok (type.id : Int)
  /-- If it is refused, for whatever reason, the registry is what it was. -/
  kept : ∀ r t', (enter name id).run t = (.error r, t') → t' = t
  /-- The next call finds the registry as this one leaves it. -/
  next : ((enter name id).run t).2 = t.tried name id

theorem settles (t : VoxelTypes) (name : String) (id : Value) : Settles t name id := by
  have hrun := run_enter t name id
  have hiff : (∃ r, t.register name id = .ok r) ↔ _ := exists_register_iff
  rcases h : t.register name id with r | ⟨type, t'⟩
  · rw [h] at hrun hiff
    refine ⟨by rw [hrun, h]; rfl, ?_, ?_, ?_, ?_⟩
    · rw [hrun, ← hiff]
      exact ⟨nofun, nofun⟩
    · intro type u hok
      rw [hrun] at hok
      cases hok
    · intro r' u herror
      rw [hrun] at herror
      cases herror
      rfl
    · rw [hrun, tried_of_error h]
  · rw [h] at hrun hiff
    refine ⟨by rw [hrun, h]; rfl, ?_, ?_, ?_, ?_⟩
    · rw [hrun, ← hiff]
      exact ⟨fun _ => ⟨_, rfl⟩, fun _ => ⟨_, _, rfl⟩⟩
    · intro made u hok
      rw [hrun] at hok
      cases hok
      obtain ⟨hname, hid, -⟩ := of_register h
      exact ⟨hname, hid⟩
    · intro r u herror
      rw [hrun] at herror
      cases herror
    · rw [hrun, tried_of_ok h]

/-- A call of a run that is refused. -/
def Refused (t : VoxelTypes) (before : List (String × Value)) (name : String) (id : Value) : Prop :=
  ∃ r, (t.triedAll before).register name id = .error r

/-- All keys of a map are texts. -/
def Texts (es : List (Value × Value)) : Prop := ∀ e ∈ es, ∃ name, e.1 = .text name

theorem length_named {es : List (Value × Value)} (h : Texts es) : (named es).length = es.length := by
  induction es with
  | nil => rfl
  | cons e es ih =>
    obtain ⟨⟨name, hname⟩, hrest⟩ := List.forall_mem_cons.1 h
    obtain ⟨key, id⟩ := e
    cases hname
    exact congrArg (· + 1) (ih hrest)

/-- What a registry answers that was made from the entries of a map and has seen a history. Names
    are listed as texts, so what is listed is told of maps whose keys are texts. -/
structure Records (es : List (Value × Value)) (history : List (String × Value))
    (t₀ : VoxelTypes) : Prop where
  /-- What each call of the history comes to. -/
  settled : ∀ before name id after, history = before ++ (name, id) :: after →
    Settles (t₀.triedAll before) name id
  /-- A name has the type that its first call made that was not refused. -/
  found_iff : ∀ name type, (t₀.triedAll history).find? name = some type ↔
    type.name = name ∧ ∃ before, Makes empty (named es ++ history) before type ∧
      ∀ b id a, before = b ++ (name, id) :: a → Refused empty b name id
  /-- A name has no type if all of its calls were refused. -/
  missing_iff : ∀ name, (t₀.triedAll history).find? name = none ↔
    ∀ before id after, named es ++ history = before ++ (name, id) :: after →
      Refused empty before name id
  /-- The types are counted. -/
  counted : (t₀.triedAll history).size = es.length + (t₀.made history).length
  /-- The names are listed in order. -/
  ordered : Texts es → (t₀.triedAll history).names.Pairwise (· < ·)
  /-- The names that are listed are those that have a type. -/
  listed : Texts es → ∀ name, name ∈ (t₀.triedAll history).names ↔
    ∃ type, (t₀.triedAll history).find? name = some type
  /-- As many names are listed as there were entries, and calls that succeeded. -/
  complete : Texts es →
    (t₀.triedAll history).names.length = es.length + (t₀.made history).length

/-- **The history of a registry**, with any entries of a map and any calls. The map is registered
    entry by entry, and refused exactly if one entry is. If it is not, every call is settled by the
    registry it meets, and after all of them the registry answers what the calls say. -/
theorem history_recorded (es : List (Value × Value)) (history : List (String × Value)) :
    empty.registerAll es = es.foldlM (fun t e => t.enterKey e.1 e.2) empty ∧
    (∀ r, empty.registerAll es = .error r ↔ ∃ before e after u, es = before ++ e :: after ∧
      empty.registerAll before = .ok u ∧ u.enterKey e.1 e.2 = .error r) ∧
    ∀ t₀, empty.registerAll es = .ok t₀ → Records es history t₀ := by
  refine ⟨registerAll_eq_foldlM, fun r => registerAll_eq_error_iff, fun t₀ h₀ => ?_⟩
  obtain ⟨htypes₀, hlength₀, hsize₀⟩ := registerAll_ok h₀
  have htypes : (t₀.triedAll history).types = (empty.triedAll (named es ++ history)).types := by
    rw [types_triedAll_of_types_eq htypes₀, ← triedAll_append]
  have hdistinct : (t₀.triedAll history).Distinct := by
    unfold Distinct
    rw [htypes]
    exact distinct_empty.triedAll _
  have hfind (name : String) :
      (t₀.triedAll history).find? name = (empty.triedAll (named es ++ history)).find? name := by
    unfold find?
    rw [htypes]
  have hmade : (t₀.triedAll history).types = t₀.types ++ t₀.made history := types_triedAll
  refine ⟨fun before name id after _ => settles _ name id, fun name type => ?_, fun name => ?_, ?_,
    fun _ => hdistinct.names.1, fun _ => hdistinct.names.2.2, fun htexts => ?_⟩
  · rw [hfind]
    exact find?_triedAll_iff distinct_empty (find?_empty name) _
  · rw [hfind]
    exact find?_triedAll_eq_none_iff (find?_empty name) _
  · rw [size] at hsize₀ ⊢
    rw [hmade, unnamed_triedAll, List.length_append]
    have hempty : empty.size = 0 := rfl
    omega
  · rw [hdistinct.names.2.1, hmade, List.length_append, hlength₀, length_named htexts]
    exact congrArg (· + _) (Nat.zero_add _)

/-- A registry with one type is asked to register a second type of that name, an id in digit groups,
    one that is too great, none, a truth value and a name again. -/
theorem history_recorded_lava :
    empty.registerAll [(.text "stone", .int 7)] = .ok ⟨[⟨"stone", 7⟩], 0⟩ ∧
    Records [(.text "stone", .int 7)]
      [("stone", .int 9), ("lava", .text " 8_0 "), ("ash", .int 70000), ("ash", .null),
        ("ash", .bool true), ("lava", .int 1)] ⟨[⟨"stone", 7⟩], 0⟩ := by
  have h : empty.registerAll [(.text "stone", .int 7)] = .ok ⟨[⟨"stone", 7⟩], 0⟩ := by decide
  exact ⟨h, (history_recorded _ _).2.2 _ h⟩

end Terrain.VoxelTypes
