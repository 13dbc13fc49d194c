import Terrain.VoxelTypes

/-!
# Registering voxel types

A registry of voxel types is made from a list of types, and then types are registered one after the
other. Some registrations are refused; these change nothing.

* `register_eq_ok_iff`: when a type is registered, and what the registry is then.
* `idOf?_tried`: a name that has an id keeps it.
* `InRange`: every id has sixteen bits. It holds of every registry that can be reached
  (`inRange_of_registerAll`, `InRange.triedAll`).
-/

namespace Terrain.VoxelTypes

variable {t t' : VoxelTypes} {name : String} {id : Value} {type : VoxelType} {n : Nat}

/-! ## 1. Single registrations -/

/-- **When a type is registered**: its name is free and its id is one, and it comes last. -/
theorem register_eq_ok_iff : t.register name id = .ok (type, t') ↔
    (t.find? name).isSome = false ∧ ∃ n, idFor name id = .ok n ∧ type = ⟨name, n⟩ ∧
      t' = { t with types := t.types ++ [⟨name, n⟩] } := by
  unfold register
  cases hfound : (t.find? name).isSome with
  | true => exact ⟨nofun, fun h => nomatch h.1⟩
  | false =>
    cases hid : idFor name id with
    | error r => exact ⟨nofun, fun ⟨_, _, h, _⟩ => nomatch h⟩
    | ok n =>
      constructor
      · intro h
        cases h
        exact ⟨rfl, n, rfl, rfl, rfl⟩
      · intro hex
        obtain ⟨-, m, hm, rfl, rfl⟩ := hex
        cases hm
        rfl

/-- What is registered is found. -/
theorem find?_register (h : t.register name id = .ok (type, t')) : t'.find? name = some type := by
  obtain ⟨hfree, n, -, rfl, rfl⟩ := register_eq_ok_iff.1 h
  unfold find? at hfree ⊢
  rw [List.find?_append, Option.not_isSome_iff_eq_none.1 (Bool.eq_false_iff.1 hfree)]
  simp

/-- An id that a value writes has sixteen bits. -/
theorem idFor_le (h : idFor name id = .ok n) : n ≤ maxId := by
  unfold idFor at h
  cases hint : id.integer? with
  | error u =>
    rw [hint] at h
    cases h
  | ok i =>
    rw [hint] at h
    change (if 0 ≤ i ∧ i ≤ maxId then _ else _) = _ at h
    split at h
    · rename_i hi
      cases h
      omega
    · split at h <;> cases h

/-! ## 2. Registrations one after the other -/

/-- The types after a registration was tried. If it is refused, they are as they were. -/
def tried (t : VoxelTypes) (name : String) (id : Value) : VoxelTypes :=
  match t.register name id with
  | .ok (_, t') => t'
  | .error _ => t

/-- The types after registrations were tried one after the other. -/
def triedAll (t : VoxelTypes) (history : List (String × Value)) : VoxelTypes :=
  history.foldl (fun t e => t.tried e.1 e.2) t

/-- **The first registration of a name counts**: its id is what it was, whatever is tried after. -/
theorem idOf?_tried {w : Text} (h : t.idOf? w = some n) (name : String) (id : Value) :
    (t.tried name id).idOf? w = some n := by
  unfold tried
  split
  · rename_i hregister
    obtain ⟨-, m, -, -, rfl⟩ := register_eq_ok_iff.1 hregister
    obtain ⟨found, hfound, hid⟩ := Option.map_eq_some_iff.1 h
    unfold idOf? find?
    rw [List.find?_append]
    unfold find? at hfound
    rw [hfound, Option.some_or, Option.map_some, hid]
  · exact h

/-- Every id has sixteen bits. -/
def InRange (t : VoxelTypes) : Prop := ∀ type ∈ t.types, type.id ≤ maxId

theorem InRange.register (ht : t.InRange) (h : t.register name id = .ok (type, t')) :
    t'.InRange := by
  obtain ⟨-, n, hn, -, rfl⟩ := register_eq_ok_iff.1 h
  intro v hv
  rcases List.mem_append.1 hv with hv | hv
  · exact ht v hv
  · rw [List.mem_singleton.1 hv]
    exact idFor_le hn

theorem InRange.tried (ht : t.InRange) (name : String) (id : Value) :
    (t.tried name id).InRange := by
  unfold VoxelTypes.tried
  split
  · rename_i h
    exact ht.register h
  · exact ht

/-- **Registrations keep ids in range**, the refused and the others. -/
theorem InRange.triedAll (ht : t.InRange) (history : List (String × Value)) :
    (t.triedAll history).InRange := by
  induction history generalizing t with
  | nil => exact ht
  | cons e history ih => exact ih (ht.tried e.1 e.2)

theorem InRange.registerAll {es : List (Value × Value)} (ht : t.InRange)
    (h : t.registerAll es = .ok t') : t'.InRange := by
  fun_induction VoxelTypes.registerAll t es with
  | case1 =>
    cases h
    exact ht
  | case2 t name id es ih =>
    cases hr : t.register name id with
    | error r =>
      rw [hr] at h
      cases h
    | ok r =>
      rw [hr] at h
      exact ih r.2 (ht.register hr) h
  | case3 t key id es _ ih =>
    -- a type under another key is checked and counted, but it is not listed
    cases hn : idFor key.plain id with
    | error r =>
      rw [hn] at h
      cases h
    | ok n =>
      rw [hn] at h
      exact ih ht h

/-- **The types of a list are in range.** -/
theorem inRange_of_registerAll {es : List (Value × Value)} (h : empty.registerAll es = .ok t) :
    t.InRange :=
  InRange.registerAll (t := empty) nofun h

/-- An id that a formula gets is that of a type. -/
theorem exists_of_idOf? {w : Text} (h : t.idOf? w = some n) : ∃ type ∈ t.types, type.id = n := by
  obtain ⟨type, htype, hid⟩ := Option.map_eq_some_iff.1 h
  exact ⟨type, List.mem_of_find?_eq_some htype, hid⟩

/-- The id of a name is in range. -/
theorem InRange.idOf?_le {w : Text} (ht : t.InRange) (h : t.idOf? w = some n) : n ≤ maxId := by
  obtain ⟨type, htype, rfl⟩ := exists_of_idOf? h
  exact ht type htype

end Terrain.VoxelTypes
