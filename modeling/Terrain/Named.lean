/-!
# Things by name

A collection of things by name, in the order in which the names came. A name stands for one thing:
putting another under it replaces the thing and keeps the place.
-/

namespace Terrain

/-- Things by name. -/
abbrev Named (α : Type) := List (String × α)

namespace Named

variable {α : Type}

/-- The thing of a name. -/
def get? (m : Named α) (name : String) : Option α := (m.find? (·.1 == name)).map (·.2)

/-- The collection with a thing put under a name. -/
def put (m : Named α) (name : String) (a : α) : Named α :=
  match m with
  | [] => [(name, a)]
  | e :: es => if e.1 = name then (name, a) :: es else e :: put es name a

/-- The names in the order they came. -/
def names (m : Named α) : List String := m.map (·.1)

/-- Names in the order of their characters. -/
def sort (names : List String) : List String := names.mergeSort fun a b => !(b < a)

/-- The collection in the order of its names. -/
def sorted (m : Named α) : Named α := m.mergeSort fun a b => !(b.1 < a.1)

@[simp] theorem get?_put_self (m : Named α) (name : String) (a : α) :
    (m.put name a).get? name = some a := by
  induction m with
  | nil => simp [put, get?]
  | cons e es ih =>
    unfold put
    split
    · simp [get?]
    · rename_i h
      simpa [get?, h] using ih

theorem get?_put_of_ne (m : Named α) {name other : String} (h : other ≠ name) (a : α) :
    (m.put name a).get? other = m.get? other := by
  induction m with
  | nil => simp [put, get?, h.symm]
  | cons e es ih =>
    unfold put
    split
    · rename_i he
      subst he
      simp [get?, h.symm]
    · by_cases ho : e.1 = other
      · simp [get?, ho]
      · simpa [get?, ho] using ih

end Named
end Terrain
