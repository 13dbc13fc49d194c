import Terrain.Value

/-!
# Required entries

A document must hold certain keys with values of certain types. A truth value is never taken for a
number.
-/

namespace Terrain.Value

/-- What is wrong with a required entry: it is missing, or its value has another type. -/
inductive Lack where
  | missing (key what : String)
  | mistyped (key what : String) (found : Form) (expected : List Form)
  deriving DecidableEq, Repr

/-- The lack in words. -/
def Lack.message : Lack → String
  | .missing key what => "Missing required key '" ++ key ++ "' in " ++ what
  | .mistyped key what found expected =>
    "Key '" ++ key ++ "' in " ++ what ++ " has type " ++ found.name ++ ", expected " ++
      String.intercalate " or " (expected.map Form.name)

/-- The value under a key, which must be there and be of one of the expected types. -/
def require (entries : List (Value × Value)) (key : String) (expected : List Form)
    (what : String) : Except Lack Value :=
  match lookup key entries with
  | none => .error (.missing key what)
  | some v =>
    if v.form ∈ expected then .ok v else .error (.mistyped key what v.form expected)

/-- A required text. -/
def requireText (entries : List (Value × Value)) (key what : String) : Except Lack String :=
  match lookup key entries with
  | none => .error (.missing key what)
  | some (.text s) => .ok s
  | some v => .error (.mistyped key what v.form [.text])

/-- A required number, a whole one or a double. -/
def requireNumber (entries : List (Value × Value)) (key what : String) :
    Except Lack (Int ⊕ Float) :=
  match lookup key entries with
  | none => .error (.missing key what)
  | some (.int n) => .ok (.inl n)
  | some (.float x) => .ok (.inr x)
  | some v => .error (.mistyped key what v.form [.int, .float])

/-- A required list. -/
def requireList (entries : List (Value × Value)) (key what : String) :
    Except Lack (List Value) :=
  match lookup key entries with
  | none => .error (.missing key what)
  | some (.list items) => .ok items
  | some v => .error (.mistyped key what v.form [.list])

/-- A required text is a required value of the type of texts. -/
theorem require_text (entries : List (Value × Value)) (key what : String) :
    require entries key [.text] what = (requireText entries key what).map .text := by
  unfold require requireText
  cases lookup key entries with
  | none => rfl
  | some v => cases v <;> rfl

/-- A required number is a required value of the types of numbers. -/
theorem require_number (entries : List (Value × Value)) (key what : String) :
    require entries key [.int, .float] what =
      (requireNumber entries key what).map (Sum.elim .int .float) := by
  unfold require requireNumber
  cases lookup key entries with
  | none => rfl
  | some v => cases v <;> rfl

/-- A required list is a required value of the type of lists. -/
theorem require_list (entries : List (Value × Value)) (key what : String) :
    require entries key [.list] what = (requireList entries key what).map .list := by
  unfold require requireList
  cases lookup key entries with
  | none => rfl
  | some v => cases v <;> rfl

end Terrain.Value
