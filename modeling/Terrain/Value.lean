import Terrain.Number.Numeral
import Terrain.Number.Shortest

/-!
# Values of documents

Profiles and configurations are documents: trees of null, truth values, whole numbers, doubles,
texts, lists and maps. A whole number and a double are different values, however equal they are as
numbers, because a document is judged by the types it uses.

* A reader of configurations may know of more values, such as dates. They are told by what can be
  asked of them (`Other`).
* A map keeps its entries in the order of their first writing; a key written again replaces the
  value (`put`).
* `typeName` is the name of a value's type in messages, `shown` the text of a value in a message,
  in which texts are quoted, and `plain` the same with a text on its own left as it is.
-/

namespace Terrain

/-- A value of a type that documents have no notation of their own for: the name of its type, what
    tells it from others as a key, whether it stands for nothing, its texts in a message and on its
    own, whether these can be written, and what is made of it as a number and as a path. -/
structure Value.Other where
  type : String
  identity : String
  isVoid : Bool
  shown : String
  plain : String
  writable : Bool
  integer : Except String Int
  float : Except String Float
  noPath : String
  deriving Inhabited, Repr

/-- A value of a document. -/
inductive Value where
  | null
  | bool (b : Bool)
  | int (n : Int)
  | float (x : Float)
  | text (s : String)
  | list (items : List Value)
  | map (entries : List (Value × Value))
  | other (o : Value.Other)
  deriving Inhabited, Repr

namespace Value

/-! ## 1. Types -/

/-- The types of values. -/
inductive Form where
  | null
  | bool
  | int
  | float
  | text
  | list
  | map
  | other (type : String)
  deriving DecidableEq, Repr

/-- The type of a value. -/
def form : Value → Form
  | .null => .null
  | .bool _ => .bool
  | .int _ => .int
  | .float _ => .float
  | .text _ => .text
  | .list _ => .list
  | .map _ => .map
  | .other o => .other o.type

/-- The name of a type in messages. -/
def Form.name : Form → String
  | .null => "NoneType"
  | .bool => "bool"
  | .int => "int"
  | .float => "float"
  | .text => "str"
  | .list => "list"
  | .map => "dict"
  | .other type => type

/-- The name of a value's type in messages. -/
def typeName (v : Value) : String := v.form.name

/-! ## 2. Maps -/

/-- The number a key counts as: truth values, whole numbers and doubles of one worth are one
    key. -/
def worth? : Value → Option (Sum Int Float)
  | .bool b => some (.inl (if b then 1 else 0))
  | .int n => some (.inl n)
  | .float x =>
    match Number.whole? x with
    | some n => some (.inl n)
    | none => some (.inr x)
  | _ => none

/-- Whether two scalars are one key of a map. All doubles that are no number are one key. -/
def sameKey (a b : Value) : Bool :=
  match a, b with
  | .null, .null => true
  | .text s, .text t => s == t
  | .other o, .other p => o.identity == p.identity
  | a, b =>
    match a.worth?, b.worth? with
    | some (.inl m), some (.inl n) => m == n
    | some (.inr x), some (.inr y) => x == y || (x.isNaN && y.isNaN)
    | _, _ => false

/-- The entries with a value put under a key: in the place of the key if it is there, and last if
    it is not. -/
def put (key value : Value) : List (Value × Value) → List (Value × Value)
  | [] => [(key, value)]
  | e :: es => if sameKey e.1 key then (e.1, value) :: es else e :: put key value es

/-- The value under a text key. -/
def lookup (key : String) (entries : List (Value × Value)) : Option Value :=
  (entries.find? fun e => match e.1 with | .text s => s == key | _ => false).map (·.2)

/-- A value that stands for nothing: null, no, zero, or an empty text, list or map. -/
def isVoid : Value → Bool
  | .null => true
  | .bool b => !b
  | .int n => n == 0
  | .float x => x == 0.0
  | .text s => s.isEmpty
  | .list items => items.isEmpty
  | .map entries => entries.isEmpty
  | .other o => o.isVoid

/-! ## 3. Values in messages -/

/-- Doubles in messages: positional from a ten-thousandth up to below `10 ^ 16`, and two digits
    at least in a power of ten. -/
def layout : Number.Layout := ⟨-4, 16, 2, "nan", "inf"⟩

/-- A text between quotes. -/
def quotedString (s : String) : String := String.ofList (Text.quoted s.toList)

mutual
/-- The text of a value, texts between quotes. -/
def shown : Value → String
  | .null => "None"
  | .bool b => if b then "True" else "False"
  | .int n => toString n
  | .float x => layout.float x
  | .text s => quotedString s
  | .list items => "[" ++ String.intercalate ", " (shownItems items) ++ "]"
  | .map entries => "\x7b" ++ String.intercalate ", " (shownEntries entries) ++ "\x7d"
  | .other o => o.shown

/-- The texts of the items of a list. -/
def shownItems : List Value → List String
  | [] => []
  | v :: vs => shown v :: shownItems vs

/-- The texts of the entries of a map. -/
def shownEntries : List (Value × Value) → List String
  | [] => []
  | (k, v) :: es => (shown k ++ ": " ++ shown v) :: shownEntries es
end

mutual
/-- Whether a value cannot be written, as where it holds a whole number with too many digits. -/
def exceedsDigits : Value → Bool
  | .int n => Number.tenTo Number.digitLimit ≤ n.natAbs
  | .list items => anyExceeds items
  | .map entries => anyEntryExceeds entries
  | .other o => !o.writable
  | _ => false

/-- The same for the items of a list. -/
def anyExceeds : List Value → Bool
  | [] => false
  | v :: vs => exceedsDigits v || anyExceeds vs

/-- The same for the entries of a map. -/
def anyEntryExceeds : List (Value × Value) → Bool
  | [] => false
  | (k, v) :: es => exceedsDigits k || exceedsDigits v || anyEntryExceeds es
end

/-- The text of a value on its own: a text as it is, any other value as in messages. -/
def plain : Value → String
  | .text s => s
  | .other o => o.plain
  | v => shown v

end Value
end Terrain
