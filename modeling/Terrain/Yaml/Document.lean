import Terrain.Text.Stream
import Terrain.Yaml.Scalar
import Terrain.Yaml.Token

/-!
# Configurations

`Yaml.read` reads a configuration as a value. A configuration is at most one document.

* Lists and maps are shown by their indentation or by brackets; a list under a key may stand at
  the key's own indentation. What is left out is null.
* A key is a scalar; of two entries with one key the last counts. Under the key `<<` a map, or a
  list of maps, gives entries that the map's own entries override.
* A text that is no configuration is refused as such. A scalar that looks like a number and is
  none is refused only if the text is in order otherwise; the outer lists and maps are looked at
  before those in them.
* The readers below take at least one token in two steps, so the number of tokens bounds the
  steps.
-/

namespace Terrain.Yaml

/-! ## 1. Refusals -/

/-- Why a text is not read. -/
inductive Refusal where
  | malformed
  | noCharacter (code : Nat)
  | notText (r : Text.Utf8.Refusal)
  | scalar (r : ScalarRefusal)
  deriving DecidableEq, Repr

/-- Whether the number of a character is beyond signed words of 32 bits. -/
def isBeyondWord (code : Nat) : Bool := 0x7FFFFFFF < code

/-- The refusal in words. -/
def Refusal.message : Refusal → String
  | .malformed => "malformed configuration"
  | .noCharacter code =>
    if isBeyondWord code then "Python int too large to convert to C int"
    else "chr() arg not in range(0x110000)"
  | .notText r => r.message
  | .scalar r => r.message

/-! ## 2. Trees -/

/-- A configuration as it is written, scalars not looked at yet. A map that is to take in the
    entries of what is no map is `unmergeable`. -/
inductive Tree where
  | empty
  | scalar (plain : Bool) (text : Text)
  | list (items : List Tree)
  | map (entries : List (Tree × Tree))
  | unmergeable
  deriving Inhabited

/-- A reader of tokens: what it read, and the tokens left. -/
abbrev Reader (α : Type) := List Token → Except Flaw (α × List Token)

/-- What is wrong where the next token is not one that can stand there. -/
def flawAt : List Token → Flaw
  | .flaw f :: _ => f
  | _ => .malformed

/-- Whether the next token is one of those given. -/
def nextIs (ts : List Token) (among : List Token) : Bool :=
  match ts with
  | t :: _ => among.contains t
  | [] => false

mutual
/-- The tree that starts here. `block` allows lists and maps shown by indentation, `flush` a list
    at the indentation of its key. -/
def readTree (block flush : Bool) : Nat → Reader Tree
  | 0, _ => .error .malformed
  | fuel + 1, ts =>
    match ts with
    | .scalar plain text :: ts => .ok (.scalar plain text, ts)
    | .openList :: ts => do
      let (items, ts) ← readFlowList true fuel ts
      return (.list items, ts)
    | .openMap :: ts => do
      let (entries, ts) ← readFlowMap true fuel ts
      return (.map entries, ts)
    | .listStart :: ts =>
      if block then do
        let (items, ts) ← readBlockList fuel ts
        return (.list items, ts)
      else .error .malformed
    | .mapStart :: ts =>
      if block then do
        let (entries, ts) ← readBlockMap fuel ts
        return (.map entries, ts)
      else .error .malformed
    | .entry :: rest =>
      if flush then do
        let (items, ts) ← readFlushList fuel (.entry :: rest)
        return (.list items, ts)
      else .error .malformed
    | ts => .error (flawAt ts)

/-- The tree that starts here, or nothing before one of the tokens given. -/
def readOptional (block flush : Bool) (before : List Token) : Nat → Reader Tree
  | 0, _ => .error .malformed
  | fuel + 1, ts =>
    if nextIs ts before then .ok (.empty, ts) else readTree block flush fuel ts

/-- The entries of a list shown by its indentation, and its end. -/
def readBlockList : Nat → Reader (List Tree)
  | 0, _ => .error .malformed
  | fuel + 1, ts =>
    match ts with
    | .entry :: ts => do
      let (t, ts) ← readOptional true false [.entry, .blockEnd] fuel ts
      let (more, ts) ← readBlockList fuel ts
      return (t :: more, ts)
    | .blockEnd :: ts => .ok ([], ts)
    | ts => .error (flawAt ts)

/-- The entries of a list at the indentation of its key. -/
def readFlushList : Nat → Reader (List Tree)
  | 0, _ => .error .malformed
  | fuel + 1, ts =>
    match ts with
    | .entry :: ts => do
      let (t, ts) ← readOptional true false [.entry, .key, .value, .blockEnd] fuel ts
      let (more, ts) ← readFlushList fuel ts
      return (t :: more, ts)
    | ts => .ok ([], ts)

/-- The entries of a map shown by its indentation, and its end. -/
def readBlockMap : Nat → Reader (List (Tree × Tree))
  | 0, _ => .error .malformed
  | fuel + 1, ts =>
    match ts with
    | .key :: ts => do
      let (k, ts) ← readOptional true true [.key, .value, .blockEnd] fuel ts
      let (v, ts) ← readBlockValue fuel ts
      let (more, ts) ← readBlockMap fuel ts
      return ((k, v) :: more, ts)
    | .blockEnd :: ts => .ok ([], ts)
    | ts => .error (flawAt ts)

/-- The value of an entry, if there is one. -/
def readBlockValue : Nat → Reader Tree
  | 0, _ => .error .malformed
  | fuel + 1, ts =>
    match ts with
    | .value :: ts => readOptional true true [.key, .value, .blockEnd] fuel ts
    | ts => .ok (.empty, ts)

/-- The entries of a list in brackets, and its end. An entry may be a map of one key. -/
def readFlowList (first : Bool) : Nat → Reader (List Tree)
  | 0, _ => .error .malformed
  | fuel + 1, ts =>
    match ts with
    | .closeList :: ts => .ok ([], ts)
    | ts => do
      let ts ←
        if first then pure ts
        else match ts with
          | .comma :: ts => pure ts
          | ts => throw (flawAt ts)
      match ts with
      | .closeList :: ts => return ([], ts)
      | .key :: ts => do
        let (k, ts) ← readOptional false false [.value, .comma, .closeList] fuel ts
        let (v, ts) ← readFlowValue .closeList fuel ts
        let (more, ts) ← readFlowList false fuel ts
        return (.map [(k, v)] :: more, ts)
      | ts => do
        let (t, ts) ← readTree false false fuel ts
        let (more, ts) ← readFlowList false fuel ts
        return (t :: more, ts)

/-- The entries of a map in brackets, and its end. A key may stand alone. -/
def readFlowMap (first : Bool) : Nat → Reader (List (Tree × Tree))
  | 0, _ => .error .malformed
  | fuel + 1, ts =>
    match ts with
    | .closeMap :: ts => .ok ([], ts)
    | ts => do
      let ts ←
        if first then pure ts
        else match ts with
          | .comma :: ts => pure ts
          | ts => throw (flawAt ts)
      match ts with
      | .closeMap :: ts => return ([], ts)
      | .key :: ts => do
        let (k, ts) ← readOptional false false [.value, .comma, .closeMap] fuel ts
        let (v, ts) ← readFlowValue .closeMap fuel ts
        let (more, ts) ← readFlowMap false fuel ts
        return ((k, v) :: more, ts)
      | ts => do
        let (k, ts) ← readTree false false fuel ts
        let (more, ts) ← readFlowMap false fuel ts
        return ((k, .empty) :: more, ts)

/-- The value of an entry between brackets, if there is one. -/
def readFlowValue (close : Token) : Nat → Reader Tree
  | 0, _ => .error .malformed
  | fuel + 1, ts =>
    match ts with
    | .value :: ts => readOptional false false [.comma, close] fuel ts
    | ts => .ok (.empty, ts)
end

/-- The tokens after directives; a document that has them starts with its mark. -/
def skipDirectives : List Token → List Token
  | .directive :: ts => skipDirectives ts
  | ts => ts

/-- What follows the document may be its end, and nothing else. -/
def finish (t : Tree) (ts : List Token) : Except Flaw (Option Tree) :=
  match ts.dropWhile (· == .documentEnd) with
  | [] => .ok (some t)
  | ts => .error (flawAt (skipDirectives ts))

/-- The tree of a document after its mark. -/
def readContent (fuel : Nat) (ts : List Token) : Except Flaw (Option Tree) := do
  if ts.isEmpty || nextIs ts [.directive, .documentStart, .documentEnd] then finish .empty ts
  else
    let (t, ts) ← readTree true false fuel ts
    finish t ts

/-- The tree of the one document there may be; nothing if there is none. -/
def readDocument (ts : List Token) : Except Flaw (Option Tree) := do
  let fuel := 3 * ts.length + 3
  match ts with
  | [] => return none
  | .documentStart :: ts => readContent fuel ts
  | .directive :: ts =>
    match skipDirectives ts with
    | .documentStart :: ts => readContent fuel ts
    | ts => throw (flawAt ts)
  | ts =>
    let (t, ts) ← readTree true false fuel ts
    finish t ts

/-! ## 3. Maps taken in -/

/-- Whether a tree is the key that takes other maps in. -/
def isMerge : Tree → Bool
  | .scalar true ['<', '<'] => true
  | _ => false

/-- The entries that are taken in from a tree: those of a map, or of the maps of a list, the last
    map first. -/
def takenFrom : Tree → Option (List (Tree × Tree))
  | .map entries => some entries
  | .list items => do
    let maps ← items.mapM fun
      | .map entries => some entries
      | _ => none
    return maps.reverse.flatten
  | _ => none

/-- A map with the entries it takes in before those it has of its own. -/
def takeIn (entries : List (Tree × Tree)) : Tree :=
  match (entries.filter (isMerge ·.1)).mapM (takenFrom ·.2) with
  | some taken => .map (taken.flatten ++ entries.filter (!isMerge ·.1))
  | none => .unmergeable

mutual
/-- The tree with every map taken in where it is asked for. -/
def Tree.merged : Tree → Tree
  | .list items => .list (mergedItems items)
  | .map entries => takeIn (mergedEntries entries)
  | t => t

/-- The same for the items of a list. -/
def mergedItems : List Tree → List Tree
  | [] => []
  | t :: ts => t.merged :: mergedItems ts

/-- The same for the values of a map. -/
def mergedEntries : List (Tree × Tree) → List (Tree × Tree)
  | [] => []
  | (k, t) :: es => (k, t.merged) :: mergedEntries es
end

/-! ## 4. Values -/

/-- A refusal, and how deep the lists and maps are nested that it is met in. A tree is gone through
    level by level, so of two refusals the one that is less deep counts, and at one level the
    first. -/
structure Fault where
  level : Nat
  refusal : Refusal

/-- Two results together. -/
def together {α β γ : Type} (f : α → β → γ) : Except Fault α → Except Fault β → Except Fault γ
  | .ok a, .ok b => .ok (f a b)
  | .ok _, .error e => .error e
  | .error e, .ok _ => .error e
  | .error e, .error e' => .error (if e'.level < e.level then e' else e)

/-- The entries of a map put into it in order, the last of a key counting. -/
def putAll (entries : List (Value × Value)) : List (Value × Value) :=
  entries.foldl (fun m e => Value.put e.1 e.2 m) []

/-- The value of a scalar. -/
def scalarValue (plain : Bool) (t : Text) : Except Refusal Value :=
  if plain then
    match resolve t with
    | .value v => .ok v
    | .refused r => .error (.scalar r)
    | .merge | .equals => .error .malformed
  else .ok (.text (String.ofList t))

/-- The value of a key. The sign of equality is a text there; a list or a map is no key. -/
def keyValue : Tree → Except Refusal Value
  | .empty => .ok .null
  | .scalar true ['='] => .ok (.text "=")
  | .scalar plain t => scalarValue plain t
  | _ => .error .malformed

mutual
/-- The value of a tree that is met at a level; all maps have been taken in. -/
def Tree.value (level : Nat) : Tree → Except Fault Value
  | .empty => .ok .null
  | .scalar plain t => (scalarValue plain t).mapError (⟨level, ·⟩)
  | .list items => (itemValues (level + 1) items).map .list
  | .map entries => (entryValues (level + 1) entries).map fun es => .map (putAll es)
  | .unmergeable => .error ⟨level + 1, .malformed⟩

/-- The values of the items of a list. -/
def itemValues (level : Nat) : List Tree → Except Fault (List Value)
  | [] => .ok []
  | t :: ts => together (· :: ·) (t.value level) (itemValues level ts)

/-- The keys and values of the entries of a map. -/
def entryValues (level : Nat) : List (Tree × Tree) → Except Fault (List (Value × Value))
  | [] => .ok []
  | (k, t) :: es =>
    let entry := together Prod.mk ((keyValue k).mapError (⟨level, ·⟩)) (t.value level)
    together (· :: ·) entry (entryValues level es)
end

/-! ## 5. Reading -/

/-- The refusal of a flaw; `stop` tells why the text could not be read on. -/
def Flaw.refusal (stop : Option Refusal) : Flaw → Refusal
  | .malformed => .malformed
  | .noCharacter n => .noCharacter n
  | .ended => stop.getD .malformed

/-- The value of a configuration text; null if it holds no document. -/
def read (s : Text.Stream Text.Utf8.Refusal) : Except Refusal Value := do
  let s : Text.Stream Refusal := ⟨s.text, s.stop.map .notText⟩
  let s := s.allowing isAllowed .malformed
  match ← (readDocument (tokens s.text s.stop.isSome)).mapError (Flaw.refusal s.stop) with
  | none => return .null
  | some tree => (tree.merged.value 0).mapError (·.refusal)

end Terrain.Yaml
