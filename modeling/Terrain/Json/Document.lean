import Terrain.Json.Token
import Terrain.Text.Lines

/-!
# JSON documents

`Json.read` reads a JSON text as a value. It walks over the tokens once, with the lists and maps
that are open on a stack (`Frame`) and what must come next (`Expected`).

* The first token that is not what must come next ends the reading, with a complaint and its
  place (`Refusal`).
* More open lists and maps than the limit end the reading at the one too many, whatever follows.
* Of two entries with one name the last counts.
-/

namespace Terrain.Json

open Terrain.Text

/-! ## 1. Refusals -/

/-- What a reader of JSON puts up with: open lists and maps, and digits of a whole number. -/
structure Limits where
  nesting : Nat
  digits : Nat

/-- The nesting that a reader of profiles puts up with. -/
def nestingLimit : Nat := 900

/-- Why a text is not read. -/
inductive Refusal where
  | malformed (what : Complaint) (place : Place)
  | tooDeep
  | tooManyDigits (count : Nat)
  deriving DecidableEq, Repr

/-- A complaint in words. -/
def Complaint.message : Complaint → String
  | .expectingValue => "Expecting value"
  | .expectingName => "Expecting property name enclosed in double quotes"
  | .expectingColon => "Expecting ':' delimiter"
  | .expectingComma => "Expecting ',' delimiter"
  | .extraData => "Extra data"
  | .unterminatedText => "Unterminated string starting at"
  | .controlCharacter => "Invalid control character at"
  | .badEscape => "Invalid \\escape"
  | .badUnicodeEscape => "Invalid \\uXXXX escape"
  | .byteOrderMark => "Unexpected UTF-8 BOM (decode using utf-8-sig)"

/-- A complaint and its place in words: lines and columns count from one, characters from zero. -/
def Complaint.at (what : Complaint) (p : Place) : String :=
  what.message ++ ": line " ++ toString p.line ++ " column " ++ toString p.column ++
    " (char " ++ toString p.offset ++ ")"

/-! ## 2. The walk over the tokens -/

/-- A list or map that is open: what it holds so far, the items of a list in reverse, and the name
    whose value a map waits for. -/
inductive Frame where
  | list (items : List Value)
  | map (entries : List (Value × Value)) (name : String)

/-- What must come next. -/
inductive Expected where
  | value
  | firstItem
  | firstName
  | name
  | colon
  | delimiter
  | finish (v : Value)

/-- Where the walk stands. -/
structure Walk where
  frames : List Frame
  expected : Expected

/-- Why the walk ends early. -/
inductive Stop where
  | fault (f : Fault)
  | tooDeep
  | tooManyDigits (count : Nat)

/-- A value is complete: it goes into the list or map that is open, or is the document. -/
def Walk.complete (v : Value) : List Frame → Walk
  | [] => ⟨[], .finish v⟩
  | .list items :: fs => ⟨.list (v :: items) :: fs, .delimiter⟩
  | .map entries name :: fs => ⟨.map (Value.put (.text name) v entries) "" :: fs, .delimiter⟩

/-- The value of a frame that is closed. -/
def Frame.value : Frame → Value
  | .list items => .list items.reverse
  | .map entries _ => .map entries

/-- A list or map is opened, if the limit allows one more. -/
def Walk.push (nesting : Nat) (frames : List Frame) (f : Frame) (e : Expected) :
    Except Stop Walk :=
  if nesting ≤ frames.length then .error .tooDeep else .ok ⟨f :: frames, e⟩

/-- A token where a value must start. -/
def Walk.startValue (nesting : Nat) (frames : List Frame) (t : Token) : Except Stop Walk :=
  match t.content with
  | .openList => Walk.push nesting frames (.list []) .firstItem
  | .openMap => Walk.push nesting frames (.map [] "") .firstName
  | .scalar v => .ok (Walk.complete v frames)
  | .text (.ok s) => .ok (Walk.complete (.text s) frames)
  | .text (.error f) => .error (.fault f)
  | .longNumber n => .error (.tooManyDigits n)
  | _ => .error (.fault ⟨.expectingValue, t.rest⟩)

/-- A token where the name of an entry must stand. -/
def Walk.readName (frames : List Frame) (t : Token) : Except Stop Walk :=
  match t.content, frames with
  | .text (.ok s), .map entries _ :: fs => .ok ⟨.map entries s :: fs, .colon⟩
  | .text (.error f), _ => .error (.fault f)
  | _, _ => .error (.fault ⟨.expectingName, t.rest⟩)

/-- One token of the walk. -/
def Walk.step (nesting : Nat) (w : Walk) (t : Token) : Except Stop Walk :=
  match w.expected with
  | .value => Walk.startValue nesting w.frames t
  | .firstItem =>
    match t.content, w.frames with
    | .closeList, f :: fs => .ok (Walk.complete f.value fs)
    | _, _ => Walk.startValue nesting w.frames t
  | .firstName =>
    match t.content, w.frames with
    | .closeMap, f :: fs => .ok (Walk.complete f.value fs)
    | _, _ => Walk.readName w.frames t
  | .name => Walk.readName w.frames t
  | .colon =>
    match t.content with
    | .colon => .ok ⟨w.frames, .value⟩
    | _ => .error (.fault ⟨.expectingColon, t.rest⟩)
  | .delimiter =>
    match t.content, w.frames with
    | .comma, .list _ :: _ => .ok ⟨w.frames, .value⟩
    | .comma, .map _ _ :: _ => .ok ⟨w.frames, .name⟩
    | .closeList, .list items :: fs => .ok (Walk.complete (.list items.reverse) fs)
    | .closeMap, .map entries _ :: fs => .ok (Walk.complete (.map entries) fs)
    | _, _ => .error (.fault ⟨.expectingComma, t.rest⟩)
  | .finish _ =>
    match t.content with
    | .finish => .ok w
    | _ => .error (.fault ⟨.extraData, t.rest⟩)

/-! ## 3. Reading -/

/-- The value of a JSON text. A byte order mark is no part of one. -/
def read (limits : Limits) (t : Text) : Except Refusal Value :=
  let place (rest : Text) := placeAt t (t.length - rest.length)
  if t.head? = some (Char.ofNat 0xFEFF) then .error (.malformed .byteOrderMark (placeAt t 0))
  else
    match (tokens limits.digits t).foldlM (Walk.step limits.nesting) ⟨[], .value⟩ with
    | .ok ⟨_, .finish v⟩ => .ok v
    | .ok _ => .error (.malformed .expectingValue (place []))
    | .error (.fault f) => .error (.malformed f.what (place f.rest))
    | .error .tooDeep => .error .tooDeep
    | .error (.tooManyDigits n) => .error (.tooManyDigits n)

end Terrain.Json
