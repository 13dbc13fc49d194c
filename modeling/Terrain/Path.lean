import Terrain.Value

/-!
# Paths

A path is a root and the names on the way from it. Repeated slashes and single dots say nothing
and are left out; two dots stay, for what they mean depends on the files.

* Two slashes at the start are a root of their own; one, or more than two, are the plain root.
* The text of a path with neither root nor names is a single dot.
-/

namespace Terrain

/-- A path: its root (nothing, one slash or two), and the names after it. -/
structure Path where
  root : String
  parts : List String
  deriving DecidableEq, Repr

namespace Path

/-- The pieces of a text between slashes. -/
def segments : Text → List Text
  | [] => [[]]
  | c :: r =>
    if c = '/' then [] :: segments r
    else
      match segments r with
      | [] => [[c]]
      | p :: ps => (c :: p) :: ps

/-- The root of a text. -/
def rootOf (t : Text) : String :=
  match (t.takeWhile (· = '/')).length with
  | 0 => ""
  | 2 => "//"
  | _ => "/"

/-- The path of a text. -/
def ofText (t : Text) : Path :=
  ⟨rootOf t, ((segments t).filter fun s => !s.isEmpty && s != ['.']).map String.ofList⟩

/-- The path of a string. -/
def ofString (s : String) : Path := ofText s.toList

/-- The text of a path. -/
def text (p : Path) : String :=
  if p.root.isEmpty && p.parts.isEmpty then "." else p.root ++ String.intercalate "/" p.parts

/-- A path followed from another; one with a root of its own is followed from there. -/
def join (p q : Path) : Path := if q.root.isEmpty then ⟨p.root, p.parts ++ q.parts⟩ else q

/-- A path with one name more. -/
def child (p : Path) (name : String) : Path := ⟨p.root, p.parts ++ [name]⟩

/-- The path without its last name. -/
def parent (p : Path) : Path := ⟨p.root, p.parts.dropLast⟩

/-- The last name of a path. -/
def name (p : Path) : String := p.parts.getLast?.getD ""

/-- A file name without its last ending. A dot at the start or the end makes no ending. -/
def stem (name : String) : String :=
  let reversed := name.toList.reverse
  let ending := reversed.takeWhile (· ≠ '.')
  let before := (reversed.drop ending.length).drop 1
  if ending.isEmpty || before.isEmpty then name else String.ofList before.reverse

/-- The text of a path between quotes. -/
def quoted (p : Path) : String := Value.quotedString p.text

end Path
end Terrain
