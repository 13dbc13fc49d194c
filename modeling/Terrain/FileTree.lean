import Terrain.Path
import Terrain.Text.Utf8

/-!
# Trees of files

What the program can read: files with their bytes, and folders. A folder is there if it is listed
or if something lies in it.

* A path without a root is followed from the folder the program works in, any other from the top.
  Two dots lead from a folder to the one it lies in, and from the top to the top.
* A path that cannot be followed or used has an `Obstacle`, the first one met on the way. Names
  and whole paths have a greatest length.
* `makeFolders` makes a folder and those missing on the way to it, one name after the other.
-/

namespace Terrain

/-- Files and folders by the names on the way to them from the top, and the way to the folder that
    the program works in. -/
structure FileTree where
  files : List (List String × List UInt8)
  folders : List (List String)
  base : List String

namespace FileTree

/-! ## 1. Obstacles -/

/-- Why a path cannot be used: nothing is there, something is there already, a name on the way is
    that of a file, a folder is where a file is wanted, a name is too long, or a name holds the
    character that no name can hold. -/
inductive Obstacle where
  | missing
  | taken
  | notFolder
  | isFolder
  | nameTooLong
  | zeroCharacter
  deriving DecidableEq, Repr

/-- The obstacle of a path in words. -/
def Obstacle.message (p : Path) : Obstacle → String
  | .missing => "[Errno 2] No such file or directory: " ++ p.quoted
  | .taken => "[Errno 17] File exists: " ++ p.quoted
  | .notFolder => "[Errno 20] Not a directory: " ++ p.quoted
  | .isFolder => "[Errno 21] Is a directory: " ++ p.quoted
  | .nameTooLong => "[Errno 36] File name too long: " ++ p.quoted
  | .zeroCharacter => "embedded null byte"

/-- The number of bytes of a name or a path. A half in it stands for a byte that is no text. -/
def byteLength (s : String) : Nat :=
  s.toList.foldl
    (fun n c => n + if (Text.half? c).isSome then 1 else (Text.Utf8.encode [c]).length) 0

/-- The most bytes of a name. -/
def longestName : Nat := 255

/-- The most bytes of a path. -/
def longestPath : Nat := 4095

/-- What is wrong with a path whatever the files. -/
def badPath? (p : Path) : Option Obstacle :=
  if p.text.toList.contains (Char.ofNat 0) then some .zeroCharacter
  else if longestPath < byteLength p.text then some .nameTooLong
  else none

/-! ## 2. Following paths -/

/-- Whether something lies at or below a way. -/
def holds (t : FileTree) (way : List String) : Bool :=
  way.isPrefixOf t.base || t.folders.any (way.isPrefixOf ·) || t.files.any (way.isPrefixOf ·.1)

/-- The bytes of the file at a way. -/
def file? (t : FileTree) (way : List String) : Option (List UInt8) :=
  (t.files.find? (·.1 == way)).map (·.2)

/-- Whether there is a folder at a way. -/
def isFolderAt (t : FileTree) (way : List String) : Bool :=
  t.holds way && (t.file? way).isNone

/-- The way one name further: in the folder that the name leads to, or at what has the name. It
    need not lead to anything. -/
def step (t : FileTree) (way : List String) (name : String) : Except Obstacle (List String) :=
  if !t.isFolderAt way then .error .notFolder
  else if longestName < byteLength name then .error .nameTooLong
  else .ok (if name = ".." then way.dropLast else way ++ [name])

/-- Where a path leads from a way, one name after the other. -/
def follow (t : FileTree) (way : List String) : List String → Except Obstacle (List String)
  | [] => .ok way
  | name :: rest => do
    let way ← t.step way name
    if t.holds way then t.follow way rest else throw .missing

/-- The way that the names of a path are followed from. -/
def origin (t : FileTree) (p : Path) : List String := if p.root.isEmpty then t.base else []

/-- Where a path leads. -/
def locate (t : FileTree) (p : Path) : Except Obstacle (List String) :=
  match badPath? p with
  | some o => .error o
  | none => t.follow (t.origin p) p.parts

/-- What a path leads to, if to anything. A name that is too long is refused even so. -/
def probe (t : FileTree) (p : Path) : Except Obstacle (Option (List String)) :=
  match t.locate p with
  | .ok way => .ok (some way)
  | .error .nameTooLong => .error .nameTooLong
  | .error _ => .ok none

/-- Whether a path leads to a folder. -/
def isFolder (t : FileTree) (p : Path) : Except Obstacle Bool := do
  return (← t.probe p).any t.isFolderAt

/-- The names in the folder at a way, each once. -/
def namesAt (t : FileTree) (way : List String) : List String :=
  (t.base :: t.files.map (·.1) ++ t.folders).filterMap (fun w =>
    if way.isPrefixOf w then (w.drop way.length).head? else none) |>.eraseDups

/-- The names in the folder a path leads to. -/
def list (t : FileTree) (p : Path) : List String := ((t.locate p).map t.namesAt).toOption.getD []

/-- The bytes of the file a path leads to. -/
def read (t : FileTree) (p : Path) : Except Obstacle (List UInt8) := do
  match t.file? (← t.locate p) with
  | some b => return b
  | none => throw .isFolder

/-! ## 3. Changes -/

/-- The way that a path would lead, were all folders on it there. -/
def wayTo (t : FileTree) (p : Path) : List String :=
  p.parts.foldl (fun way name => if name = ".." then way.dropLast else way ++ [name]) (t.origin p)

/-- The tree with a file put at a way. -/
def write (t : FileTree) (way : List String) (bytes : List UInt8) : FileTree :=
  { t with files := t.files.filter (·.1 != way) ++ [(way, bytes)] }

/-- The tree with a folder at a way. -/
def addFolder (t : FileTree) (way : List String) : FileTree :=
  { t with folders := t.folders ++ [way] }

/-- Where the last name of a path leads, which need not lead to anything yet. -/
def place (t : FileTree) (p : Path) : Except Obstacle (List String) := do
  match badPath? p with
  | some o => throw o
  | none =>
    let way ← t.follow (t.origin p) p.parts.dropLast
    match p.parts.getLast? with
    | some name => t.step way name
    | none => return way

/-- The tree with a new folder at a path. The folders on the way must be there. -/
def makeFolder (t : FileTree) (p : Path) : Except Obstacle FileTree := do
  let way ← t.place p
  if t.holds way then throw .taken
  return t.addFolder way

/-- The tree with a folder at a path, new or not. -/
def ensureFolder (t : FileTree) (p : Path) : Except (Obstacle × Path) FileTree :=
  match t.makeFolder p with
  | .ok t => .ok t
  | .error o => if o ≠ .missing ∧ (t.isFolder p).toOption = some true then .ok t else .error (o, p)

/-- The tree with folders at the first `n` names of a path. Each is tried before those on the way
    to it; only if something is missing on the way are they made first. -/
def makeFoldersTo (t : FileTree) (p : Path) : Nat → Except (Obstacle × Path) FileTree
  | 0 => t.ensureFolder ⟨p.root, []⟩
  | n + 1 =>
    let q : Path := ⟨p.root, p.parts.take (n + 1)⟩
    match t.makeFolder q with
    | .error .missing => do (← t.makeFoldersTo p n).ensureFolder q
    | _ => t.ensureFolder q

/-- The tree with a folder at a path and at all on the way to it. An obstacle is told with the
    path that has it. -/
def makeFolders (t : FileTree) (p : Path) : Except (Obstacle × Path) FileTree :=
  t.makeFoldersTo p p.parts.length

/-- Whether a file can be put at a path, once the folders on the way to it are made. -/
def checkWritable (t : FileTree) (p : Path) : Except (Obstacle × Path) Unit := do
  let t ← t.makeFolders p.parent
  let way ← (t.place p).mapError (·, p)
  if t.isFolderAt way then throw (.isFolder, p)

end FileTree
end Terrain
