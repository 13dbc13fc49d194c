import Terrain.FileTree
import Terrain.Profile.Compile

/-!
# The registry of profiles

The profiles of a world are the documents in one folder, named after their files. They are loaded
once and then only read.

* Every file whose name ends in `.json` is tried, in the order of the names, not of the folder. A
  file that fails is told and left out, and the others still load.
* A strict load fails once all files have been tried, if one of them failed, and tells them all.
* A profile's name is its file's name without the ending. Two names can have one stem: the profile
  loaded last has it then.
* Two mistakes of a document end the load at once (`LoadFailure.aborted`).
-/

namespace Terrain

/-- The profiles of a world, and the files that failed, by file name. -/
structure Registry where
  profiles : Named Profile
  failures : Named Profile.Refusal

namespace Registry

/-! ## 1. Reading the registry -/

/-- The profile of a name. -/
def find? (r : Registry) (name : String) : Option Profile := r.profiles.get? name

/-- The names of the profiles in order. -/
def names (r : Registry) : List String := Named.sort r.profiles.names

/-- The number of profiles. -/
def size (r : Registry) : Nat := r.profiles.length

/-! ## 2. One file -/

/-- The profile in a file, or why there is none, and the log of compiling it. What is wrong with
    it is reported under the file's name. -/
def loadProfile (s : Profile.Setting) (t : FileTree) (p : Path) :
    Except Profile.Failure Profile × List Log.Record :=
  let refused (f : Profile.Fault) : Except Profile.Failure Profile × List Log.Record :=
    (.error (.refused (f.somewhere.within (some p.name) none)), [])
  match t.read p with
  | .error o => refused (.unreadable (o.message p))
  | .ok b =>
    match Text.Utf8.decode b with
    | .error r => refused (.notText r)
    | .ok text =>
      let (r, log) := Profile.read s (Path.stem p.name) (Text.unifyLineEnds text)
      (r.mapError (·.within (some p.name) none), log)

/-! ## 3. The load -/

/-- Why a load fails. -/
inductive LoadFailure where
  | noFolder (p : Path)
  | obstacle (o : FileTree.Obstacle) (p : Path)
  | refused (failures : Named Profile.Refusal)
  | aborted (a : Profile.Abort)
  deriving DecidableEq, Repr

/-- The failure in words. -/
def LoadFailure.message : LoadFailure → String
  | .noFolder p => "Biome profile directory not found: " ++ p.text
  | .obstacle o p => o.message p
  | .refused failures => Report.listing (failures.map fun e => (e.1, e.2.report))
  | .aborted a => a.message

/-- The ending of the files that hold profiles. -/
def ending : String := ".json"

/-- Whether a file name has the ending. -/
def isProfileName (name : String) : Bool := ending.toList.isSuffixOf name.toList

/-- The names of the files to try, in order. -/
def candidates (t : FileTree) (folder : Path) : List String :=
  Named.sort ((t.list folder).filter isProfileName)

/-- The record of a file that loaded. -/
def loadedRecord (name : String) (p : Path) : Log.Record :=
  ⟨.registry, .info, "Loaded biome profile '" ++ name ++ "' from " ++ p.text⟩

/-- The record of a file that failed. -/
def failedRecord (name : String) (r : Profile.Refusal) : Log.Record :=
  ⟨.registry, .error, "Failed to load biome profile '" ++ name ++ "': " ++ r.report.text⟩

/-- The record at the end of a load. -/
def summaryRecord (r : Registry) (folder : Path) : Log.Record :=
  if r.failures.isEmpty then
    ⟨.registry, .info,
      "Loaded " ++ toString r.size ++ " biome profiles from " ++ folder.text⟩
  else
    ⟨.registry, .warning,
      "Loaded " ++ toString r.size ++ " biome profiles, " ++ toString r.failures.length ++
        " failed: " ++ String.intercalate ", " (Named.sort r.failures.names)⟩

/-- A load in progress: the registry so far, and the log. -/
structure Progress where
  registry : Registry
  log : List Log.Record

/-- Tries one file of the folder. -/
def tryFile (s : Profile.Setting) (t : FileTree) (folder : Path) (w : Progress) (name : String) :
    Except (Profile.Abort × List Log.Record) Progress :=
  let p := folder.child name
  let stem := Path.stem name
  let (r, log) := loadProfile s t p
  let log := w.log ++ log
  match r with
  | .ok profile =>
    .ok ⟨{ w.registry with profiles := w.registry.profiles.put stem profile },
      log ++ [loadedRecord stem p]⟩
  | .error (.refused r) =>
    .ok ⟨{ w.registry with failures := w.registry.failures.put name r },
      log ++ [failedRecord stem r]⟩
  | .error (.aborted a) => .error (a, log)

/-- Tries the files of the folder in the order given. -/
def tryAll (s : Profile.Setting) (t : FileTree) (folder : Path) (names : List String) :
    Except (Profile.Abort × List Log.Record) Progress :=
  names.foldlM (tryFile s t folder) ⟨⟨[], []⟩, []⟩

/-- Loads the profiles of a folder, and tells what was done. -/
def load (s : Profile.Setting) (t : FileTree) (folder : Path) (strict : Bool) :
    Except LoadFailure Registry × List Log.Record :=
  match t.isFolder folder with
  | .error o => (.error (.obstacle o folder), [])
  | .ok false => (.error (.noFolder folder), [])
  | .ok true =>
    match tryAll s t folder (candidates t folder) with
    | .error (a, log) => (.error (.aborted a), log)
    | .ok w =>
      let log := w.log ++ [summaryRecord w.registry folder]
      if strict && !w.registry.failures.isEmpty then (.error (.refused w.registry.failures), log)
      else (.ok w.registry, log)

end Registry
end Terrain
