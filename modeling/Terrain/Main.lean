import Terrain.CommandLine.Run
import Terrain.Host.Standard
import Terrain.Patch.File

/-!
# The program

The outer layer: it gathers the files that a run looks at, lets the run decide everything, prints
and logs what it tells, and writes the file it gives. The host of a run is the standard one.
-/

namespace Terrain.Program

open CommandLine

/-- How the program is used. -/
def usage : String :=
  "usage: [--help] [--config FILE] --action list|validate|sample [--biome NAME]\n" ++
  "       [--origin X Y Z] [--size N] [--output FOLDER]\n" ++
  "       [--log-level DEBUG|INFO|WARNING|ERROR]"

/-- The folder that the program works in, as a path. -/
def workingFolder : IO Path := do return .ofString (← IO.currentDir).toString

/-- The tree with what lies at a path, seen from the folder the program works in. -/
def look (t : FileTree) (p : Path) : IO FileTree := do
  let file := (← IO.currentDir) / p.text
  if ← file.isDir then return t.addFolder (t.wayTo p)
  if ← file.pathExists then return t.write (t.wayTo p) (← IO.FS.readBinFile file).toList
  return t

/-- The tree with what lies at a path and all on the way to it. -/
def lookAlong (t : FileTree) (p : Path) : IO FileTree :=
  (List.range (p.parts.length + 1)).foldlM
    (fun t n => look t ⟨p.root, p.parts.take n⟩) t

/-- The tree with a folder and the profiles in it. -/
def lookInto (t : FileTree) (p : Path) : IO FileTree := do
  let t ← lookAlong t p
  let folder := (← IO.currentDir) / p.text
  if ← folder.isDir then
    let names := (← folder.readDir).toList.map (·.fileName)
    (names.filter Registry.isProfileName).foldlM (fun t name => look t (p.child name)) t
  else return t

/-- The files that a run looks at. -/
def gather (o : Options) : IO FileTree := do
  let empty : FileTree := ⟨[], [], (← workingFolder).parts⟩
  let t ← (o.config.value?.map (lookAlong empty)).getD (pure empty)
  match loadSettings .standard t o.config with
  | .error _ => return t
  | .ok (_, config) =>
    let t ←
      match Settings.biomes config with
      | .ok b => lookInto t b.profileFolder
      | .error _ => pure t
    match o.biome, ((o.output.bind (·.value?)).map .ok).getD (Settings.sampleFolder config) with
    | some biome, .ok folder => lookAlong t (Patch.filePath biome o.origin folder)
    | _, _ => return t

/-- Writes the file of a patch, and the folders on the way to it. -/
def save (p : Path) (patch : Patch) : IO Unit := do
  IO.FS.createDirAll p.parent.text
  IO.FS.writeBinFile p.text ⟨patch.file.toArray⟩

/-- Runs the program. -/
def start (arguments : List String) : IO UInt32 := do
  match Options.read arguments with
  | .error .help =>
    IO.println usage
    return 0
  | .error .refused =>
    IO.eprintln usage
    return 2
  | .error .noLevel =>
    IO.eprintln "The log cannot be shown without a level."
    return 1
  | .ok o =>
    let outcome := run .standard (← gather o) o
    outcome.written.forM fun (p, patch) => save p patch
    outcome.log.forM fun r => IO.eprintln r.line
    outcome.lines.forM IO.println
    return outcome.exit.toUInt32

end Terrain.Program

/-- Runs the program. -/
def main (arguments : List String) : IO UInt32 := Terrain.Program.start arguments
