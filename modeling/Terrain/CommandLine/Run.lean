import Terrain.CommandLine.Options
import Terrain.Host
import Terrain.Registry
import Terrain.Settings

/-!
# Runs of the program

A run reads the configuration, loads the profiles it names, and lists them, checks them, or
samples one of them. It is a function of the host, the options and the files; what it prints, logs
and writes is its result (`Outcome`).

* A run ends with 0 if all went well and with 1 otherwise. What was told before a failure has been
  told.
* At most one file is written, by a sampling that succeeds, as its last act.
* The output may refuse a line (`Host.unprintable?`). The lines before it are printed then.
-/

namespace Terrain.CommandLine

/-! ## 1. What goes wrong -/

/-- What ends an action. -/
inductive Trouble where
  | settings (r : Settings.Refusal)
  | load (f : Registry.LoadFailure)
  | unknownBiome (name : String) (available : List String)
  | noBiome
  | noSize
  | noFolder
  | patch (r : Patch.Refusal)
  | unprinted (problem : String)
  | obstacle (o : FileTree.Obstacle) (p : Path)

/-- The trouble in words. -/
def Trouble.message : Trouble → String
  | .settings r => r.message
  | .load f => f.message
  | .unknownBiome name available =>
    Value.quotedString
      ("Unknown biome '" ++ name ++ "', available: " ++ String.intercalate ", " available)
  | .noBiome => "--biome required for sample action"
  | .noSize => "'<=' not supported between instances of 'list' and 'int'"
  | .noFolder => (Settings.Refusal.notPath .list).message
  | .patch r => r.message
  | .unprinted problem => problem
  | .obstacle o p => o.message p

/-- A record of the command itself. -/
def record (level : Log.Level) (text : String) : Log.Record := ⟨.command, level, text⟩

/-- The record of trouble in an action. Bad profiles and a missing biome speak for themselves. -/
def Trouble.record (a : Given Action) (t : Trouble) : Log.Record :=
  match t with
  | .load (.refused _) | .noBiome => CommandLine.record .error t.message
  | t => CommandLine.record .error ("Action '" ++ a.actionName ++ "' failed: " ++ t.message)

/-! ## 2. Acting and telling -/

/-- What was told so far: the log, and the lines printed. -/
structure Told where
  log : List Log.Record
  lines : List String

/-- Acting: it may end in trouble, and what was told till then remains. -/
abbrev Act := ExceptT Trouble (StateM Told)

/-- Tells records. -/
def log (records : List Log.Record) : Act Unit :=
  modify fun t => { t with log := t.log ++ records }

/-- Prints a line, unless the output refuses it. -/
def print (h : Host) (line : String) : Act Unit :=
  match h.unprintable? line with
  | some problem => throw (.unprinted problem)
  | none => modify fun t => { t with lines := t.lines ++ [line] }

/-- Goes on with a result, or ends with the trouble it stands for. -/
def orTrouble {ε α : Type} (f : ε → Trouble) (x : Except ε α) : Act α :=
  match x with
  | .ok a => return a
  | .error e => throw (f e)

/-! ## 3. Actions -/

/-- Loads the profiles that a configuration names. Strictness is the configuration's unless it is
    forced. -/
def loadProfiles (h : Host) (files : FileTree) (config : Value) (force : Bool) :
    Act Registry := do
  let settings ← orTrouble .settings (Settings.biomes config)
  let types ← orTrouble .settings (Settings.voxelTypes config)
  log [types.loadedRecord, Noise.readyRecord settings.seed]
  let (r, records) := Registry.load (h.setting types) files settings.profileFolder
    (force || settings.strict)
  log records
  orTrouble .load r

/-- Prints the names of the profiles. -/
def listProfiles (h : Host) (files : FileTree) (config : Value) : Act Unit := do
  let r ← loadProfiles h files config false
  r.names.forM (print h)

/-- Loads the profiles and fails if one of them fails. -/
def validateProfiles (h : Host) (files : FileTree) (config : Value) : Act Unit := do
  let r ← loadProfiles h files config true
  log [record .info ("All " ++ toString r.size ++ " biome profiles compiled")]

/-- Samples a profile, with noise and a climate of the seed of the configuration. -/
def drawPatch (h : Host) (config : Value) (o : Options) (profile : Profile) : Act Patch := do
  let seed := (← orTrouble .settings (Settings.biomes config)).seed
  let climate ← orTrouble .settings (Settings.climate h.generator config seed)
  log [Climate.readyRecord seed]
  let some size := o.size.value? | throw .noSize
  let patch ← orTrouble .patch
    (Patch.sample h.arrays h.stack profile (h.generator seed).source climate o.origin size)
  log [patch.sampledRecord]
  return patch

/-- The folder that a patch goes to: the one that is asked for, or else that of the
    configuration. -/
def outputFolder (config : Value) (o : Options) : Act Path :=
  match o.output with
  | some (.value p) => return p
  | some .empty => throw .noFolder
  | none => orTrouble .settings (Settings.sampleFolder config)

/-- Samples a profile, and says where the patch is written. -/
def samplePatch (h : Host) (files : FileTree) (config : Value) (o : Options) :
    Act (Path × Patch) := do
  let some biome := o.biome.filter (!·.isEmpty) | throw .noBiome
  let r ← loadProfiles h files config false
  let some profile := r.find? biome | throw (.unknownBiome biome r.names)
  let patch ← drawPatch h config o profile
  let path := Patch.filePath biome o.origin (← outputFolder config o)
  orTrouble (fun (o, p) => .obstacle o p) (files.checkWritable path)
  log [Patch.savedRecord path,
    record .info ("Sampled '" ++ biome ++ "' at " ++ Patch.placeText o.origin ++
      ": density range " ++ patch.rangeText ++ ", saved to " ++ path.text)]
  return (path, patch)

/-- Does what is asked for; a sampling gives the file to write. -/
def act (h : Host) (files : FileTree) (config : Value) (o : Options) :
    Act (Option (Path × Patch)) := do
  match o.action with
  | .value .list =>
    listProfiles h files config
    return none
  | .value .validate =>
    validateProfiles h files config
    return none
  | .value .sample => return some (← samplePatch h files config o)
  | .empty => return none

/-! ## 4. Runs -/

/-- The result of a run: how it ends, the lines it prints, the log as far as it is shown, and the
    file it writes. -/
structure Outcome where
  exit : Nat
  lines : List String
  log : List Log.Record
  written : Option (Path × Patch)

/-- The configuration that is asked for and its path, or what is wrong with it. -/
def loadSettings (h : Host) (files : FileTree) : Given Path → Except String (Path × Value)
  | .value p => do return (p, ← (Settings.load h.readYaml files p).mapError (·.message))
  | .empty => .error Trouble.noFolder.message

/-- A run with its options read. -/
def run (h : Host) (files : FileTree) (o : Options) : Outcome :=
  match loadSettings h files o.config with
  | .error problem =>
    ⟨1, [], Log.atLeast o.level
      [record .error ("Failed to load configuration: " ++ problem)], none⟩
  | .ok (path, config) =>
    let loaded := record .info ("Loaded configuration from " ++ path.text)
    match (act h files config o).run ⟨[loaded], []⟩ with
    | (.ok written, told) =>
      let done := record .info ("Action '" ++ o.action.actionName ++ "' completed successfully!")
      ⟨0, told.lines, Log.atLeast o.level (told.log ++ [done]), written⟩
    | (.error t, told) =>
      ⟨1, told.lines, Log.atLeast o.level (told.log ++ [t.record o.action]), none⟩

end Terrain.CommandLine
