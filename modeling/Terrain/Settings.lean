import Terrain.Climate
import Terrain.Digest.Md5
import Terrain.FileTree
import Terrain.Text.Utf8
import Terrain.VoxelTypes

/-!
# Settings

A configuration has sections: the biomes of a world (the folder of their profiles, whether a bad
profile is an error, the seed), its climate, its voxel types, and where samples go. What a section
does not say has a default.

* A seed that is a whole number is the seed. Any other value is digested, so a world named by a
  word is the same world on every run (`seedOf`).
* A flag may be written as a truth value or as one of eight words (`flagOf?`).
* A section that is missing, or stands for nothing, is empty; one that is no map is refused.
-/

namespace Terrain.Settings

/-! ## 1. Refusals -/

/-- Why settings are refused. -/
inductive Refusal where
  | noSections (found : Value.Form)
  | notMap (found : Value.Form)
  | noEntries (found : Value.Form)
  | notPath (found : Value.Form)
  | noPath (words : String)
  | notFlag (key shown : String)
  | unwritable
  | unpaired (u : Text.Utf8.Unpaired)
  | unfit (u : Value.Unfit)
  | voxels (r : VoxelTypes.Refusal)
  deriving DecidableEq, Repr

/-- The refusal in words. -/
def Refusal.message : Refusal → String
  | .noSections f => "'" ++ f.name ++ "' object has no attribute 'get'"
  | .notMap f => "'" ++ f.name ++ "' object is not a mapping"
  | .noEntries f => "'" ++ f.name ++ "' object has no attribute 'items'"
  | .notPath f => "expected str, bytes or os.PathLike object, not " ++ f.name
  | .noPath words => words
  | .notFlag key shown => "Config value '" ++ key ++ "' must be true or false, got " ++ shown
  | .unwritable => Value.unwritableMessage
  | .unpaired u => u.message
  | .unfit u => u.message
  | .voxels r => r.message

/-! ## 2. Sections -/

/-- The entries of a map that sections are looked up in. -/
def sections : Value → Except Refusal (List (Value × Value))
  | .map entries => .ok entries
  | v => .error (.noSections v.form)

/-- What stands under a key, if it stands for anything. -/
def standing (entries : List (Value × Value)) (key : String) : Option Value :=
  (Value.lookup key entries).filter (!·.isVoid)

/-- The entries of a section that is laid over its defaults. -/
def overlay (config : Value) (name : String) : Except Refusal (List (Value × Value)) := do
  match standing (← sections config) name with
  | none => return []
  | some (.map entries) => return entries
  | some v => throw (.notMap v.form)

/-- The entries of a section whose own entries are looked up. -/
def subsection (config : Value) (name : String) : Except Refusal (List (Value × Value)) := do
  match standing (← sections config) name with
  | none => return []
  | some v => sections v

/-! ## 3. Seeds, flags and paths -/

/-- The number of the first four bytes, the first weighing most, without its highest bit. -/
def headNumber (bytes : List UInt8) : Nat :=
  (bytes.take 4).foldl (fun n b => 256 * n + b.toNat) 0 % 0x80000000

/-- The seed of a value: a whole number as it is, and otherwise from the digest of its text. -/
def seedOf (v : Value) : Except Refusal Int :=
  match v with
  | .int n => .ok n
  | v =>
    match v.plain? with
    | some s => do
      let bytes ← (Text.Utf8.encode? s.toList).mapError .unpaired
      return headNumber (Digest.Md5.digest bytes)
    | none => .error .unwritable

/-- The words for yes. -/
def yesWords : List String := ["true", "yes", "on", "1"]

/-- The words for no. -/
def noWords : List String := ["false", "no", "off", "0"]

/-- The flag of a text, in any case and with blanks around it. -/
def flagOf? (s : String) : Option Bool :=
  let word := String.ofList (Number.lower (Text.strip s.toList))
  if yesWords.contains word then some true
  else if noWords.contains word then some false
  else none

/-- The flag of a value; `key` names it where it is refused. -/
def flag (key : String) (v : Value) : Except Refusal Bool :=
  let refused : Except Refusal Bool :=
    match v.shown? with
    | some s => .error (.notFlag key s)
    | none => .error .unwritable
  match v with
  | .bool b => .ok b
  | .text s =>
    match flagOf? s with
    | some b => .ok b
    | none => refused
  | _ => refused

/-- The path of a value. -/
def path : Value → Except Refusal Path
  | .text s => .ok (.ofString s)
  | .other o => .error (.noPath o.noPath)
  | v => .error (.notPath v.form)

/-! ## 4. The biomes of a world -/

/-- The settings of a world's biomes. Entries that have no meaning here are kept. -/
structure Biomes where
  seed : Int
  profileFolder : Path
  strict : Bool
  others : List (Value × Value)

/-- The key of the seed. -/
def seedKey : String := "seed"

/-- The key of the folder of profiles. -/
def folderKey : String := "profile_dir"

/-- The key of strictness. -/
def strictKey : String := "strict"

/-- Whether an entry stands under one of the keys. -/
def isUnder (keys : List String) (e : Value × Value) : Bool :=
  match e.1 with
  | .text k => keys.contains k
  | _ => false

/-- The settings of the biomes of a configuration. The seed is looked at first, strictness last. -/
def biomes (config : Value) : Except Refusal Biomes := do
  let entries ← overlay config "biomes"
  let value (key : String) (default : Value) : Value :=
    (Value.lookup key entries).getD default
  let seed ← seedOf (value seedKey (.int 0))
  let folder ← path (value folderKey (.text "data/biome_profiles"))
  let strict ← flag ("biomes." ++ strictKey) (value strictKey (.bool false))
  return ⟨seed, folder, strict,
    entries.filter fun e => !isUnder [seedKey, folderKey, strictKey] e⟩

/-! ## 5. Climate, voxel types and samples -/

/-- The defaults of the climate. -/
def climateDefaults : List (Value × Value) :=
  [(.text "surface_level", .int 64), (.text "temperature_scale", .float 0.002),
   (.text "moisture_scale", .float 0.003)]

/-- The entries of the climate, laid over the defaults. -/
def climateEntries (config : Value) : Except Refusal (List (Value × Value)) := do
  return (← overlay config "climate").foldl (fun m e => Value.put e.1 e.2 m) climateDefaults

/-- The climate of a configuration, with a generator for every seed. -/
def climate (generator : Int → Noise.Generator) (config : Value) (seed : Int) :
    Except Refusal Climate := do
  let entries ← climateEntries config
  let value (key : String) : Value := (Value.lookup key entries).getD .null
  let surface ← (value "surface_level").integer?.mapError .unfit
  let temperature ← (value "temperature_scale").float?.mapError .unfit
  let moisture ← (value "moisture_scale").float?.mapError .unfit
  return Climate.ofSeed generator seed surface temperature moisture

/-- The voxel types of a configuration. -/
def voxelTypes (config : Value) : Except Refusal VoxelTypes := do
  match standing (← subsection config "voxels") "types" with
  | none => return .empty
  | some (.map entries) => (VoxelTypes.empty.registerAll entries).mapError .voxels
  | some v => throw (.noEntries v.form)

/-- The folder that samples go to. -/
def sampleFolder (config : Value) : Except Refusal Path := do
  match standing (← subsection config "sampling") "output_dir" with
  | none => return .ofString "data/samples"
  | some v => path v

/-! ## 6. Loading -/

/-- Why there is no configuration. -/
inductive LoadRefusal where
  | missing (p : Path)
  | obstacle (o : FileTree.Obstacle) (p : Path)
  | unread (problem : String)
  deriving DecidableEq, Repr

/-- The refusal in words. -/
def LoadRefusal.message : LoadRefusal → String
  | .missing p => "Config file not found: " ++ p.text
  | .obstacle o p => o.message p
  | .unread problem => problem

/-- The configuration in a file. One that stands for nothing is the empty map. How the bytes of a
    file are read as a value is the reader's affair. -/
def load (readYaml : List UInt8 → Except String Value) (t : FileTree) (p : Path) :
    Except LoadRefusal Value := do
  let refused (o : FileTree.Obstacle) : LoadRefusal := .obstacle o p
  match ← (t.probe p).mapError refused with
  | none => throw (.missing p)
  | some _ =>
    let b ← (t.read p).mapError refused
    let v ← (readYaml b).mapError .unread
    return if v.isVoid then .map [] else v

end Terrain.Settings
