import Mathlib.Data.List.TakeWhile
import Terrain.Host.Standard
import Terrain.Patch.File
import Terrain.Proofs.CommandLine.Acting
import Terrain.Proofs.CommandLine.Reading

/-!
# Runs are all or nothing

A run ends with 0 or with 1. It prints all it is asked for or nothing, unless the output refuses a
name that is listed, and it writes one file, as its last act, or none. There is no run at all where
the level of the log is left empty.

* `exit_eq_zero_iff`, `written_eq_some_iff`: when a run ends with 0, and what it writes.
* `AllOrNothing`: what a run comes to.
* `run_allOrNothing`: every command line that is accepted, and gives a level, is run to an outcome
  that is all or nothing.
* `noLevel_not_run`: a command line that is accepted, and is not run.
-/

namespace Terrain

/-! ## 1. Files after a run -/

/-- A file that is written is there, and all others are as they were. -/
theorem FileTree.file?_write (t : FileTree) (way other : List String) (bytes : List UInt8) :
    (t.write way bytes).file? other = if other = way then some bytes else t.file? other := by
  unfold FileTree.write FileTree.file?
  rw [List.find?_append]
  split
  · rename_i h
    have hnone : (t.files.filter (·.1 != way)).find? (·.1 == other) = none := by
      refine List.find?_eq_none.2 fun f hf he => ?_
      have hne := (List.mem_filter.1 hf).2
      rw [beq_iff_eq.1 he, h] at hne
      simp at hne
    rw [hnone, h]
    simp
  · rename_i h
    have hkept : (t.files.filter (·.1 != way)).find? (·.1 == other) =
        t.files.find? (·.1 == other) := by
      rw [List.find?_filter]
      refine congrArg (List.find? · t.files) (funext fun f => ?_)
      by_cases hf : f.1 = other <;> simp [hf, h]
    have hnew : way ≠ other := fun he => h he.symm
    rw [hkept]
    simp [hnew]

namespace CommandLine

open Attempt

variable {h : Host} {files : FileTree} {o : Options}

/-- The files that a run leaves: those that were there, and the one that it writes. Folders that are
    made for it are left out. -/
def Outcome.leaves (result : Outcome) (files : FileTree) : FileTree :=
  match result.written with
  | some (path, patch) => files.write (files.wayTo path) patch.file
  | none => files

/-! ## 2. Runs -/

/-- A configuration is read from the path that is asked for. -/
def Configured (h : Host) (files : FileTree) (c : Given Path) (config : Value) : Prop :=
  ∃ path, loadSettings h files c = .ok (path, config)

theorem Configured.unique {c : Given Path} {config config' : Value}
    (hc : Configured h files c config) (hc' : Configured h files c config') :
    config' = config := by
  obtain ⟨path, hload⟩ := hc
  obtain ⟨path', hload'⟩ := hc'
  rw [hload] at hload'
  cases hload'
  rfl

/-- **How a run goes**: there is no configuration, or the action ends in trouble, or it gives what the
    run writes. -/
theorem run_cases (h : Host) (files : FileTree) (o : Options) :
    ((∀ config, ¬ Configured h files o.config config) ∧ (run h files o).exit = 1 ∧
      (run h files o).lines = [] ∧ (run h files o).written = none) ∨
    ∃ config t, Configured h files o.config config ∧ t.lines = [] ∧
      (run h files o).lines = ((act h files config o).run t).2.lines ∧
      (((run h files o).exit = 1 ∧ (run h files o).written = none ∧
          ∃ e, Fails (act h files config o) e t) ∨
        ((run h files o).exit = 0 ∧ Gives (act h files config o) (run h files o).written t)) := by
  unfold run
  rcases hsettings : loadSettings h files o.config with problem | ⟨path, config⟩
  · refine .inl ⟨?_, rfl, rfl, rfl⟩
    rintro config ⟨path, hload⟩
    rw [hsettings] at hload
    cases hload
  · refine .inr ⟨config, ⟨[record .info ("Loaded configuration from " ++ path.text)], []⟩,
      ⟨path, hsettings⟩, rfl, ?_⟩
    dsimp only
    rcases hact : (act h files config o).run
        ⟨[record .info ("Loaded configuration from " ++ path.text)], []⟩ with ⟨e | w, t⟩
    · exact ⟨rfl, .inl ⟨rfl, rfl, e, congrArg Prod.fst hact⟩⟩
    · exact ⟨rfl, .inr ⟨rfl, gives_iff.2 ⟨t, hact⟩⟩⟩

/-- **When a run ends with 0**: there is a configuration, and the action comes to something. -/
theorem exit_eq_zero_iff : (run h files o).exit = 0 ↔
    ∃ config w, Configured h files o.config config ∧ Does h files config o w := by
  rcases run_cases h files o with ⟨hnone, hexit, -⟩ | ⟨config, t, hconfig, -, -, hends⟩
  · rw [hexit]
    exact ⟨nofun, fun ⟨config, _, hconfig, _⟩ => absurd hconfig (hnone config)⟩
  · rcases hends with ⟨hexit, -, e, he⟩ | ⟨hexit, hgives⟩
    · rw [hexit]
      refine ⟨nofun, ?_⟩
      rintro ⟨config', w, hconfig', hdoes⟩
      rw [hconfig.unique hconfig'] at hdoes
      have hgives : Gives (act h files config o) w t := gives_act_iff.2 hdoes
      exact nomatch hgives.symm.trans he
    · exact ⟨fun _ => ⟨config, _, hconfig, gives_act_iff.1 hgives⟩, fun _ => hexit⟩

theorem exit_eq_zero_or_one (h : Host) (files : FileTree) (o : Options) :
    (run h files o).exit = 0 ∨ (run h files o).exit = 1 := by
  rcases run_cases h files o with ⟨-, hexit, -⟩ | ⟨_, _, -, -, -, ⟨hexit, -⟩ | ⟨hexit, -⟩⟩
  · exact .inr hexit
  · exact .inr hexit
  · exact .inl hexit

theorem exit_eq_one_iff : (run h files o).exit = 1 ↔ ¬ (run h files o).exit = 0 := by
  rcases exit_eq_zero_or_one h files o with h | h <;> rw [h] <;> simp

/-- **What a run writes**: the patch that a sampling leads to, and nothing else. -/
theorem written_eq_some_iff {path : Path} {patch : Patch} :
    (run h files o).written = some (path, patch) ↔ o.action = .value .sample ∧
      ∃ config, Configured h files o.config config ∧ Samples h files config o path patch := by
  constructor
  · intro hwritten
    rcases run_cases h files o with ⟨-, -, -, hnone⟩ | ⟨config, t, hconfig, -, -, hends⟩
    · rw [hnone] at hwritten
      cases hwritten
    rcases hends with ⟨-, hnone, -⟩ | ⟨-, hgives⟩
    · rw [hnone] at hwritten
      cases hwritten
    have hdoes := gives_act_iff.1 hgives
    rw [hwritten] at hdoes
    unfold Does at hdoes
    rcases haction : o.action with (_ | _ | _) | _ <;> rw [haction] at hdoes
    · exact nomatch hdoes.1
    · exact nomatch hdoes.1
    · obtain ⟨path', patch', h, hsamples⟩ := hdoes
      cases h
      exact ⟨rfl, config, hconfig, hsamples⟩
    · cases hdoes
  · rintro ⟨haction, config, hconfig, hsamples⟩
    have hdoes : Does h files config o (some (path, patch)) := by
      unfold Does
      rw [haction]
      exact ⟨path, patch, rfl, hsamples⟩
    rcases run_cases h files o with ⟨hnone, -⟩ | ⟨config', t, hconfig', -, -, hends⟩
    · exact absurd hconfig (hnone config)
    rw [hconfig.unique hconfig'] at hends
    rcases hends with ⟨hexit, -⟩ | ⟨-, hgives⟩
    · exact absurd (exit_eq_zero_iff.2 ⟨config, _, hconfig, hdoes⟩) (exit_eq_one_iff.1 hexit)
    · exact hdoes.unique (gives_act_iff.1 hgives)

/-! ## 3. All or nothing -/

/-- **What a run comes to.** -/
structure AllOrNothing (h : Host) (files : FileTree) (o : Options) (result : Outcome) : Prop where
  /-- It ends with 0 or with 1. -/
  exit : result.exit = 0 ∨ result.exit = 1
  /-- A listing that ends with 0 prints the names of the profiles in order, one in a line. -/
  listed : o.action = .value .list → result.exit = 0 →
    ∃ config r, Configured h files o.config config ∧ Loads h files config false r ∧
      result.lines = r.names
  /-- A listing that ends with 1 prints nothing, unless it is the output that refuses a name: then
      the names before the first that it refuses are printed. -/
  unlisted : o.action = .value .list → result.exit = 1 → result.lines = [] ∨
    ∃ config r name, Configured h files o.config config ∧ Loads h files config false r ∧
      name ∈ r.names ∧ h.prints name = false ∧ result.lines = r.names.takeWhile h.prints
  /-- Nothing else prints anything. -/
  silent : o.action ≠ .value .list → result.lines = []
  /-- A sampling ends with 0 exactly if it writes a patch. -/
  sampled : o.action = .value .sample →
    (result.exit = 0 ↔ ∃ path patch, result.written = some (path, patch))
  /-- What is written is the patch that a sampling leads to, at its path. -/
  written : ∀ path patch, result.written = some (path, patch) ↔ o.action = .value .sample ∧
    ∃ config, Configured h files o.config config ∧ Samples h files config o path patch
  /-- The file of the patch is there afterwards. -/
  stored : ∀ path patch, result.written = some (path, patch) →
    (result.leaves files).file? (files.wayTo path) = some patch.file
  /-- All other files are as they were. -/
  kept : ∀ way, (∀ path patch, result.written = some (path, patch) → way ≠ files.wayTo path) →
    (result.leaves files).file? way = files.file? way
  /-- After an end with 1 all files are as they were. -/
  unchanged : result.exit = 1 → ∀ way, (result.leaves files).file? way = files.file? way

/-- A run that ends with 1 writes nothing. -/
theorem written_eq_none (hexit : (run h files o).exit = 1) : (run h files o).written = none := by
  rcases run_cases h files o with ⟨-, -, -, hnone⟩ | ⟨_, _, -, -, -, ⟨-, hnone, -⟩ | ⟨hzero, -⟩⟩
  · exact hnone
  · exact hnone
  · rw [hzero] at hexit
    cases hexit

/-- A listing prints the names of the profiles that load, up to the first that the output
    refuses. -/
theorem lines_of_loads (hlist : o.action = .value .list) {config : Value} {r : Registry}
    (hconfig : Configured h files o.config config) (hloads : Loads h files config false r) :
    (run h files o).lines = r.names.takeWhile h.prints := by
  rcases run_cases h files o with ⟨hnone, -⟩ | ⟨config', t, hconfig', ht, hlines, -⟩
  · exact absurd hconfig (hnone config)
  · rw [hconfig.unique hconfig', lines_act_list hlist, lines_listProfiles hloads, ht] at hlines
    exact hlines

/-- A listing prints nothing where no profiles load. -/
theorem lines_of_not_loads (hlist : o.action = .value .list)
    (hnot : ∀ config r, Configured h files o.config config → ¬ Loads h files config false r) :
    (run h files o).lines = [] := by
  rcases run_cases h files o with ⟨-, -, hlines, -⟩ | ⟨config, t, hconfig, ht, hlines, -⟩
  · exact hlines
  · rw [lines_act_list hlist, lines_listProfiles_of_not (hnot config · hconfig), ht] at hlines
    exact hlines

/-- When a listing ends with 0: the profiles load, and the output takes their names. -/
theorem exit_of_list (hlist : o.action = .value .list) : (run h files o).exit = 0 ↔
    ∃ config r, Configured h files o.config config ∧ Loads h files config false r ∧
      Shows h r := by
  rw [exit_eq_zero_iff]
  unfold Does
  rw [hlist]
  constructor
  · rintro ⟨config, w, hconfig, -, r, hloads, hshows⟩
    exact ⟨config, r, hconfig, hloads, hshows⟩
  · rintro ⟨config, r, hconfig, hloads, hshows⟩
    exact ⟨config, none, hconfig, rfl, r, hloads, hshows⟩

/-- Nothing but a listing prints anything. -/
theorem lines_eq_nil (hother : o.action ≠ .value .list) : (run h files o).lines = [] := by
  rcases run_cases h files o with ⟨-, -, hlines, -⟩ | ⟨config, t, -, ht, hlines, -⟩
  · exact hlines
  have hquiet : Quiet (act h files config o) := by
    unfold act
    split
    · exact absurd ‹_› hother
    · exact .bind (quiet_validateProfiles h files config) fun _ => quiet_pure _
    · exact .bind (quiet_samplePatch h files config o) fun _ => quiet_pure _
    · exact quiet_pure _
  rw [hlines, ← ht]
  exact hquiet t

/-- **Every run is all or nothing**, on every host. -/
theorem allOrNothing_run (h : Host) (files : FileTree) (o : Options) :
    AllOrNothing h files o (run h files o) where
  exit := exit_eq_zero_or_one h files o
  listed hlist hexit := by
    obtain ⟨config, r, hconfig, hloads, hshows⟩ := (exit_of_list hlist).1 hexit
    refine ⟨config, r, hconfig, hloads, ?_⟩
    rw [lines_of_loads hlist hconfig hloads]
    exact List.takeWhile_eq_self_iff.2 hshows
  unlisted hlist hexit := by
    by_cases hex : ∃ config r, Configured h files o.config config ∧ Loads h files config false r
    · obtain ⟨config, r, hconfig, hloads⟩ := hex
      have hrefused : ¬ Shows h r := fun hshows =>
        exit_eq_one_iff.1 hexit ((exit_of_list hlist).2 ⟨config, r, hconfig, hloads, hshows⟩)
      obtain ⟨name, hname, hprints⟩ : ∃ name ∈ r.names, ¬ h.prints name = true := by
        simpa [Shows] using hrefused
      exact .inr ⟨config, r, name, hconfig, hloads, hname, Bool.eq_false_iff.2 hprints,
        lines_of_loads hlist hconfig hloads⟩
    · exact .inl (lines_of_not_loads hlist fun config r hconfig hloads =>
        hex ⟨config, r, hconfig, hloads⟩)
  silent := lines_eq_nil
  sampled hsample := by
    constructor
    · intro hexit
      obtain ⟨config, w, hconfig, hdoes⟩ := exit_eq_zero_iff.1 hexit
      unfold Does at hdoes
      rw [hsample] at hdoes
      obtain ⟨path, patch, -, hsamples⟩ := hdoes
      exact ⟨path, patch, written_eq_some_iff.2 ⟨hsample, config, hconfig, hsamples⟩⟩
    · rintro ⟨path, patch, hwritten⟩
      rcases exit_eq_zero_or_one h files o with hexit | hexit
      · exact hexit
      · rw [written_eq_none hexit] at hwritten
        cases hwritten
  written _ _ := written_eq_some_iff
  stored path patch hwritten := by
    unfold Outcome.leaves
    rw [hwritten]
    exact (FileTree.file?_write ..).trans (if_pos rfl)
  kept way hother := by
    unfold Outcome.leaves
    split
    · rename_i path patch hwritten
      exact (FileTree.file?_write ..).trans (if_neg (hother path patch hwritten))
    · rfl
  unchanged hexit way := by
    unfold Outcome.leaves
    rw [written_eq_none hexit]

/-! ## 4. Command lines -/

/-- What comes of a command line: a run, or no options to run with. -/
def outcome? (h : Host) (files : FileTree) (arguments : List String) : Except Ending Outcome :=
  (Options.read arguments).map (run h files)

/-- **Every command line that is accepted is run to an outcome that is all or nothing**, on every
    host, unless it leaves the level of the log empty: then there is no run. -/
theorem run_allOrNothing (h : Host) (files : FileTree) {arguments : List String}
    (ha : Accepted arguments) :
    (LeavesLevelEmpty arguments ∧ outcome? h files arguments = .error .noLevel) ∨
      (¬ LeavesLevelEmpty arguments ∧ ∃ o result, Options.read arguments = .ok o ∧
        outcome? h files arguments = .ok result ∧ AllOrNothing h files o result) := by
  rcases accepted_cases ha with ⟨hempty, hread⟩ | ⟨hlevel, o, hread⟩
  · refine .inl ⟨hempty, ?_⟩
    unfold outcome?
    rw [hread]
    rfl
  · refine .inr ⟨hlevel, o, run h files o, hread, ?_, allOrNothing_run h files o⟩
    unfold outcome?
    rw [hread]
    rfl

/-- A command line that asks for a patch of one voxel. -/
def plainsArguments : List String := ["--action", "sample", "--biome", "plains", "--size", "1"]

/-- A configuration that names a folder of profiles and a type of voxel, and a profile. -/
def plainsFiles : FileTree :=
  ⟨[(["config.yaml"], Text.Utf8.encode
      "biomes:\n  profile_dir: profiles\nvoxels:\n  types:\n    Stone: 7\n".toList),
    (["profiles", "plains.json"], Text.Utf8.encode
      ("\x7b\"Samplers\": [], \"Voxel Density\": \"1\", \"Voxel Type\": \"Voxel(Stone)\", " ++
        "\"Voxel Shape\": \"CUBE\"\x7d").toList)], [], []⟩

theorem run_allOrNothing_plains : Accepted plainsArguments ∧
    ∃ o result, Options.read plainsArguments = .ok o ∧
      outcome? .standard plainsFiles plainsArguments = .ok result ∧
      AllOrNothing .standard plainsFiles o result := by
  have hread : Options.read plainsArguments = .ok ⟨.value (.ofString "config.yaml"),
      .value .sample, some "plains", ⟨0, 0, 0⟩, .value 1, none, .info⟩ := rfl
  have haccepted : Accepted plainsArguments := by
    unfold Accepted
    rw [hread]
    exact ⟨nofun, nofun⟩
  rcases run_allOrNothing .standard plainsFiles haccepted with ⟨-, hnone⟩ | ⟨-, hruns⟩
  · unfold outcome? at hnone
    rw [hread] at hnone
    cases hnone
  · exact ⟨haccepted, hruns⟩

/-- **A command line that is accepted is not run**: one that leaves the level of the log empty. -/
theorem noLevel_not_run : ¬ ∀ h files arguments, Accepted arguments →
    ∃ result, outcome? h files arguments = .ok result ∧ (result.exit = 0 ∨ result.exit = 1) := by
  intro hall
  have hread : Options.read ["--action", "list", "--log-level=--"] = .error .noLevel := rfl
  have haccepted : Accepted ["--action", "list", "--log-level=--"] := by
    unfold Accepted
    rw [hread]
    exact ⟨nofun, nofun⟩
  obtain ⟨result, hresult, -⟩ := hall .standard plainsFiles _ haccepted
  unfold outcome? at hresult
  rw [hread] at hresult
  cases hresult

end CommandLine
end Terrain
