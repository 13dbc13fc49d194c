import Terrain.Proofs.CommandLine.Running
import Terrain.Proofs.Registry.Strictness

/-!
# The actions agree about profiles

A listing, a validation and a sampling read one configuration and load the profiles it names. They
are strict in different ways, and do different things with what they load, but to all of them the
same profiles are good. Only a listing can meet an output that refuses a name.

* `loads_true_iff`: a strict load gives the registry of a lenient one that has no failures.
* `Loads.failures_eq_nil_iff`, `Loads.mem_names_of_profileFile`: what the files of the folder make of
  a registry.
* `exit_validate_iff`, `exit_list_iff`, `of_exit_sample`: when the actions end with 0.
* `actions_agree`: the actions agree, whatever their other options, but for names that the output
  refuses.
* `listing_refused`: where it refuses one, they do not.
-/

namespace Terrain

/-- The names of a registry are those of its profiles. -/
theorem Registry.mem_names_iff {r : Registry} {name : String} :
    name ∈ r.names ↔ name ∈ r.profiles.names := List.mem_mergeSort

namespace CommandLine

variable {h : Host} {files : FileTree} {c : Given Path} {config : Value} {r r' : Registry} {name : String}

/-! ## 1. Registries -/

/-- A configuration leads to one registry. -/
theorem Loads.unique {force : Bool} (hl : Loads h files config force r)
    (hl' : Loads h files config force r') : r' = r := by
  obtain ⟨settings, types, hsettings, htypes, hload⟩ := hl
  obtain ⟨settings', types', hsettings', htypes', hload'⟩ := hl'
  rw [hsettings] at hsettings'
  cases hsettings'
  rw [htypes] at htypes'
  cases htypes'
  rw [hload] at hload'
  cases hload'
  rfl

/-- **A strict load gives the registry of a lenient one**, if it has no failures. -/
theorem loads_true_iff :
    Loads h files config true r ↔ Loads h files config false r ∧ r.failures = [] := by
  constructor
  · rintro ⟨settings, types, hsettings, htypes, hload⟩
    have hnone : r.failures = [] := by
      have hagain := (Registry.load_of_ok hload true).1
      rw [Bool.true_or] at hload
      rw [hload] at hagain
      cases hfailures : r.failures with
      | nil => rfl
      | cons e es =>
        rw [hfailures] at hagain
        cases hagain
    refine ⟨⟨settings, types, hsettings, htypes, ?_⟩, hnone⟩
    rw [(Registry.load_of_ok hload _).1, hnone, List.isEmpty_nil, Bool.not_true, Bool.and_false]
    rfl
  · rintro ⟨⟨settings, types, hsettings, htypes, hload⟩, hnone⟩
    refine ⟨settings, types, hsettings, htypes, ?_⟩
    rw [(Registry.load_of_ok hload _).1, hnone, List.isEmpty_nil, Bool.not_true, Bool.and_false]
    rfl

/-! ## 2. Files -/

/-- A file with a profile, in the folder that the configuration names, and what it comes to, whatever
    the others. -/
def ProfileFile (h : Host) (files : FileTree) (c : Given Path) (name : String)
    (result : Except Profile.Failure Profile) : Prop :=
  ∃ config settings types, Configured h files c config ∧ Settings.biomes config = .ok settings ∧
    Settings.voxelTypes config = .ok types ∧
    name ∈ Registry.files files settings.profileFolder ∧
    Registry.outcome (h.setting types) files settings.profileFolder name = result

/-- The profile files are those of the folder that is loaded. -/
theorem Loads.exists_folder {force : Bool} (hconfig : Configured h files c config)
    (hl : Loads h files config force r) : ∃ s folder strict,
      (Registry.load s files folder strict).1 = .ok r ∧
      ∀ name result, ProfileFile h files c name result ↔
        name ∈ Registry.files files folder ∧ Registry.outcome s files folder name = result := by
  obtain ⟨settings, types, hsettings, htypes, hload⟩ := hl
  refine ⟨_, _, _, hload, fun name result => ⟨?_, ?_⟩⟩
  · rintro ⟨config', settings', types', hconfig', hsettings', htypes', hfile⟩
    rw [hconfig.unique hconfig'] at hsettings' htypes'
    rw [hsettings] at hsettings'
    cases hsettings'
    rw [htypes] at htypes'
    cases htypes'
    exact hfile
  · exact fun hfile => ⟨config, settings, types, hconfig, hsettings, htypes, hfile⟩

/-- **A registry has no failures if all files load.** -/
theorem Loads.failures_eq_nil_iff (hconfig : Configured h files c config)
    (hl : Loads h files config false r) :
    r.failures = [] ↔ ∀ name result, ProfileFile h files c name result → result.isOk := by
  obtain ⟨s, folder, strict, hload, hfiles⟩ := hl.exists_folder hconfig
  have hmem := (Registry.failures_of_ok hload).2
  constructor
  · intro hnone name result hfile
    obtain ⟨hname, rfl⟩ := (hfiles name result).1 hfile
    by_contra hnot
    have hfailed := (hmem name).2 ⟨Registry.mem_candidates.2 hname, hnot⟩
    rw [hnone] at hfailed
    cases hfailed
  · intro hall
    have hnames : r.failures.names = [] := by
      refine List.eq_nil_iff_forall_not_mem.2 fun name hfailed => ?_
      obtain ⟨hname, hnot⟩ := (hmem name).1 hfailed
      exact hnot (hall name _ ((hfiles name _).2 ⟨Registry.mem_candidates.1 hname, rfl⟩))
    exact List.map_eq_nil_iff.1 hnames

/-- **The stem of a file that loads is a name of the registry.** -/
theorem Loads.mem_names_of_profileFile {p : Profile} (hconfig : Configured h files c config)
    (hl : Loads h files config false r) (hfile : ProfileFile h files c name (.ok p)) :
    Path.stem name ∈ r.names := by
  obtain ⟨s, folder, strict, hload, hfiles⟩ := hl.exists_folder hconfig
  obtain ⟨hname, hp⟩ := (hfiles name _).1 hfile
  obtain ⟨rfl, -⟩ := Registry.load_ok hload
  have hloaded := Registry.mem_loaded_iff.2 ⟨name, Registry.mem_candidates.2 hname, hp, rfl⟩
  rw [Registry.mem_names_iff, Named.mem_names_putAll]
  exact .inr (List.mem_map.2 ⟨_, hloaded, rfl⟩)

/-! ## 3. Actions -/

/-- Options with another configuration and another action. -/
def Options.asking (o : Options) (c : Given Path) (a : Action) : Options :=
  { o with config := c, action := .value a }

/-- Options that ask for a profile to be sampled. -/
def Options.sampling (o : Options) (c : Given Path) (b : String) : Options :=
  { o.asking c .sample with biome := some b }

theorem exit_list_iff {o : Options} : (run h files (o.asking c .list)).exit = 0 ↔
    ∃ config r, Configured h files c config ∧ Loads h files config false r ∧ Shows h r :=
  exit_of_list rfl

theorem exit_validate_iff {o : Options} : (run h files (o.asking c .validate)).exit = 0 ↔
    ∃ config r, Configured h files c config ∧ Loads h files config false r ∧
      r.failures = [] := by
  rw [exit_eq_zero_iff]
  constructor
  · rintro ⟨config, w, hconfig, -, r, hloads⟩
    exact ⟨config, r, hconfig, loads_true_iff.1 hloads⟩
  · rintro ⟨config, r, hconfig, hloads⟩
    exact ⟨config, none, hconfig, rfl, r, loads_true_iff.2 hloads⟩

/-- A sampling that ends with 0 has found its profile. -/
theorem of_exit_sample {o : Options} {b : String} (hexit : (run h files (o.sampling c b)).exit = 0) :
    ∃ config r, Configured h files c config ∧ Loads h files config false r ∧ b ∈ r.names := by
  obtain ⟨config, w, hconfig, path, patch, -, hsamples⟩ := exit_eq_zero_iff.1 hexit
  cases hsamples with
  | sampled hbiome _ hloads hprofile =>
    cases hbiome
    have hb : b ∈ Registry.names _ := Registry.mem_names_iff.2 (Named.mem_names_of_get? hprofile)
    exact ⟨config, _, hconfig, hloads, hb⟩

/-- A listing that ends with 0 prints the names of the registry that the configuration leads to. -/
theorem lines_list {o : Options} (hconfig : Configured h files c config)
    (hl : Loads h files config false r) (hshows : Shows h r) :
    (run h files (o.asking c .list)).lines = r.names := by
  rw [lines_of_loads rfl hconfig hl]
  exact List.takeWhile_eq_self_iff.2 hshows

/-! ## 4. Agreement -/

/-- A listing meets a name of a profile that the output refuses. -/
def Hindered (h : Host) (files : FileTree) (c : Given Path) : Prop :=
  ∃ config r, Configured h files c config ∧ Loads h files config false r ∧ ¬ Shows h r

/-- Profiles load exactly if a listing ends with 0, or meets a name that the output refuses. -/
theorem exists_loads_iff {o : Options} :
    (∃ config r, Configured h files c config ∧ Loads h files config false r) ↔
      (run h files (o.asking c .list)).exit = 0 ∨ Hindered h files c := by
  rw [exit_list_iff]
  constructor
  · rintro ⟨config, r, hconfig, hloads⟩
    by_cases hshows : Shows h r
    · exact .inl ⟨config, r, hconfig, hloads, hshows⟩
    · exact .inr ⟨config, r, hconfig, hloads, hshows⟩
  · rintro (⟨config, r, hconfig, hloads, -⟩ | ⟨config, r, hconfig, hloads, -⟩)
    · exact ⟨config, r, hconfig, hloads⟩
    · exact ⟨config, r, hconfig, hloads⟩

/-- **A listing, a validation and a sampling agree**, but for a listing that meets a name that the
    output refuses. -/
structure Agree (h : Host) (files : FileTree) (c : Given Path) (b : String)
    (list validate sample : Outcome) : Prop where
  /-- The validation ends with 0 exactly if all files load, and the listing ends with 0 or meets a
      name that is refused. -/
  validates : validate.exit = 0 ↔ (list.exit = 0 ∨ Hindered h files c) ∧
    ∀ name result, ProfileFile h files c name result → result.isOk
  /-- A listing that meets such a name ends with 1. -/
  hinders : Hindered h files c → list.exit = 1
  /-- If the validation and the listing end with 0, the listing prints the stem of every file. -/
  prints : validate.exit = 0 → list.exit = 0 →
    ∀ name result, ProfileFile h files c name result → Path.stem name ∈ list.lines
  /-- If the listing ends with 0 and a file fails, the validation ends with 1. -/
  refuses : list.exit = 0 → (∃ name e, ProfileFile h files c name (.error e)) → validate.exit = 1
  /-- If the sampling ends with 0, the listing does and prints the profile, or it meets a name that
      is refused. -/
  finds : sample.exit = 0 → list.exit = 0 ∧ b ∈ list.lines ∨ Hindered h files c
  /-- If the listing ends with 0 and does not print the profile, the sampling ends with 1. -/
  misses : list.exit = 0 → b ∉ list.lines → sample.exit = 1

/-- **The actions agree about which profiles are good**, on every host, for all files, every
    configuration and every profile, and whatever the other options are. -/
theorem actions_agree (h : Host) (files : FileTree) (c : Given Path) (b : String)
    (l v s : Options) :
    Agree h files c b (run h files (l.asking c .list)) (run h files (v.asking c .validate))
      (run h files (s.sampling c b)) := by
  have hvalidates : (run h files (v.asking c .validate)).exit = 0 ↔
      ((run h files (l.asking c .list)).exit = 0 ∨ Hindered h files c) ∧
        ∀ name result, ProfileFile h files c name result → result.isOk := by
    rw [exit_validate_iff, ← exists_loads_iff]
    constructor
    · rintro ⟨config, r, hconfig, hloads, hnone⟩
      exact ⟨⟨config, r, hconfig, hloads⟩, (hloads.failures_eq_nil_iff hconfig).1 hnone⟩
    · rintro ⟨⟨config, r, hconfig, hloads⟩, hall⟩
      exact ⟨config, r, hconfig, hloads, (hloads.failures_eq_nil_iff hconfig).2 hall⟩
  have hhinders (hhindered : Hindered h files c) :
      ¬ (run h files (l.asking c .list)).exit = 0 := by
    intro hexit
    obtain ⟨config, r, hconfig, hloads, hshows⟩ := exit_list_iff.1 hexit
    obtain ⟨config', r', hconfig', hloads', hnot⟩ := hhindered
    rw [hconfig.unique hconfig'] at hloads'
    rw [hloads.unique hloads'] at hnot
    exact hnot hshows
  have hfinds (hexit : (run h files (s.sampling c b)).exit = 0) :
      (run h files (l.asking c .list)).exit = 0 ∧ b ∈ (run h files (l.asking c .list)).lines ∨
        Hindered h files c := by
    obtain ⟨config, r, hconfig, hloads, hb⟩ := of_exit_sample hexit
    by_cases hshows : Shows h r
    · refine .inl ⟨exit_list_iff.2 ⟨config, r, hconfig, hloads, hshows⟩, ?_⟩
      rwa [lines_list hconfig hloads hshows]
    · exact .inr ⟨config, r, hconfig, hloads, hshows⟩
  refine ⟨hvalidates, fun hhindered => exit_eq_one_iff.2 (hhinders hhindered), ?_, ?_, hfinds, ?_⟩
  · intro hexit hlist name result hfile
    have hok := (hvalidates.1 hexit).2 name result hfile
    obtain ⟨config, r, hconfig, hloads, hshows⟩ := exit_list_iff.1 hlist
    rw [lines_list hconfig hloads hshows]
    cases result with
    | error e => cases hok
    | ok p => exact hloads.mem_names_of_profileFile hconfig hfile
  · rintro - ⟨name, e, hfile⟩
    refine exit_eq_one_iff.2 fun hexit => ?_
    exact nomatch (hvalidates.1 hexit).2 name _ hfile
  · intro hlist hnot
    refine exit_eq_one_iff.2 fun hexit => ?_
    rcases hfinds hexit with ⟨-, hprints⟩ | hhindered
    · exact hnot hprints
    · exact hhinders hhindered hlist

/-! ## 5. Names that the output refuses -/

/-- A configuration that names a folder of profiles and a type of voxel. -/
def stoneConfig : Value :=
  .map [(.text "biomes", .map [(.text "profile_dir", .text "profiles")]),
    (.text "voxels", .map [(.text "types", .map [(.text "Stone", .int 7)])])]

/-- The standard host, with that configuration in every file. -/
def stoneHost : Host := { Host.standard with readYaml := fun _ => .ok stoneConfig }

/-- The name of a file that is no text: its last character is half of a pair. -/
def halfName : String := "caf" ++ .ofList [Text.ofHalf 0xDCE9]

/-- A folder with two good profiles. The name of the second is no text. -/
def halfFiles : FileTree :=
  let folder :=
    Registry.profileFolder [("a.json", Registry.flatDocument "Depth"),
      (halfName ++ ".json", Registry.flatDocument "Moisture")]
  { folder with files := (["config.yaml"], []) :: folder.files }

/-- Both profiles load. -/
theorem exists_loads_half : ∃ r, Loads stoneHost halfFiles stoneConfig false r ∧
    r.failures = [] ∧ r.names = ["a", halfName] := by
  have hload : (Registry.load (stoneHost.setting ⟨[⟨"Stone", 7⟩], 0⟩) halfFiles
      ⟨"", ["profiles"]⟩ false).1.toOption.map (fun r => (r.failures, r.profiles.names)) =
        some ([], ["a", halfName]) := by
    rw [Registry.load_of_isFolder rfl, Registry.candidates_of_pairwise (by decide +kernel)]
    decide +kernel
  obtain ⟨r, hr, hpair⟩ := Option.map_eq_some_iff.1 hload
  obtain ⟨hnone, hnames⟩ := Prod.mk.inj hpair
  refine ⟨r, ⟨⟨0, ⟨"", ["profiles"]⟩, false, []⟩, ⟨[⟨"Stone", 7⟩], 0⟩, rfl, rfl, ?_⟩, hnone, ?_⟩
  · exact Attempt.toOption_eq_some_iff.1 hr
  · unfold Registry.names
    rw [hnames]
    exact List.mergeSort_of_pairwise (by decide +kernel)

/-- **A listing does not agree with a validation** where the output refuses a name: all files load,
    the validation ends with 0, and the listing ends with 1 and has printed part of the names. -/
theorem listing_refused : ∃ h files c l v,
    (∀ name result, ProfileFile h files c name result → result.isOk) ∧
    (run h files (Options.asking v c .validate)).exit = 0 ∧
    (run h files (Options.asking l c .list)).exit = 1 ∧
    (run h files (Options.asking l c .list)).lines = ["a"] := by
  obtain ⟨r, hloads, hnone, hnames⟩ := exists_loads_half
  have hconfig : Configured stoneHost halfFiles (.value ⟨"", ["config.yaml"]⟩) stoneConfig :=
    ⟨_, rfl⟩
  have hrefused : ¬ Shows stoneHost r := by
    intro hshows
    have hprints := hshows halfName (by simp [hnames])
    revert hprints
    decide
  let o : Options := ⟨.value ⟨"", ["config.yaml"]⟩, .value .list, none, ⟨0, 0, 0⟩, .value 1, none,
    .info⟩
  refine ⟨stoneHost, halfFiles, _, o, o, (hloads.failures_eq_nil_iff hconfig).1 hnone,
    exit_validate_iff.2 ⟨stoneConfig, r, hconfig, hloads, hnone⟩, ?_, ?_⟩
  · refine exit_eq_one_iff.2 fun hexit => ?_
    obtain ⟨config, r', hconfig', hloads', hshows⟩ := exit_list_iff.1 hexit
    rw [hconfig.unique hconfig'] at hloads'
    rw [hloads.unique hloads'] at hshows
    exact hrefused hshows
  · rw [lines_of_loads rfl hconfig hloads, hnames]
    decide

end CommandLine
end Terrain
