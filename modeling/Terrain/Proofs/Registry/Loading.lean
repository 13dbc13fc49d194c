import Terrain.Proofs.Profile.Aborting
import Terrain.Registry

/-!
# What a load comes to

A load tries the files of its folder one after the other. A file that is refused is told and left
out; one whose text `Profile.Ends` the load stops it, and no registry is there.

* `tryAll_ok_iff`: the files are tried to the last if none of them ends the load.
* `load_returns_iff`: when a load, strict or not, comes to what it is meant to come to.
-/

namespace Terrain.Registry

variable {s : Profile.Setting} {t : FileTree} {folder p : Path} {a : Profile.Abort}

/-! ## 1. One file -/

/-- The text of a profile file, if it can be read as a text. -/
def textOf? (t : FileTree) (p : Path) : Option Text :=
  match t.read p with
  | .error _ => none
  | .ok b => (Text.Utf8.decode b).toOption.map Text.unifyLineEnds

/-- A refusal and an abort stay what they are under the name of a file. -/
theorem mapError_within_eq_aborted_iff {r : Except Profile.Failure Profile}
    {file field : Option String} :
    r.mapError (·.within file field) = .error (.aborted a) ↔ r = .error (.aborted a) := by
  rcases r with (r | b) | v
  · exact ⟨nofun, nofun⟩
  · exact Iff.rfl
  · exact ⟨nofun, nofun⟩

/-- **A file ends the load if its text does.** -/
theorem loadProfile_aborts_iff : (loadProfile s t p).1 = .error (.aborted a) ↔
    ∃ text, textOf? t p = some text ∧ Profile.Ends s text a := by
  unfold loadProfile textOf?
  cases t.read p with
  | error o => exact ⟨nofun, fun ⟨_, h, _⟩ => nomatch h⟩
  | ok b =>
    dsimp only
    cases Text.Utf8.decode b with
    | error r => exact ⟨nofun, fun ⟨_, h, _⟩ => nomatch h⟩
    | ok text =>
      dsimp only
      rw [mapError_within_eq_aborted_iff, Profile.read_aborts_iff]
      constructor
      · exact fun h => ⟨_, rfl, h⟩
      · intro hex
        obtain ⟨_, ht, h⟩ := hex
        cases ht
        exact h

/-! ## 2. All files -/

/-- No file of a folder that is tried ends the load. -/
def Loads (s : Profile.Setting) (t : FileTree) (folder : Path) : Prop :=
  ∀ name ∈ candidates t folder, ∀ text, textOf? t (folder.child name) = some text →
    ∀ a, ¬ Profile.Ends s text a

/-- One file is tried, whatever was tried before, unless it ends the load. -/
theorem tryFile_eq_error_iff {w : Progress} {name : String} :
    (∃ e, tryFile s t folder w name = .error e) ↔
      ∃ a, (loadProfile s t (folder.child name)).1 = .error (.aborted a) := by
  unfold tryFile
  dsimp only
  rcases loadProfile s t (folder.child name) with ⟨(r | a) | profile, log⟩
  · constructor <;> rintro ⟨_, h⟩ <;> cases h
  · exact ⟨fun _ => ⟨a, rfl⟩, fun _ => ⟨_, rfl⟩⟩
  · constructor <;> rintro ⟨_, h⟩ <;> cases h

theorem foldlM_tryFile_ok_iff : ∀ {names : List String} {w : Progress},
    (∃ w', names.foldlM (tryFile s t folder) w = .ok w') ↔
      ∀ name ∈ names, ∀ a, (loadProfile s t (folder.child name)).1 ≠ .error (.aborted a)
  | [], w => ⟨fun _ => nofun, fun _ => ⟨w, rfl⟩⟩
  | name :: names, w => by
    rw [List.foldlM_cons, List.forall_mem_cons]
    cases hstep : tryFile s t folder w name with
    | error e =>
      obtain ⟨a, ha⟩ := tryFile_eq_error_iff.1 ⟨e, hstep⟩
      constructor
      · intro hex
        obtain ⟨w', h⟩ := hex
        cases h
      · intro h
        exact absurd ha (h.1 a)
    | ok w₁ =>
      have hname : ∀ a, (loadProfile s t (folder.child name)).1 ≠ .error (.aborted a) := by
        intro a ha
        obtain ⟨e, he⟩ := tryFile_eq_error_iff.2 ⟨a, ha⟩
        rw [hstep] at he
        cases he
      exact foldlM_tryFile_ok_iff.trans ⟨fun h => ⟨hname, h⟩, And.right⟩

/-- **The files of a folder are tried to the last if none of them ends the load.** -/
theorem tryAll_ok_iff :
    (∃ w, tryAll s t folder (candidates t folder) = .ok w) ↔ Loads s t folder := by
  unfold tryAll Loads
  rw [foldlM_tryFile_ok_iff]
  constructor
  · intro h name hname text htext a ha
    exact h name hname a (loadProfile_aborts_iff.2 ⟨text, htext, ha⟩)
  · intro h name hname a ha
    obtain ⟨text, htext, ha⟩ := loadProfile_aborts_iff.1 ha
    exact h name hname text htext a ha

/-! ## 3. The load -/

/-- A load of a folder that is there, once its files are tried. -/
theorem load_of_isFolder (h : t.isFolder folder = .ok true) (strict : Bool) :
    (load s t folder strict).1 =
      match tryAll s t folder (candidates t folder) with
      | .error (a, _) => .error (.aborted a)
      | .ok w =>
        if strict && !w.registry.failures.isEmpty then .error (.refused w.registry.failures)
        else .ok w.registry := by
  unfold load
  rw [h]
  dsimp only
  cases tryAll s t folder (candidates t folder) with
  | error e => rfl
  | ok w =>
    dsimp only
    split <;> rfl

/-- Files that are listed in order are tried as they are listed. -/
theorem candidates_of_pairwise (h : ((t.list folder).filter isProfileName).Pairwise
    fun a b => (!decide (b < a)) = true) :
    candidates t folder = (t.list folder).filter isProfileName := List.mergeSort_of_pairwise h

/-- **When a load comes to what it is meant to come to.** Of a folder that is there, a load gives
    a registry, and a strict one a registry or the refusals of its files, exactly if no file that
    is tried ends it. The texts that end it are those of `Profile.Ends`, for a file as for a text
    on its own. -/
theorem load_returns_iff (h : t.isFolder folder = .ok true) :
    ((∃ r, (load s t folder false).1 = .ok r) ↔ Loads s t folder) ∧
    ((∃ r, (load s t folder true).1 = .ok r) ∨
      (∃ failures, (load s t folder true).1 = .error (.refused failures)) ↔ Loads s t folder) ∧
    (∀ p a, (loadProfile s t p).1 = .error (.aborted a) ↔
      ∃ text, textOf? t p = some text ∧ Profile.Ends s text a) ∧
    (∀ name text a, (Profile.read s name text).1 = .error (.aborted a) ↔
      Profile.Ends s text a) := by
  refine ⟨?_, ?_, fun p a => loadProfile_aborts_iff, fun name text a => Profile.read_aborts_iff⟩
  · rw [← tryAll_ok_iff, load_of_isFolder h]
    cases tryAll s t folder (candidates t folder) with
    | error e =>
      constructor
      · intro hex
        obtain ⟨_, h⟩ := hex
        cases h
      · intro hex
        obtain ⟨_, h⟩ := hex
        cases h
    | ok w => exact ⟨fun _ => ⟨w, rfl⟩, fun _ => ⟨w.registry, rfl⟩⟩
  · rw [← tryAll_ok_iff, load_of_isFolder h]
    cases tryAll s t folder (candidates t folder) with
    | error e =>
      constructor
      · rintro (⟨_, h⟩ | ⟨_, h⟩) <;> cases h
      · intro hex
        obtain ⟨_, h⟩ := hex
        cases h
    | ok w =>
      refine ⟨fun _ => ⟨w, rfl⟩, fun _ => ?_⟩
      dsimp only
      split
      · exact .inr ⟨_, rfl⟩
      · exact .inl ⟨_, rfl⟩

/-- What ended the reading of a file, if anything did. -/
def fileAbort? : Except Profile.Failure Profile → Option Profile.Abort
  | .error (.aborted a) => some a
  | _ => none

/-- What ended a load, if anything did. -/
def loadAbort? : Except LoadFailure Registry → Option Profile.Abort
  | .error (.aborted a) => some a
  | _ => none

theorem loadAbort?_eq_some_iff {r : Except LoadFailure Registry} :
    loadAbort? r = some a ↔ r = .error (.aborted a) := by
  refine ⟨fun h => ?_, fun h => ?_⟩
  · unfold loadAbort? at h
    split at h
    · cases h
      rfl
    · cases h
  · rw [h]
    rfl

/-- A document without samplers, whose density is the formula given. -/
def flatDocument (density : String) : Text :=
  "\x7b\"Samplers\": [], \"Voxel Density\": \"".toList ++ density.toList ++
    "\", \"Voxel Type\": \"Voxel(Stone)\", \"Voxel Shape\": \"SLAB\"\x7d".toList

/-- A folder of profile files. -/
def profileFolder (documents : List (String × Text)) : FileTree :=
  ⟨documents.map fun e => (["profiles", e.1], Text.Utf8.encode e.2), [], []⟩

/-- Profiles with one type of voxel. -/
def stoneSetting : Profile.Setting :=
  .standard fun w => if w = "Stone".toList then some 7 else none

/-- A folder with a profile, and with a text that is none. -/
def mixedFolder : FileTree :=
  profileFolder [("broken.json", ['[']), ("plains.json", flatDocument "Depth")]

theorem load_returns_iff_mixed : mixedFolder.isFolder ⟨"", ["profiles"]⟩ = .ok true ∧
    (∃ r, (load stoneSetting mixedFolder ⟨"", ["profiles"]⟩ false).1 = .ok r) ∧
    ∃ failures, (load stoneSetting mixedFolder ⟨"", ["profiles"]⟩ true).1 =
      .error (.refused failures) := by
  have hfolder : mixedFolder.isFolder ⟨"", ["profiles"]⟩ = .ok true := rfl
  obtain ⟨hlenient, hstrict, hfile, -⟩ := load_returns_iff (s := stoneSetting) hfolder
  have hnames : candidates mixedFolder ⟨"", ["profiles"]⟩ = ["broken.json", "plains.json"] := by
    rw [candidates_of_pairwise (by decide +kernel)]
    decide +kernel
  have hloads : Loads stoneSetting mixedFolder ⟨"", ["profiles"]⟩ := by
    intro name hname text htext a ha
    have hends := (hfile _ a).2 ⟨text, htext, ha⟩
    have hread : ∀ name ∈ ["broken.json", "plains.json"], fileAbort? (loadProfile stoneSetting
        mixedFolder (Path.child ⟨"", ["profiles"]⟩ name)).1 = none := by
      decide +kernel
    rw [hnames] at hname
    have hnone := hread name hname
    rw [hends] at hnone
    cases hnone
  refine ⟨hfolder, hlenient.2 hloads, (hstrict.2 hloads).resolve_left fun hex => ?_⟩
  -- one of the two files does not load
  obtain ⟨r, hr⟩ := hex
  have hnone : (load stoneSetting mixedFolder ⟨"", ["profiles"]⟩ true).1.toOption.isNone = true := by
    rw [load_of_isFolder hfolder, hnames]
    decide +kernel
  rw [hr] at hnone
  cases hnone

/-- A folder with one file. -/
def oneFile (text : Text) : FileTree := profileFolder [("big.json", text)]

/-- Profiles without types of voxels. -/
def bareSetting : Profile.Setting := .standard fun _ => none

/-- A profile with noise of the wavelength `10 ^ 309`. -/
def longWave : Text :=
  "\x7b\"Samplers\": [\x7b\"Name\": \"a\", \"Type\": \"Simplex\", \"Wavelength\": 1".toList ++
    List.replicate 309 '0' ++ "\x7d]\x7d".toList

/-- A load that is not strict gives no registry if a wavelength is beyond all doubles. -/
theorem load_aborts_longWave : (oneFile longWave).isFolder ⟨"", ["profiles"]⟩ = .ok true ∧
    (load bareSetting (oneFile longWave) ⟨"", ["profiles"]⟩ false).1 =
      .error (.aborted .tooLarge) := by
  have h : loadAbort? (load bareSetting (oneFile longWave) ⟨"", ["profiles"]⟩ false).1 =
      some .tooLarge := by
    decide +kernel
  exact ⟨rfl, loadAbort?_eq_some_iff.1 h⟩

end Terrain.Registry
