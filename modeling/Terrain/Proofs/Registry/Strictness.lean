import Terrain.Proofs.Registry.Files

/-!
# Strict loads

A strict load does what a lenient one does, file by file, and looks at the refusals only when all
files have been tried. The files are tried in the order of their names, so it does not matter in
which order the folder lists them.

* `SameFolder`: two trees have the same folder, listed in any order, as trees have that keep one
  set of files in two orders. `load_eq_of_sameFolder`: they load alike.
* `load_of_ok`: what a load comes to, strict or not, once one of them gives a registry.
* `load_agrees`: a strict load and a lenient one agree.
-/

namespace Terrain.Registry

variable {s : Profile.Setting} {t t' : FileTree} {folder : Path} {r : Registry}

/-! ## 1. Folders that are listed in another order -/

/-- A folder holds the same in two trees, and may be listed in another order. -/
structure SameFolder (t t' : FileTree) (folder : Path) : Prop where
  isFolder : t'.isFolder folder = t.isFolder folder
  list : (t'.list folder).Perm (t.list folder)
  read : ∀ name ∈ t.list folder, t'.read (folder.child name) = t.read (folder.child name)

/-- Each folder is the same in a tree that keeps the files in another order. -/
theorem sameFolder_of_reorders (h : t.Reorders t') (folder : Path) : SameFolder t t' folder :=
  ⟨h.isFolder_eq folder, h.list_perm folder, fun name _ => h.read_eq (folder.child name)⟩

theorem candidates_eq_of_sameFolder (h : SameFolder t t' folder) :
    candidates t' folder = candidates t folder := Named.sort_eq_of_perm (h.list.filter _)

/-- A file comes to the same if the same is read from it. -/
theorem loadProfile_congr {p : Path} (h : t'.read p = t.read p) :
    loadProfile s t' p = loadProfile s t p := by
  unfold loadProfile
  rw [h]

/-- **The order in which a folder is listed does not matter.** -/
theorem load_eq_of_sameFolder (h : SameFolder t t' folder) (strict : Bool) :
    load s t' folder strict = load s t folder strict := by
  have htry : tryAll s t' folder (candidates t folder) =
      tryAll s t folder (candidates t folder) := by
    refine Attempt.foldlM_congr fun name hname w => ?_
    have hlisted : name ∈ t.list folder := by
      have hfile := mem_candidates.1 hname
      exact List.mem_toFinset.1 (Finset.mem_filter.1 hfile).1
    unfold tryFile
    dsimp only
    rw [loadProfile_congr (h.read name hlisted)]
  unfold load
  rw [h.isFolder, candidates_eq_of_sameFolder h, htry]

/-! ## 2. Strict and lenient loads -/

/-- **What a load comes to, strict or not**, once one of them gives a registry. -/
theorem load_of_ok {strict : Bool} (h : (load s t folder strict).1 = .ok r) (strict' : Bool) :
    (load s t folder strict').1 =
      (if strict' && !r.failures.isEmpty then .error (.refused r.failures) else .ok r) ∧
    (load s t folder strict').2 = (load s t folder strict).2 := by
  unfold load at *
  cases hfolder : t.isFolder folder with
  | error o =>
    rw [hfolder] at h
    cases h
  | ok there =>
    rw [hfolder] at h
    cases there with
    | false => cases h
    | true =>
      dsimp only at h ⊢
      cases htry : tryAll s t folder (candidates t folder) with
      | error e =>
        rw [htry] at h
        cases h
      | ok w =>
        rw [htry] at h
        dsimp only at h ⊢
        split at h
        · cases h
        · cases h
          constructor <;> split <;> rfl

/-- A record of a file that loaded informs, and one of a file that failed tells an error. -/
theorem Tells.level {name : String} {record : Log.Record} (h : Tells s t folder name record) :
    record.level = if (outcome s t folder name).isOk then .info else .error := by
  cases h with
  | loaded h =>
    rw [h]
    rfl
  | refused h =>
    rw [h]
    rfl

/-- The files are tried in the order of their names, each once. -/
theorem pairwise_lt_candidates (t : FileTree) (folder : Path) :
    (candidates t folder).Pairwise (· < ·) :=
  Named.pairwise_lt_sort ((FileTree.nodup_list t folder).filter _)

/-- **A strict load agrees with a lenient one** that gives a registry. -/
structure Agrees (s : Profile.Setting) (t : FileTree) (folder : Path) (r : Registry)
    (lenient strict : Except LoadFailure Registry × List Log.Record) : Prop where
  /-- They tell the same. -/
  log : strict.2 = lenient.2
  /-- Each file is told in one record, whether it loaded or failed, and in the end all of them are. -/
  told : ∃ records, List.Forall₂ (Tells s t folder) (candidates t folder) records ∧
    List.Forall₂ (fun name record => record.level =
      if (outcome s t folder name).isOk then .info else .error) (candidates t folder) records ∧
    ownRecords strict.2 = records ++ [summaryRecord r folder]
  /-- The files are those that match, in the order of their names. -/
  order : (candidates t folder).Pairwise (· < ·) ∧
    ∀ name, name ∈ candidates t folder ↔ name ∈ t.list folder ∧ isProfileName name
  /-- The strict one raises the refusals if there are any. -/
  raises : (∃ failures, strict.1 = .error (.refused failures)) ↔ r.failures ≠ []
  /-- It raises the refusals that the registry holds, and its message has one entry for each file
      that failed, in the order of their names. -/
  failed : r.failures ≠ [] → strict.1 = .error (.refused r.failures) ∧
    (LoadFailure.refused r.failures).message = String.intercalate "\n"
      ((toString r.failures.length ++ " biome profile(s) failed to load:") ::
        r.failures.map fun e => "  " ++ e.1 ++ ": " ++ e.2.report.text) ∧
    r.failures.names.Pairwise (· < ·) ∧
    ∀ name, name ∈ r.failures.names ↔
      name ∈ candidates t folder ∧ ¬ (outcome s t folder name).isOk
  /-- It gives the same registry otherwise. -/
  returns : r.failures = [] → strict.1 = .ok r

/-- The refusals of a registry stand in the order of their names, one for each file that failed. -/
theorem failures_of_ok {strict : Bool} (h : (load s t folder strict).1 = .ok r) :
    r.failures.names.Pairwise (· < ·) ∧
    ∀ name, name ∈ r.failures.names ↔
      name ∈ candidates t folder ∧ ¬ (outcome s t folder name).isOk := by
  obtain ⟨-, records, hall, -⟩ := load_ok h
  rw [(failures_eq_refused h).1, names_refused]
  refine ⟨(pairwise_lt_candidates t folder).filter _, fun name => ?_⟩
  rw [List.mem_filter]
  refine and_congr_right fun hname => ?_
  obtain ⟨record, htells⟩ := exists_of_forall₂ hall name hname
  unfold refusal?
  cases htells with
  | loaded h =>
    rw [h]
    simp [Except.isOk, Except.toBool]
  | refused h =>
    rw [h]
    simp [Except.isOk, Except.toBool]

/-- Refusals in the order of their names are listed as they stand. -/
theorem message_of_pairwise {failures : Named Profile.Refusal}
    (h : failures.names.Pairwise (· < ·)) :
    (LoadFailure.refused failures).message = String.intercalate "\n"
      ((toString failures.length ++ " biome profile(s) failed to load:") ::
        failures.map fun e => "  " ++ e.1 ++ ": " ++ e.2.report.text) := by
  have hnames : Named.names (failures.map fun e => (e.1, e.2.report)) = failures.names := by
    simp [Named.names]
  have hsorted : Named.sorted (failures.map fun e => (e.1, e.2.report)) =
      failures.map fun e => (e.1, e.2.report) := by
    refine Named.sorted_eq_self ?_
    rw [hnames]
    exact h.imp fun h => String.not_lt.2 (Std.le_of_lt h)
  unfold LoadFailure.message Report.listing
  dsimp only
  rw [hsorted, List.length_map, List.map_map]
  rfl

/-- **Strict and lenient loads agree**, and neither depends on the order in which a folder is
    listed. -/
theorem load_agrees (h : (load s t folder false).1 = .ok r) (hsame : SameFolder t t' folder) :
    Agrees s t folder r (load s t folder false) (load s t' folder true) ∧
    load s t' folder false = load s t folder false := by
  rw [load_eq_of_sameFolder hsame, load_eq_of_sameFolder hsame]
  obtain ⟨-, records, hall, hown⟩ := load_ok h
  obtain ⟨hresult, hlog⟩ := load_of_ok h true
  obtain ⟨hpairwise, hmem⟩ := failures_of_ok h
  refine ⟨⟨hlog, ⟨records, hall, hall.imp fun _ _ htells => htells.level, hlog ▸ hown⟩,
    ⟨pairwise_lt_candidates t folder, fun name => ?_⟩, ?_, fun hne => ?_, fun hnil => ?_⟩, rfl⟩
  · unfold candidates Named.sort
    rw [List.mem_mergeSort, List.mem_filter]
  · rw [hresult]
    cases hfailures : r.failures with
    | nil => simp
    | cons e es => simp
  · refine ⟨?_, message_of_pairwise hpairwise, hpairwise, hmem⟩
    rw [hresult, if_pos (by simpa using hne)]
  · rw [hresult, hnil]
    rfl

/-- The folder of `mixedFolder`, listed the other way round. -/
def mixedFolderReversed : FileTree := { mixedFolder with files := mixedFolder.files.reverse }

theorem load_agrees_mixed : ∃ r,
    (load stoneSetting mixedFolder ⟨"", ["profiles"]⟩ false).1 = .ok r ∧
    mixedFolderReversed.list ⟨"", ["profiles"]⟩ = ["plains.json", "broken.json"] ∧
    SameFolder mixedFolder mixedFolderReversed ⟨"", ["profiles"]⟩ ∧
    Agrees stoneSetting mixedFolder ⟨"", ["profiles"]⟩ r
      (load stoneSetting mixedFolder ⟨"", ["profiles"]⟩ false)
      (load stoneSetting mixedFolderReversed ⟨"", ["profiles"]⟩ true) := by
  have hok : (load stoneSetting mixedFolder ⟨"", ["profiles"]⟩ false).1.isOk = true := by
    rw [load_of_isFolder rfl, candidates_of_pairwise (by decide +kernel)]
    decide +kernel
  have hlist : mixedFolderReversed.list ⟨"", ["profiles"]⟩ = ["plains.json", "broken.json"] := by
    decide +kernel
  have horder : mixedFolder.Reorders mixedFolderReversed :=
    ⟨List.reverse_perm _, by decide, rfl, rfl⟩
  have hsame : SameFolder mixedFolder mixedFolderReversed ⟨"", ["profiles"]⟩ :=
    sameFolder_of_reorders horder _
  cases h : (load stoneSetting mixedFolder ⟨"", ["profiles"]⟩ false).1 with
  | error f =>
    rw [h] at hok
    cases hok
  | ok r => exact ⟨r, rfl, hlist, hsame, (load_agrees h hsame).1⟩

end Terrain.Registry
