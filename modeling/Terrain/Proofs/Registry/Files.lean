import Terrain.Proofs.FileTree.Reordering
import Terrain.Proofs.Named
import Terrain.Proofs.Registry.Loading

/-!
# The files that a registry accounts for

A load tries the files of its folder that hold profiles. The profile of a file that loads is kept
under the file's stem, and the refusal of a file under the file's name.

* `eq_of_stem_eq`: two such files have one stem only if they are `.json` and `.json.json`.
* `load_ok`: what the files come to, if none of them ends the load.
* `load_accounts`: a registry accounts for every file, but for `.json` if `.json.json` takes its
  place.
-/

namespace Terrain.Registry

variable {s : Profile.Setting} {t : FileTree} {folder : Path}

/-! ## 1. Stems -/

/-- The stem of a name with an ending: what stands before, unless nothing does. -/
theorem stem_append {base e : Text} (hne : e ≠ []) (hdot : '.' ∉ e) :
    Path.stem (String.ofList (base ++ '.' :: e)) =
      if base = [] then String.ofList ('.' :: e) else String.ofList base := by
  have htake : (e.reverse ++ '.' :: base.reverse).takeWhile (· ≠ '.') = e.reverse := by
    rw [List.takeWhile_append_of_pos, List.takeWhile_cons]
    · simp
    · intro c hc
      simpa using fun he : c = '.' => hdot (he ▸ List.mem_reverse.1 hc)
  unfold Path.stem
  simp only [String.toList_ofList, List.reverse_append, List.reverse_cons, List.append_assoc,
    List.singleton_append, htake]
  by_cases hb : base = []
  · simp [hb]
  · simp [hb, hne]

/-- The name of a profile file is something before the ending. -/
theorem isProfileName_iff {name : String} :
    isProfileName name = true ↔ ∃ base : Text, name = String.ofList (base ++ ending.toList) := by
  unfold isProfileName
  rw [List.isSuffixOf_iff_suffix]
  constructor
  · intro hex
    obtain ⟨base, hbase⟩ := hex
    exact ⟨base, by rw [hbase, String.ofList_toList]⟩
  · intro hex
    obtain ⟨base, rfl⟩ := hex
    exact ⟨base, String.toList_ofList.symm⟩

/-- The stem of a profile file is what stands before the ending, unless nothing does. -/
theorem stem_profile (base : Text) : Path.stem (String.ofList (base ++ ending.toList)) =
    if base = [] then ".json" else String.ofList base :=
  stem_append (e := "json".toList) (by decide) (by decide)

/-- **Two profile files have one stem** only if they are one file, or `.json` and `.json.json`. -/
theorem eq_of_stem_eq {a b : String} (ha : isProfileName a = true) (hb : isProfileName b = true)
    (h : Path.stem a = Path.stem b) :
    a = b ∨ (a = ".json" ∧ b = ".json.json") ∨ (a = ".json.json" ∧ b = ".json") := by
  obtain ⟨u, rfl⟩ := isProfileName_iff.1 ha
  obtain ⟨v, rfl⟩ := isProfileName_iff.1 hb
  -- what stands before an ending is `.json` itself if the stem is
  have twice {base : Text} (hbase : String.ofList base = ".json") :
      String.ofList (base ++ ending.toList) = ".json.json" := by
    rw [String.ofList_append, hbase, String.ofList_toList]
    rfl
  rw [stem_profile, stem_profile] at h
  by_cases hu : u = []
  · by_cases hv : v = []
    · exact .inl (by rw [hu, hv])
    · rw [if_pos hu, if_neg hv] at h
      exact .inr (.inl ⟨by rw [hu]; rfl, twice h.symm⟩)
  · by_cases hv : v = []
    · rw [if_neg hu, if_pos hv] at h
      exact .inr (.inr ⟨twice h, by rw [hv]; rfl⟩)
    · rw [if_neg hu, if_neg hv] at h
      exact .inl (by rw [String.ofList_injective h])

/-! ## 2. What a file comes to -/

section Outcomes

variable (s t folder)

/-- What a file of the folder comes to, whatever the others. -/
def outcome (name : String) : Except Profile.Failure Profile :=
  (loadProfile s t (folder.child name)).1

/-- The profiles of files, under their stems. -/
def loaded (names : List String) : Named Profile :=
  names.filterMap fun name => (outcome s t folder name).toOption.map (Path.stem name, ·)

/-- The refusal of a file, if it is refused. -/
def refusal? (name : String) : Option Profile.Refusal :=
  match outcome s t folder name with
  | .error (.refused e) => some e
  | _ => none

/-- The refusals of files, under their names. -/
def refused (names : List String) : Named Profile.Refusal :=
  names.filterMap fun name => (refusal? s t folder name).map (name, ·)

/-- A record tells what a file came to. -/
inductive Tells (name : String) : Log.Record → Prop
  | loaded {p : Profile} (h : outcome s t folder name = .ok p) :
      Tells name (loadedRecord (Path.stem name) (folder.child name))
  | refused {e : Profile.Refusal} (h : outcome s t folder name = .error (.refused e)) :
      Tells name (failedRecord (Path.stem name) e)

end Outcomes

/-- The records that the registry itself tells. -/
def ownRecords (log : List Log.Record) : List Log.Record := log.filter (·.source = .registry)

/-- Compiling tells nothing in the name of the registry. -/
theorem ownRecords_loadProfile (s : Profile.Setting) (t : FileTree) (p : Path) :
    ownRecords (loadProfile s t p).2 = [] := by
  have hsteps (steps : List Formula.Step) :
      ownRecords (steps.map Profile.stepRecord) = [] := by
    unfold ownRecords
    rw [List.filter_eq_nil_iff]
    intro r hr
    obtain ⟨step, -, rfl⟩ := List.mem_map.1 hr
    cases step <;> simp [Profile.stepRecord]
  have hcompile (name : String) (v : Value) : ownRecords (Profile.compile s name v).2 = [] := by
    unfold Profile.compile
    rcases (Profile.compileDocument s name v).run .empty with ⟨f | p, w⟩
    · exact hsteps _
    · exact (List.filter_append _ _).trans (congrArg (· ++ _) (hsteps _))
  unfold loadProfile
  cases t.read p with
  | error o => rfl
  | ok b =>
    dsimp only
    cases Text.Utf8.decode b with
    | error r => rfl
    | ok text =>
      dsimp only
      unfold Profile.read
      cases Profile.document s (Text.unifyLineEnds text) with
      | error f => rfl
      | ok v => exact hcompile _ v

/-- **A file that is tried** is put where it belongs and told, unless it ends the load. -/
theorem tryFile_ok {w w' : Progress} {name : String} (h : tryFile s t folder w name = .ok w') :
    w'.registry = ⟨w.registry.profiles.putAll (loaded s t folder [name]),
      w.registry.failures.putAll (refused s t folder [name])⟩ ∧
    ∃ record, Tells s t folder name record ∧
      ownRecords w'.log = ownRecords w.log ++ [record] := by
  have hlog := ownRecords_loadProfile s t (folder.child name)
  have htold (record : Log.Record) (hown : record.source = .registry) :
      ownRecords (w.log ++ (loadProfile s t (folder.child name)).2 ++ [record]) =
        ownRecords w.log ++ [record] := by
    unfold ownRecords at *
    rw [List.filter_append, List.filter_append, hlog, List.append_nil]
    simp [hown]
  unfold tryFile at h
  dsimp only at h
  unfold loaded refused refusal?
  rcases hload : loadProfile s t (folder.child name) with ⟨(e | a) | p, log⟩
  · have hout : outcome s t folder name = .error (.refused e) := congrArg (·.1) hload
    rw [hload] at h htold
    cases h
    simp only [List.filterMap_cons, List.filterMap_nil, hout]
    exact ⟨rfl, _, .refused hout, htold _ rfl⟩
  · rw [hload] at h
    cases h
  · have hout : outcome s t folder name = .ok p := congrArg (·.1) hload
    rw [hload] at h htold
    cases h
    simp only [List.filterMap_cons, List.filterMap_nil, hout]
    exact ⟨rfl, _, .loaded hout, htold _ rfl⟩

theorem loaded_append (before after : List String) : loaded s t folder (before ++ after) =
    loaded s t folder before ++ loaded s t folder after := List.filterMap_append

theorem refused_append (before after : List String) : refused s t folder (before ++ after) =
    refused s t folder before ++ refused s t folder after := List.filterMap_append

/-- **What the files come to**, if none of them ends the load. -/
theorem foldlM_tryFile_ok : ∀ {names : List String} {w w' : Progress},
    names.foldlM (tryFile s t folder) w = .ok w' →
    w'.registry = ⟨w.registry.profiles.putAll (loaded s t folder names),
      w.registry.failures.putAll (refused s t folder names)⟩ ∧
    ∃ records, List.Forall₂ (Tells s t folder) names records ∧
      ownRecords w'.log = ownRecords w.log ++ records
  | [], w, w', h => by
    cases h
    exact ⟨rfl, [], .nil, (List.append_nil _).symm⟩
  | name :: names, w, w', h => by
    rw [List.foldlM_cons] at h
    cases hstep : tryFile s t folder w name with
    | error e =>
      rw [hstep] at h
      cases h
    | ok w₁ =>
      rw [hstep] at h
      obtain ⟨hregistry₁, record, htells, hown₁⟩ := tryFile_ok hstep
      obtain ⟨hregistry, records, hall, hown⟩ := foldlM_tryFile_ok h
      refine ⟨?_, record :: records, .cons htells hall, ?_⟩
      · rw [← List.singleton_append, loaded_append, refused_append, Named.putAll_append,
          Named.putAll_append, hregistry, hregistry₁]
      · rw [hown, hown₁, List.append_assoc]
        rfl

/-- **A load that gives a registry** has tried all files and told of each. -/
theorem load_ok {strict : Bool} {r : Registry} (h : (load s t folder strict).1 = .ok r) :
    r = ⟨Named.putAll [] (loaded s t folder (candidates t folder)),
      Named.putAll [] (refused s t folder (candidates t folder))⟩ ∧
    ∃ records, List.Forall₂ (Tells s t folder) (candidates t folder) records ∧
      ownRecords (load s t folder strict).2 = records ++ [summaryRecord r folder] := by
  have hsummary : (summaryRecord r folder).source = .registry := by
    unfold summaryRecord
    split <;> rfl
  unfold load at *
  cases hfolder : t.isFolder folder with
  | error o =>
    rw [hfolder] at h
    cases h
  | ok there =>
    rw [hfolder] at h
    cases there with
    | false => cases h
    | true =>
      dsimp only at h ⊢
      cases htry : tryAll s t folder (candidates t folder) with
      | error e =>
        rw [htry] at h
        cases h
      | ok w =>
        rw [htry] at h
        obtain ⟨hregistry, records, hall, hown⟩ := foldlM_tryFile_ok htry
        dsimp only at h ⊢
        split at h
        · cases h
        · rename_i hlenient
          cases h
          rw [if_neg hlenient]
          refine ⟨hregistry, records, hall, ?_⟩
          unfold ownRecords at *
          rw [List.filter_append, hown]
          simp [hsummary]

/-! ## 3. The files of a folder -/

/-- The profile files of a folder: the names in it that have the ending. -/
def files (t : FileTree) (folder : Path) : Finset String :=
  (t.list folder).toFinset.filter fun name => isProfileName name

theorem mem_candidates {name : String} : name ∈ candidates t folder ↔ name ∈ files t folder := by
  unfold candidates files Named.sort
  rw [List.mem_mergeSort, List.mem_filter, Finset.mem_filter, List.mem_toFinset]

theorem nodup_candidates (t : FileTree) (folder : Path) : (candidates t folder).Nodup := by
  unfold candidates Named.sort
  rw [(List.mergeSort_perm _ _).nodup_iff]
  exact (FileTree.nodup_list t folder).filter _

theorem length_candidates (t : FileTree) (folder : Path) :
    (candidates t folder).length = (files t folder).card := by
  rw [← List.toFinset_card_of_nodup (nodup_candidates t folder)]
  congr 1
  ext name
  rw [List.mem_toFinset, mem_candidates]

/-- The files are tried in the order of their names. -/
theorem pairwise_candidates (t : FileTree) (folder : Path) :
    (candidates t folder).Pairwise fun a b => ¬ b < a := Named.pairwise_sort _

/-! ## 4. The account -/

section Account

variable (s t folder)

/-- The file that another takes the place of, if both load. -/
def overwritten : Finset String :=
  if ∀ name ∈ [".json", ".json.json"], name ∈ files t folder ∧ (outcome s t folder name).isOk
  then {".json"} else ∅

/-- **A registry accounts for the files of a folder**, but for those that are lost: what each comes
    to on its own is found by its name or its stem, nothing else is found, and the numbers are
    right. -/
structure Accounts (r : Registry) (lost : Finset String) : Prop where
  file : ∀ name ∈ files t folder \ lost,
    (∃ e, outcome s t folder name = .error (.refused e) ∧ r.failures.get? name = some e) ∨
    ∃ p, outcome s t folder name = .ok p ∧ r.find? (Path.stem name) = some p
  profile : ∀ stem ∈ r.names, ∃ name ∈ files t folder \ lost, Path.stem name = stem ∧
    ∃ p, outcome s t folder name = .ok p
  failure : ∀ name e, r.failures.get? name = some e →
    name ∈ files t folder ∧ outcome s t folder name = .error (.refused e)
  count : r.size + r.failures.length + lost.card = (files t folder).card

end Account

theorem mem_loaded_iff {names : List String} {stem : String} {p : Profile} :
    (stem, p) ∈ loaded s t folder names ↔
      ∃ name ∈ names, outcome s t folder name = .ok p ∧ Path.stem name = stem := by
  unfold loaded
  rw [List.mem_filterMap]
  refine exists_congr fun name => and_congr_right fun _ => ?_
  rcases outcome s t folder name with f | q
  · exact ⟨nofun, nofun⟩
  · constructor
    · intro h
      cases h
      exact ⟨rfl, rfl⟩
    · rintro ⟨h, rfl⟩
      cases h
      rfl

theorem refusal?_eq_some_iff {name : String} {e : Profile.Refusal} :
    refusal? s t folder name = some e ↔ outcome s t folder name = .error (.refused e) := by
  unfold refusal?
  rcases outcome s t folder name with (f | a) | p
  · constructor <;> intro h <;> cases h <;> rfl
  · exact ⟨nofun, nofun⟩
  · exact ⟨nofun, nofun⟩

theorem mem_refused_iff {names : List String} {name : String} {e : Profile.Refusal} :
    (name, e) ∈ refused s t folder names ↔
      name ∈ names ∧ outcome s t folder name = .error (.refused e) := by
  unfold refused
  rw [List.mem_filterMap, ← refusal?_eq_some_iff]
  constructor
  · rintro ⟨other, hmem, h⟩
    obtain ⟨e', he, hpair⟩ := Option.map_eq_some_iff.1 h
    cases hpair
    exact ⟨hmem, he⟩
  · rintro ⟨hmem, he⟩
    exact ⟨name, hmem, by rw [he]; rfl⟩

/-- The refused files are some of those that were tried. -/
theorem names_refused (names : List String) : (refused s t folder names).names =
    names.filter fun name => (refusal? s t folder name).isSome := by
  induction names with
  | nil => rfl
  | cons name names ih =>
    rw [← List.singleton_append, refused_append, Named.names_append, ih, List.filter_append]
    congr 1
    unfold refused
    cases h : refusal? s t folder name <;> simp [h, Named.names]

theorem isOk_iff {name : String} :
    (outcome s t folder name).isOk = true ↔ ∃ p, outcome s t folder name = .ok p := by
  cases outcome s t folder name with
  | error f => exact ⟨nofun, nofun⟩
  | ok p => exact ⟨fun _ => ⟨p, rfl⟩, fun _ => rfl⟩

/-- A file is lost only if it is `.json`, and another with its stem loads. -/
theorem mem_overwritten_iff {name : String} : name ∈ overwritten s t folder ↔ name = ".json" ∧
    (".json" ∈ files t folder ∧ (outcome s t folder ".json").isOk) ∧
      ".json.json" ∈ files t folder ∧ (outcome s t folder ".json.json").isOk := by
  unfold overwritten
  split
  · rename_i hall
    simpa using fun _ => hall
  · rename_i hall
    simpa using fun _ => hall

/-- Files that load and have one stem are one file, or `.json` is lost to `.json.json`. -/
theorem eq_or_overwritten {a b : String} {p q : Profile} (ha : a ∈ files t folder)
    (hb : b ∈ files t folder) (hp : outcome s t folder a = .ok p)
    (hq : outcome s t folder b = .ok q) (h : Path.stem a = Path.stem b) :
    a = b ∨ (a ∈ overwritten s t folder ∧ b = ".json.json") ∨
      (b ∈ overwritten s t folder ∧ a = ".json.json") := by
  have hok {name : String} {p : Profile} (h : outcome s t folder name = .ok p) :=
    isOk_iff.2 ⟨p, h⟩
  rcases eq_of_stem_eq (Finset.mem_filter.1 ha).2 (Finset.mem_filter.1 hb).2 h with
    rfl | ⟨rfl, rfl⟩ | ⟨rfl, rfl⟩
  · exact .inl rfl
  · exact .inr (.inl ⟨mem_overwritten_iff.2 ⟨rfl, ⟨ha, hok hp⟩, hb, hok hq⟩, rfl⟩)
  · exact .inr (.inr ⟨mem_overwritten_iff.2 ⟨rfl, ⟨hb, hok hq⟩, ha, hok hp⟩, rfl⟩)

/-- The profile of a file that is not lost is the last that comes under its stem. -/
theorem get?_of_kept {name : String} {p : Profile}
    (hkept : name ∈ files t folder \ overwritten s t folder)
    (hp : outcome s t folder name = .ok p) :
    (Named.putAll [] (loaded s t folder (candidates t folder))).get? (Path.stem name) =
      some p := by
  obtain ⟨hfile, hnot⟩ := Finset.mem_sdiff.1 hkept
  obtain ⟨before, after, hsplit⟩ := List.append_of_mem (mem_candidates.2 hfile)
  have hnodup := hsplit ▸ nodup_candidates t folder
  have hsorted := hsplit ▸ pairwise_candidates t folder
  have hlast : Path.stem name ∉ (loaded s t folder after).names := by
    intro hmem
    obtain ⟨e, he, hstem⟩ := List.mem_map.1 hmem
    obtain ⟨other, hother, hq, hstem'⟩ := mem_loaded_iff.1 he
    have hfile' : other ∈ files t folder := by
      rw [← mem_candidates, hsplit]
      exact List.mem_append_right _ (List.mem_cons_of_mem _ hother)
    rcases eq_or_overwritten hfile hfile' hp hq (hstem.symm.trans hstem'.symm) with
      rfl | ⟨hlost, -⟩ | ⟨hlost, rfl⟩
    · exact (List.nodup_cons.1 (List.nodup_append.1 hnodup).2.1).1 hother
    · exact hnot hlost
    · -- the file that is lost is tried before the one that takes its place
      obtain rfl := (mem_overwritten_iff.1 hlost).1
      exact (List.pairwise_cons.1 (List.pairwise_append.1 hsorted).2.1).1 _ hother (by decide)
  have hone : loaded s t folder [name] = [(Path.stem name, p)] := by
    unfold loaded
    simp [hp, Except.toOption]
  rw [hsplit, loaded_append, ← List.singleton_append (x := name), loaded_append, hone]
  exact Named.get?_putAll_append hlast

/-- A stem under which a profile was put is that of a file that is not lost. -/
theorem exists_kept {name : String} {p : Profile} (hfile : name ∈ files t folder)
    (hp : outcome s t folder name = .ok p) :
    ∃ kept ∈ files t folder \ overwritten s t folder, Path.stem kept = Path.stem name ∧
      ∃ q, outcome s t folder kept = .ok q := by
  by_cases hlost : name ∈ overwritten s t folder
  · obtain ⟨rfl, -, hother, hok⟩ := mem_overwritten_iff.1 hlost
    refine ⟨".json.json", Finset.mem_sdiff.2 ⟨hother, ?_⟩, by decide, ?_⟩
    · rw [mem_overwritten_iff]
      exact fun h => absurd h.1 (by decide)
    · exact isOk_iff.1 hok
  · exact ⟨name, Finset.mem_sdiff.2 ⟨hfile, hlost⟩, rfl, p, hp⟩

/-- The files that load. -/
def loading (s : Profile.Setting) (t : FileTree) (folder : Path) : Finset String :=
  (files t folder).filter fun name => (outcome s t folder name).isOk

theorem mem_loading_iff {name : String} : name ∈ loading s t folder ↔
    name ∈ files t folder ∧ ∃ p, outcome s t folder name = .ok p := by
  unfold loading
  rw [Finset.mem_filter, isOk_iff]

/-- **Only the files that are lost have the stem of another.** -/
theorem card_stems (s : Profile.Setting) (t : FileTree) (folder : Path) :
    (loaded s t folder (candidates t folder)).names.toFinset.card + (overwritten s t folder).card =
      (loading s t folder).card := by
  have hlost : overwritten s t folder ⊆ loading s t folder := by
    intro name hname
    obtain ⟨rfl, ⟨hfile, hok⟩, -⟩ := mem_overwritten_iff.1 hname
    exact mem_loading_iff.2 ⟨hfile, isOk_iff.1 hok⟩
  have hstems : (loaded s t folder (candidates t folder)).names.toFinset =
      (loading s t folder \ overwritten s t folder).image Path.stem := by
    ext stem
    rw [List.mem_toFinset, Finset.mem_image]
    constructor
    · intro hmem
      obtain ⟨⟨_, p⟩, he, rfl⟩ := List.mem_map.1 hmem
      obtain ⟨name, hname, hp, rfl⟩ := mem_loaded_iff.1 he
      obtain ⟨kept, hkept, hstem, hq⟩ := exists_kept (mem_candidates.1 hname) hp
      obtain ⟨hfile, hnot⟩ := Finset.mem_sdiff.1 hkept
      exact ⟨kept, Finset.mem_sdiff.2 ⟨mem_loading_iff.2 ⟨hfile, hq⟩, hnot⟩, hstem⟩
    · rintro ⟨name, hname, rfl⟩
      obtain ⟨hfile, p, hp⟩ := mem_loading_iff.1 (Finset.mem_sdiff.1 hname).1
      have hmem := mem_loaded_iff.2 ⟨name, mem_candidates.2 hfile, hp, rfl⟩
      exact List.mem_map.2 ⟨(_, p), hmem, rfl⟩
  have hinj : Set.InjOn Path.stem
      (loading s t folder \ overwritten s t folder : Finset String) := by
    intro a ha b hb h
    obtain ⟨ha, hnota⟩ := Finset.mem_sdiff.1 (Finset.mem_coe.1 ha)
    obtain ⟨hb, hnotb⟩ := Finset.mem_sdiff.1 (Finset.mem_coe.1 hb)
    obtain ⟨hfilea, p, hp⟩ := mem_loading_iff.1 ha
    obtain ⟨hfileb, q, hq⟩ := mem_loading_iff.1 hb
    rcases eq_or_overwritten hfilea hfileb hp hq h with hab | ⟨hlosta, -⟩ | ⟨hlostb, -⟩
    · exact hab
    · exact absurd hlosta hnota
    · exact absurd hlostb hnotb
  rw [hstems, Finset.card_image_of_injOn hinj]
  exact Finset.card_sdiff_add_card_eq_card hlost

/-- Where every file loads or is refused, the refusals are as many as the files that do not
    load. -/
theorem length_refused
    (htold : ∀ name ∈ candidates t folder, ∃ record, Tells s t folder name record) :
    (refused s t folder (candidates t folder)).length + (loading s t folder).card =
      (files t folder).card := by
  have hnodup := (nodup_candidates t folder).filter fun name => (refusal? s t folder name).isSome
  have hrefused : ((candidates t folder).filter fun name =>
      (refusal? s t folder name).isSome).toFinset =
        (files t folder).filter fun name => ¬ (outcome s t folder name).isOk = true := by
    ext name
    rw [List.mem_toFinset, List.mem_filter, Finset.mem_filter, mem_candidates]
    refine and_congr_right fun hname => ?_
    obtain ⟨record, htells⟩ := htold name (mem_candidates.2 hname)
    cases htells with
    | loaded h => simp [refusal?, h, Except.isOk, Except.toBool]
    | refused h => simp [refusal?, h, Except.isOk, Except.toBool]
  rw [← Named.length_names, names_refused, ← List.toFinset_card_of_nodup hnodup, hrefused,
    Nat.add_comm]
  exact Finset.card_filter_add_card_filter_not _

/-- What holds of every item of a list and its counterpart gives every item one. -/
theorem exists_of_forall₂ {α β : Type} {R : α → β → Prop} {l : List α} {l' : List β}
    (h : List.Forall₂ R l l') : ∀ a ∈ l, ∃ b, R a b := by
  induction h with
  | nil => nofun
  | cons hab _ ih => exact List.forall_mem_cons.2 ⟨⟨_, hab⟩, ih⟩

/-- The failures of a registry are the refusals of its files, one under each name. -/
theorem failures_eq_refused {strict : Bool} {r : Registry}
    (h : (load s t folder strict).1 = .ok r) :
    r.failures = refused s t folder (candidates t folder) ∧ r.failures.names.Nodup := by
  obtain ⟨rfl, -⟩ := load_ok h
  have hnodup : (refused s t folder (candidates t folder)).names.Nodup := by
    rw [names_refused]
    exact (nodup_candidates t folder).filter _
  have hfailures : Named.putAll [] (refused s t folder (candidates t folder)) =
      refused s t folder (candidates t folder) := Named.putAll_of_nodup hnodup
  refine ⟨hfailures, ?_⟩
  rw [← hfailures] at hnodup
  exact hnodup

/-- **No profile file is lost, but for one pair of names.** If a load gives a registry, strict or
    not, it accounts for every profile file of the folder; only the profile in `.json` is lost if
    `.json.json` loads as well, for both have the stem `.json`. The load has told of each file in
    one record, and then of them all in one more. -/
theorem load_accounts {strict : Bool} {r : Registry}
    (h : (load s t folder strict).1 = .ok r) :
    Accounts s t folder r (overwritten s t folder) ∧
    ∃ records, List.Forall₂ (Tells s t folder) (candidates t folder) records ∧
      records.length = (files t folder).card ∧
      ownRecords (load s t folder strict).2 = records ++ [summaryRecord r folder] := by
  obtain ⟨rfl, records, hall, hown⟩ := load_ok h
  have hlength := hall.length_eq.symm.trans (length_candidates t folder)
  have htold := exists_of_forall₂ hall
  have hnodup : (refused s t folder (candidates t folder)).names.Nodup := by
    rw [names_refused]
    exact (nodup_candidates t folder).filter _
  have hfailures : Named.putAll [] (refused s t folder (candidates t folder)) =
      refused s t folder (candidates t folder) := Named.putAll_of_nodup hnodup
  rw [hfailures] at hown ⊢
  refine ⟨⟨?_, ?_, ?_, ?_⟩, records, hall, hlength, hown⟩
  · intro name hkept
    have hname := mem_candidates.2 (Finset.mem_sdiff.1 hkept).1
    obtain ⟨record, htells⟩ := htold name hname
    cases htells with
    | refused he =>
      exact .inl ⟨_, he, (Named.get?_eq_some_iff hnodup).2 (mem_refused_iff.2 ⟨hname, he⟩)⟩
    | loaded hp => exact .inr ⟨_, hp, get?_of_kept hkept hp⟩
  · intro stem hstem
    unfold names Named.sort at hstem
    rw [List.mem_mergeSort, Named.mem_names_putAll] at hstem
    obtain ⟨⟨_, p⟩, he, rfl⟩ := List.mem_map.1 (hstem.resolve_left nofun)
    obtain ⟨name, hname, hp, rfl⟩ := mem_loaded_iff.1 he
    exact exists_kept (mem_candidates.1 hname) hp
  · intro name e hget
    obtain ⟨hname, he⟩ := mem_refused_iff.1 ((Named.get?_eq_some_iff hnodup).1 hget)
    exact ⟨mem_candidates.1 hname, he⟩
  · have hstems := card_stems s t folder
    have hrefused := length_refused htold
    unfold size
    dsimp only
    rw [Named.length_putAll]
    omega

theorem load_accounts_mixed : ∃ r,
    (load stoneSetting mixedFolder ⟨"", ["profiles"]⟩ false).1 = .ok r ∧
    Accounts stoneSetting mixedFolder ⟨"", ["profiles"]⟩ r ∅ := by
  have hok : (load stoneSetting mixedFolder ⟨"", ["profiles"]⟩ false).1.isOk = true := by
    rw [load_of_isFolder rfl, candidates_of_pairwise (by decide +kernel)]
    decide +kernel
  have hnone : overwritten stoneSetting mixedFolder ⟨"", ["profiles"]⟩ = ∅ := by
    decide +kernel
  cases h : (load stoneSetting mixedFolder ⟨"", ["profiles"]⟩ false).1 with
  | error f =>
    rw [h] at hok
    cases hok
  | ok r => exact ⟨r, rfl, hnone ▸ (load_accounts h).1⟩

/-- A folder with two profiles whose names have one stem. -/
def shadowedFolder : FileTree :=
  profileFolder [(".json", flatDocument "Depth"), (".json.json", flatDocument "Moisture")]

/-- A load of two good profiles gives a registry of one, and tells of no failure. -/
theorem load_loses_profile : ∃ r,
    (load stoneSetting shadowedFolder ⟨"", ["profiles"]⟩ false).1 = .ok r ∧
    r.size = 1 ∧ r.failures = [] ∧ (files shadowedFolder ⟨"", ["profiles"]⟩).card = 2 ∧
    ¬ Accounts stoneSetting shadowedFolder ⟨"", ["profiles"]⟩ r ∅ := by
  have hsizes : (load stoneSetting shadowedFolder ⟨"", ["profiles"]⟩ false).1.toOption.map
      (fun r => (r.size, r.failures)) = some (1, []) := by
    rw [load_of_isFolder rfl, candidates_of_pairwise (by decide +kernel)]
    decide +kernel
  have hfiles : (files shadowedFolder ⟨"", ["profiles"]⟩).card = 2 := by
    decide +kernel
  cases h : (load stoneSetting shadowedFolder ⟨"", ["profiles"]⟩ false).1 with
  | error f =>
    rw [h] at hsizes
    cases hsizes
  | ok r =>
    rw [h] at hsizes
    have hpair := Option.some.inj hsizes
    have hsize : r.size = 1 := congrArg (·.1) hpair
    have hfailures : r.failures = [] := congrArg (·.2) hpair
    refine ⟨r, rfl, hsize, hfailures, hfiles, fun haccounts => ?_⟩
    have hcount := haccounts.count
    rw [hsize, hfailures, hfiles] at hcount
    exact absurd hcount (by decide)

end Terrain.Registry
