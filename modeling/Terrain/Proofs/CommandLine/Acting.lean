import Terrain.CommandLine.Run
import Terrain.Proofs.Attempt

/-!
# What an action does

An action goes through the settings, the profiles, the climate and the cells of a patch, and ends in
trouble at the first of them that is not in order. What it gives is told here without the order and
without what is told on the way.

* `Loads`: a configuration leads to a registry of profiles.
* `Samples`: options and a configuration lead to a patch and the path of its file.
* `gives_act_iff`: what an action gives (`Does`).
* `lines_listProfiles`, `quiet_validateProfiles`, `quiet_samplePatch`: what actions print.
-/

namespace Terrain

/-- Whether the output takes a line. -/
def Host.prints (h : Host) (line : String) : Bool := (h.unprintable? line).isNone

namespace CommandLine

open Attempt

variable {h : Host} {files : FileTree} {config : Value} {o : Options} {t : Told}

/-! ## 1. Parts -/

section Parts

variable {α ε : Type}

theorem gives_orTrouble_iff {f : ε → Trouble} {x : Except ε α} {a : α} :
    Gives (orTrouble f x) a t ↔ x = .ok a := by
  cases x with
  | error e => exact ⟨nofun, nofun⟩
  | ok b =>
    refine gives_pure_iff.trans ⟨?_, ?_⟩
    · intro h
      rw [h]
    · intro h
      cases h
      rfl

theorem gives_log_iff {records : List Log.Record} {u : Unit} : Gives (log records) u t ↔ True :=
  ⟨fun _ => trivial, fun _ => rfl⟩

theorem not_gives_throw {trouble : Trouble} {a : α} : ¬ Gives (throw trouble : Act α) a t := nofun

/-- An attempt prints nothing, whatever comes of it. -/
def Quiet (x : Act α) : Prop := Leads (fun t t' : Told => t'.lines = t.lines) x

theorem Quiet.bind {β : Type} {x : Act α} {f : α → Act β} (hx : Quiet x) (hf : ∀ a, Quiet (f a)) :
    Quiet (x >>= f) :=
  Leads.bind (fun h h' => h'.trans h) hx hf

theorem quiet_pure (a : α) : Quiet (pure a : Act α) := fun _ => rfl

theorem quiet_throw (trouble : Trouble) : Quiet (throw trouble : Act α) := fun _ => rfl

theorem quiet_log (records : List Log.Record) : Quiet (log records) := fun _ => rfl

theorem quiet_orTrouble (f : ε → Trouble) (x : Except ε α) : Quiet (orTrouble f x) := by
  cases x with
  | error e => exact quiet_throw (f e)
  | ok a => exact quiet_pure a

end Parts

section Lines

/-- A line that the output takes is printed. -/
theorem run_print_of_prints {line : String} (hline : h.prints line = true) (t : Told) :
    (print h line).run t = (.ok (), { t with lines := t.lines ++ [line] }) := by
  unfold print
  rw [Option.isNone_iff_eq_none.1 hline]
  rfl

/-- A line that the output refuses is trouble, and nothing is printed. -/
theorem exists_run_print_error {line : String} (hline : h.prints line = false) (t : Told) :
    ∃ e, (print h line).run t = (.error e, t) := by
  unfold print
  rcases hproblem : h.unprintable? line with _ | problem
  · unfold Host.prints at hline
    rw [hproblem] at hline
    cases hline
  · exact ⟨_, rfl⟩

/-- **Lines are printed up to the first that the output refuses**, and all of them if it refuses
    none. -/
theorem run_forM_print : ∀ (lines : List String) (t : Told),
    ((lines.forM (print h)).run t).2.lines = t.lines ++ lines.takeWhile h.prints ∧
      (Gives (lines.forM (print h)) () t ↔ ∀ line ∈ lines, h.prints line = true)
  | [], t => ⟨(List.append_nil _).symm, ⟨fun _ => List.forall_mem_nil _, fun _ => rfl⟩⟩
  | line :: lines, t => by
    change ((print h line >>= fun _ => lines.forM (print h)).run t).2.lines = _ ∧
      (Gives (print h line >>= fun _ => lines.forM (print h)) () t ↔ _)
    cases hline : h.prints line with
    | true =>
      obtain ⟨hlines, hgives⟩ := run_forM_print lines { t with lines := t.lines ++ [line] }
      unfold Gives at hgives ⊢
      rw [run_bind_of_ok (run_print_of_prints hline t), List.takeWhile_cons_of_pos hline, hlines,
        hgives, List.forall_mem_cons]
      exact ⟨by rw [List.append_assoc, List.singleton_append], by simp [hline]⟩
    | false =>
      obtain ⟨e, hrun⟩ := exists_run_print_error hline t
      unfold Gives
      rw [run_bind_of_error hrun, List.takeWhile_cons_of_neg (by simp [hline]), List.append_nil]
      refine ⟨rfl, nofun, fun hall => ?_⟩
      rw [hall line List.mem_cons_self] at hline
      cases hline

end Lines

/-! ## 2. Profiles -/

/-- **A configuration leads to a registry**: its settings and its voxel types are in order, and the
    folder it names loads, strictly if it says so or if it is forced. -/
def Loads (h : Host) (files : FileTree) (config : Value) (force : Bool) (r : Registry) : Prop :=
  ∃ settings types, Settings.biomes config = .ok settings ∧
    Settings.voxelTypes config = .ok types ∧
    (Registry.load (h.setting types) files settings.profileFolder
      (force || settings.strict)).1 = .ok r

theorem gives_loadProfiles_iff {force : Bool} {r : Registry} :
    Gives (loadProfiles h files config force) r t ↔ Loads h files config force r := by
  unfold loadProfiles
  simp only [gives_bind_iff, gives_orTrouble_iff, gives_log_iff]
  constructor
  · rintro ⟨settings, hsettings, types, htypes, -, -, -, -, hload⟩
    exact ⟨settings, types, hsettings, htypes, hload⟩
  · rintro ⟨settings, types, hsettings, htypes, hload⟩
    exact ⟨settings, hsettings, types, htypes, (), trivial, (), trivial, hload⟩

theorem quiet_loadProfiles (h : Host) (files : FileTree) (config : Value) (force : Bool) :
    Quiet (loadProfiles h files config force) :=
  .bind (quiet_orTrouble _ _) fun _ => .bind (quiet_orTrouble _ _) fun _ =>
    .bind (quiet_log _) fun _ => .bind (quiet_log _) fun _ => quiet_orTrouble _ _

/-! ## 3. Patches -/

/-- The folder that a patch goes to: the one that is asked for, or else that of the configuration. -/
def GoesTo (config : Value) (o : Options) (folder : Path) : Prop :=
  o.output = some (.value folder) ∨ o.output = none ∧ Settings.sampleFolder config = .ok folder

theorem gives_outputFolder_iff {folder : Path} :
    Gives (outputFolder config o) folder t ↔ GoesTo config o folder := by
  unfold outputFolder GoesTo
  rcases o.output with _ | ⟨p | _⟩
  · dsimp only
    rw [gives_orTrouble_iff]
    simp
  · dsimp only
    rw [gives_pure_iff]
    simp
  · simp [not_gives_throw]

/-- A profile is sampled at the origin and in the size that are asked for, with noise and a climate
    of the seed of the configuration. -/
def Draws (h : Host) (config : Value) (o : Options) (profile : Profile) (patch : Patch) : Prop :=
  ∃ settings climate size, Settings.biomes config = .ok settings ∧
    Settings.climate h.generator config settings.seed = .ok climate ∧ o.size = .value size ∧
    Patch.sample h.arrays h.stack profile (h.generator settings.seed).source climate o.origin size =
      .ok patch

theorem Given.value?_eq_some_iff {α : Type} {g : Given α} {a : α} :
    g.value? = some a ↔ g = .value a := by
  cases g with
  | value b => simp [Given.value?]
  | empty => simp [Given.value?]

theorem gives_drawPatch_iff {profile : Profile} {patch : Patch} :
    Gives (drawPatch h config o profile) patch t ↔ Draws h config o profile patch := by
  unfold drawPatch
  simp only [gives_bind_iff, gives_orTrouble_iff, gives_log_iff]
  constructor
  · rintro ⟨settings, hsettings, climate, hclimate, -, -, h⟩
    split at h
    · rename_i size hsize
      simp only [gives_bind_iff, gives_orTrouble_iff, gives_log_iff, gives_pure_iff] at h
      obtain ⟨patch', hpatch, -, -, rfl⟩ := h
      exact ⟨settings, climate, size, hsettings, hclimate, Given.value?_eq_some_iff.1 hsize, hpatch⟩
    · exact absurd h not_gives_throw
  · rintro ⟨settings, climate, size, hsettings, hclimate, hsize, hpatch⟩
    refine ⟨settings, hsettings, climate, hclimate, (), trivial, ?_⟩
    rw [Given.value?_eq_some_iff.2 hsize]
    simp only [gives_bind_iff, gives_orTrouble_iff, gives_log_iff, gives_pure_iff]
    exact ⟨patch, hpatch, (), trivial, rfl⟩

/-- **Options and a configuration lead to a patch**: the profile of the name that is asked for is
    drawn, and the file of the patch can be written in the folder that it goes to. -/
inductive Samples (h : Host) (files : FileTree) (config : Value) (o : Options) :
    Path → Patch → Prop
  | sampled {biome : String} {r : Registry} {profile : Profile} {patch : Patch} {folder : Path}
      (hbiome : o.biome = some biome) (hnamed : biome ≠ "")
      (hloads : Loads h files config false r) (hprofile : r.find? biome = some profile)
      (hdraws : Draws h config o profile patch) (hfolder : GoesTo config o folder)
      (hwritable : files.checkWritable (Patch.filePath biome o.origin folder) = .ok ()) :
      Samples h files config o (Patch.filePath biome o.origin folder) patch

theorem filter_isEmpty_eq_some_iff {biome : Option String} {name : String} :
    biome.filter (!·.isEmpty) = some name ↔ biome = some name ∧ name ≠ "" := by
  rw [Option.filter_eq_some_iff]
  simp

/-- **What a sampling gives.** -/
theorem gives_samplePatch_iff {path : Path} {patch : Patch} :
    Gives (samplePatch h files config o) (path, patch) t ↔ Samples h files config o path patch := by
  unfold samplePatch
  constructor
  · intro h
    split at h
    · rename_i biome hbiome
      obtain ⟨hbiome, hnamed⟩ := filter_isEmpty_eq_some_iff.1 hbiome
      obtain ⟨r, hloads, h⟩ := gives_bind_iff.1 h
      split at h
      · rename_i profile hprofile
        simp only [gives_bind_iff, gives_orTrouble_iff, gives_log_iff, gives_pure_iff,
          gives_drawPatch_iff, gives_outputFolder_iff] at h
        obtain ⟨patch', hdraws, folder, hfolder, ⟨⟩, hwritable, -, -, h⟩ := h
        obtain ⟨rfl, rfl⟩ := Prod.mk.inj h
        exact .sampled hbiome hnamed (gives_loadProfiles_iff.1 hloads) hprofile hdraws hfolder
          hwritable
      · exact absurd h not_gives_throw
    · exact absurd h not_gives_throw
  · intro h
    cases h with
    | @sampled biome r profile patch folder hbiome hnamed hloads hprofile hdraws hfolder hwritable =>
      rw [filter_isEmpty_eq_some_iff.2 ⟨hbiome, hnamed⟩]
      refine gives_bind_iff.2 ⟨r, gives_loadProfiles_iff.2 hloads, ?_⟩
      rw [hprofile]
      simp only [gives_bind_iff, gives_orTrouble_iff, gives_log_iff, gives_pure_iff,
        gives_drawPatch_iff, gives_outputFolder_iff]
      exact ⟨patch, hdraws, folder, hfolder, (), hwritable, (), trivial, rfl⟩

/-! ## 4. Actions -/

/-- The output takes the names of all profiles. -/
def Shows (h : Host) (r : Registry) : Prop := ∀ name ∈ r.names, h.prints name = true

/-- What an action comes to: a listing and a validation load the profiles, the one as strictly as the
    configuration says and the other strictly, and all names that are listed are printed; a sampling
    gives a file to write. An action that is left empty comes to nothing. -/
def Does (h : Host) (files : FileTree) (config : Value) (o : Options)
    (w : Option (Path × Patch)) : Prop :=
  match o.action with
  | .value .list => w = none ∧ ∃ r, Loads h files config false r ∧ Shows h r
  | .value .validate => w = none ∧ ∃ r, Loads h files config true r
  | .value .sample => ∃ path patch, w = some (path, patch) ∧ Samples h files config o path patch
  | .empty => w = none

/-- **What an action gives**, whatever was told before. -/
theorem gives_act_iff {w : Option (Path × Patch)} :
    Gives (act h files config o) w t ↔ Does h files config o w := by
  unfold act Does
  rcases o.action with (_ | _ | _) | _
  · simp only [listProfiles, gives_bind_iff, gives_loadProfiles_iff, (run_forM_print _ _).2,
      gives_pure_iff]
    constructor
    · rintro ⟨-, ⟨r, hloads, hshows⟩, rfl⟩
      exact ⟨rfl, r, hloads, hshows⟩
    · rintro ⟨rfl, r, hloads, hshows⟩
      exact ⟨(), ⟨r, hloads, hshows⟩, rfl⟩
  · simp only [validateProfiles, gives_bind_iff, gives_loadProfiles_iff, gives_log_iff,
      gives_pure_iff]
    constructor
    · rintro ⟨-, ⟨r, hloads, -⟩, rfl⟩
      exact ⟨rfl, r, hloads⟩
    · rintro ⟨rfl, r, hloads⟩
      exact ⟨(), ⟨r, hloads, trivial⟩, rfl⟩
  · simp only [gives_bind_iff, gives_pure_iff]
    constructor
    · rintro ⟨⟨path, patch⟩, hsample, rfl⟩
      exact ⟨path, patch, rfl, gives_samplePatch_iff.1 hsample⟩
    · rintro ⟨path, patch, rfl, hsamples⟩
      exact ⟨(path, patch), gives_samplePatch_iff.2 hsamples, rfl⟩
  · exact gives_pure_iff.trans eq_comm

/-- An action comes to one thing. -/
theorem Does.unique {w w' : Option (Path × Patch)} (hd : Does h files config o w)
    (hd' : Does h files config o w') : w' = w := by
  have hgives : Gives (act h files config o) w ⟨[], []⟩ := gives_act_iff.2 hd
  have hgives' : Gives (act h files config o) w' ⟨[], []⟩ := gives_act_iff.2 hd'
  unfold Gives at hgives hgives'
  rw [hgives] at hgives'
  cases hgives'
  rfl

/-! ## 5. What is printed -/

theorem quiet_validateProfiles (h : Host) (files : FileTree) (config : Value) :
    Quiet (validateProfiles h files config) :=
  .bind (quiet_loadProfiles h files config true) fun _ => quiet_log _

theorem quiet_drawPatch (h : Host) (config : Value) (o : Options) (profile : Profile) :
    Quiet (drawPatch h config o profile) := by
  refine .bind (quiet_orTrouble _ _) fun settings => .bind (quiet_orTrouble _ _) fun climate =>
    .bind (quiet_log _) fun _ => ?_
  split
  · exact .bind (quiet_orTrouble _ _) fun _ => .bind (quiet_log _) fun _ => quiet_pure _
  · exact quiet_throw _

theorem quiet_outputFolder (config : Value) (o : Options) : Quiet (outputFolder config o) := by
  unfold outputFolder
  split
  · exact quiet_pure _
  · exact quiet_throw _
  · exact quiet_orTrouble _ _

/-- **A sampling prints nothing**, whatever comes of it. -/
theorem quiet_samplePatch (h : Host) (files : FileTree) (config : Value) (o : Options) :
    Quiet (samplePatch h files config o) := by
  unfold samplePatch
  split
  · refine .bind (quiet_loadProfiles h files config false) fun r => ?_
    split
    · exact .bind (quiet_drawPatch _ _ _ _) fun _ => .bind (quiet_outputFolder _ _) fun _ =>
        .bind (quiet_orTrouble _ _) fun _ => .bind (quiet_log _) fun _ => quiet_pure _
    · exact quiet_throw _
  · exact quiet_throw _

/-- **A listing prints the names of the profiles that load**, in order, up to the first that the
    output refuses. -/
theorem lines_listProfiles {r : Registry} (hloads : Loads h files config false r) (t : Told) :
    ((listProfiles h files config).run t).2.lines = t.lines ++ r.names.takeWhile h.prints := by
  have hquiet := quiet_loadProfiles h files config false t
  obtain ⟨t', hload⟩ := gives_iff.1 (gives_loadProfiles_iff.2 hloads : Gives _ r t)
  rw [hload] at hquiet
  unfold listProfiles
  rw [run_bind_of_ok hload, (run_forM_print _ _).1]
  exact congrArg (· ++ _) hquiet

/-- A listing prints nothing where the profiles do not load. -/
theorem lines_listProfiles_of_not (hnot : ∀ r, ¬ Loads h files config false r) (t : Told) :
    ((listProfiles h files config).run t).2.lines = t.lines := by
  have hquiet := quiet_loadProfiles h files config false t
  unfold listProfiles
  rcases hload : (loadProfiles h files config false).run t with ⟨e | r, t'⟩
  · rw [hload] at hquiet
    rw [run_bind_of_error hload]
    exact hquiet
  · exact absurd (gives_loadProfiles_iff.1 (gives_iff.2 ⟨t', hload⟩)) (hnot r)

/-- What a listing prints is all that its run prints. -/
theorem lines_act_list (hlist : o.action = .value .list) (t : Told) :
    ((act h files config o).run t).2.lines = ((listProfiles h files config).run t).2.lines := by
  have hact : act h files config o = listProfiles h files config >>= fun _ => pure none := by
    unfold act
    rw [hlist]
  rw [hact]
  rcases hrun : (listProfiles h files config).run t with ⟨e | u, t'⟩
  · rw [run_bind_of_error hrun]
  · rw [run_bind_of_ok hrun]
    rfl

end CommandLine
end Terrain
