import Mathlib.Data.List.Nodup
import Terrain.FileTree

/-!
# Files in another order

A tree keeps its files in some order. Where no two of them have one way, the order does not matter
for anything but the order in which a folder is listed.

* `nodup_list`: a folder is listed with each name once.
* `Reorders`: one tree keeps the files of another, in any order.
* `Reorders.isFolder_eq`, `Reorders.read_eq`: what paths lead to is the same.
* `Reorders.list_perm`: a folder is listed with the same names.
-/

namespace Terrain.FileTree

variable {t t' : FileTree}

/-! ## 1. Names and keys that are all different -/

theorem nodup_eraseDups {α : Type} [DecidableEq α] (l : List α) : l.eraseDups.Nodup := by
  match l with
  | [] => simp
  | a :: as =>
    rw [List.eraseDups_cons, List.nodup_cons]
    exact ⟨by simp [List.mem_eraseDups], nodup_eraseDups _⟩
termination_by l.length
decreasing_by
  exact Nat.lt_succ_of_le (List.length_filter_le _ _)

theorem nodup_list (t : FileTree) (p : Path) : (t.list p).Nodup := by
  unfold list
  cases t.locate p with
  | error o => exact List.nodup_nil
  | ok way => exact nodup_eraseDups _

/-- What is under a key is found whatever the order, if all keys are different. -/
theorem find?_eq_of_perm {κ β : Type} [BEq κ] [LawfulBEq κ] {l l' : List (κ × β)}
    (h : l'.Perm l) (hkeys : (l.map (·.1)).Nodup) (k : κ) :
    l'.find? (·.1 == k) = l.find? (·.1 == k) := by
  induction h with
  | nil => rfl
  | cons a _ ih =>
    rw [List.find?_cons, List.find?_cons, ih (List.nodup_cons.1 hkeys).2]
  | swap a b l =>
    simp only [List.map_cons, List.nodup_cons, List.mem_cons, not_or] at hkeys
    by_cases ha : a.1 = k
    · have hb : b.1 ≠ k := fun hb => hkeys.1.1 (ha.trans hb.symm)
      simp [ha, hb]
    · by_cases hb : b.1 = k <;> simp [ha, hb]
  | trans _ h' ih ih' => exact (ih ((h'.map _).nodup_iff.2 hkeys)).trans (ih' hkeys)

/-! ## 2. Trees in another order -/

/-- A tree keeps the files of another, in any order, and no two files have one way. -/
structure Reorders (t t' : FileTree) : Prop where
  files : t'.files.Perm t.files
  ways : (t.files.map (·.1)).Nodup
  folders : t'.folders = t.folders
  base : t'.base = t.base

namespace Reorders

theorem holds_eq (h : t.Reorders t') (way : List String) : t'.holds way = t.holds way := by
  unfold holds
  rw [h.base, h.folders, h.files.any_eq]

theorem file?_eq (h : t.Reorders t') (way : List String) : t'.file? way = t.file? way := by
  unfold file?
  rw [find?_eq_of_perm h.files h.ways]

theorem isFolderAt_eq (h : t.Reorders t') (way : List String) :
    t'.isFolderAt way = t.isFolderAt way := by
  unfold isFolderAt
  rw [h.holds_eq, h.file?_eq]

theorem step_eq (h : t.Reorders t') (way : List String) (name : String) :
    t'.step way name = t.step way name := by
  unfold step
  rw [h.isFolderAt_eq]

theorem follow_eq (h : t.Reorders t') : ∀ (names way : List String),
    t'.follow way names = t.follow way names
  | [], way => rfl
  | name :: names, way => by
    unfold follow
    rw [h.step_eq]
    refine bind_congr fun next => ?_
    rw [h.holds_eq, h.follow_eq names]

theorem locate_eq (h : t.Reorders t') (p : Path) : t'.locate p = t.locate p := by
  unfold locate origin
  rw [h.base]
  split
  · rfl
  · exact h.follow_eq _ _

/-- **A path leads to a folder, or to none, in whatever order files are kept.** -/
theorem isFolder_eq (h : t.Reorders t') (p : Path) : t'.isFolder p = t.isFolder p := by
  have hat : t'.isFolderAt = t.isFolderAt := funext h.isFolderAt_eq
  unfold isFolder probe
  rw [h.locate_eq, hat]

/-- **The same is read, in whatever order files are kept.** -/
theorem read_eq (h : t.Reorders t') (p : Path) : t'.read p = t.read p := by
  unfold read
  rw [h.locate_eq]
  exact bind_congr fun way => by rw [h.file?_eq]

end Reorders

/-- **A folder is listed with the same names, in whatever order files are kept.** -/
theorem Reorders.list_perm (h : t.Reorders t') (p : Path) : (t'.list p).Perm (t.list p) := by
  refine (List.perm_ext_iff_of_nodup (nodup_list _ _) (nodup_list _ _)).2 fun name => ?_
  unfold list
  rw [h.locate_eq]
  cases t.locate p with
  | error o => rfl
  | ok way =>
    simp only [Except.map, Except.toOption, Option.getD, namesAt, List.mem_eraseDups]
    rw [h.base, h.folders]
    exact (((h.files.map _).append_right _).cons _).filterMap _ |>.mem_iff

end Terrain.FileTree
