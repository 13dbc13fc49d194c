import Mathlib.Data.List.TakeWhile
import Mathlib.Data.List.Basic
import Terrain.Patch

/-!
# Names of patch files

A patch file is named for its biome and its origin. The name of a biome may hold all that the rest
of a file name is made of, underscores, letters, digits and points included, so the parts of a file
name are told apart from its end: a coordinate is written without underscores.

* `Path.join_ofString`: a name that holds no slash leads into the folder it is followed from.
* `eq_of_append_cons_eq`: a text is split at its last mark in one way only.
* `fileName_inj`: a file name tells its biome and its origin.
* `paths_distinct`: two patches have one path only if they have one biome and one origin, and
  the path lies in the folder.
-/

namespace Terrain.Path

/-! ## 1. One name more -/

/-- A text without slashes is one piece. -/
theorem segments_of_not_mem : ∀ {t : Text}, '/' ∉ t → segments t = [t]
  | [], _ => rfl
  | c :: r, h => by
    rw [List.mem_cons, not_or] at h
    rw [segments, if_neg (Ne.symm h.1), segments_of_not_mem h.2]

/-- **A name leads from a path to its child**, if it holds no slash and is neither empty nor a
    dot. -/
theorem join_ofString {name : String} (hslash : '/' ∉ name.toList) (hne : name.toList ≠ [])
    (hdot : name.toList ≠ ['.']) (p : Path) : p.join (ofString name) = p.child name := by
  have hroot : rootOf name.toList = "" := by
    have htake : name.toList.takeWhile (· = '/') = [] := by
      rw [List.takeWhile_eq_nil_iff]
      intro hlen
      simpa using fun he : name.toList[0] = '/' => hslash (he ▸ List.getElem_mem hlen)
    rw [rootOf, htake]
    rfl
  have hparts : ((segments name.toList).filter fun s => !s.isEmpty && s != ['.']) =
      [name.toList] := by
    rw [segments_of_not_mem hslash, List.filter_eq_self]
    simp [hne, hdot]
  unfold join ofString ofText child
  rw [hroot, hparts, if_pos (by rfl), List.map_singleton, String.ofList_toList]

theorem parent_child (p : Path) (name : String) : (p.child name).parent = p := by
  unfold parent child
  rw [List.dropLast_concat]

/-- **Two children of a path have different texts.** -/
theorem text_child_inj {p : Path} {a b : String} (h : (p.child a).text = (p.child b).text) :
    a = b := by
  -- the name comes last, and what is before it depends on the path alone
  have hlast (name : String) : (p.child name).text = p.root ++
      ((if p.parts = [] then "" else String.intercalate "/" p.parts ++ "/") ++ name) := by
    unfold text child
    rw [if_neg (by simp)]
    split
    · rename_i hparts
      rw [hparts, List.nil_append, String.intercalate_singleton, String.empty_append]
    · rename_i hparts
      rw [String.intercalate_append_of_ne_nil hparts (List.cons_ne_nil _ _),
        String.intercalate_singleton]
  rw [hlast, hlast] at h
  simpa using h

end Terrain.Path

namespace Terrain.Patch

variable {biome biome' : String} {origin origin' : Position} {folder p p' : Path}

/-! ## 2. Names -/

/-- A text is split at its last mark of a sort in one way only. -/
theorem eq_of_append_cons_eq {c : Char} {a a' u u' : Text} (hu : c ∉ u) (hu' : c ∉ u')
    (h : a ++ c :: u = a' ++ c :: u') : a = a' ∧ u = u' := by
  -- what one of the two splits has more before the mark would hold a mark after the other
  have same {b u v : Text} (hv : c ∉ v) (h : c :: v = b ++ c :: u) : b = [] ∧ u = v := by
    cases b with
    | nil => exact ⟨rfl, (List.cons.inj h).2.symm⟩
    | cons x b =>
      refine absurd ?_ hv
      rw [(List.cons.inj h).2]
      simp
  rcases List.append_eq_append_iff.1 h with ⟨b, rfl, hb⟩ | ⟨b, rfl, hb⟩
  · obtain ⟨rfl, rfl⟩ := same hu hb
    exact ⟨(List.append_nil a).symm, rfl⟩
  · obtain ⟨rfl, rfl⟩ := same hu' hb
    exact ⟨List.append_nil a', rfl⟩

theorem isDigit_of_mem_repr {m : Nat} {c : Char} (h : c ∈ m.repr.toList) : c.isDigit = true := by
  rw [Nat.toList_repr] at h
  exact Nat.isDigit_of_mem_toDigits (by decide) (by decide) h

/-- A whole number is written with digits and a minus. -/
theorem isDigit_or_of_mem_toString {n : Int} {c : Char} (h : c ∈ (toString n).toList) :
    c.isDigit = true ∨ c = '-' := by
  rw [Int.toString_eq_repr] at h
  cases n with
  | ofNat m => exact .inl (isDigit_of_mem_repr h)
  | negSucc m =>
    rw [Int.repr, String.toList_append] at h
    rcases List.mem_append.1 h with h | h
    · exact .inr (List.mem_singleton.1 h)
    · exact .inl (isDigit_of_mem_repr h)

/-- A whole number is told by its text. -/
theorem eq_of_toString_eq {m n : Int} (h : toString m = toString n) : m = n := by
  have natural {a b : Nat} (h : a.repr = b.repr) : a = b := by
    have hdigits := congrArg String.toList h
    rw [Nat.toList_repr, Nat.toList_repr] at hdigits
    rw [← Nat.ofDigitChars_ten_toDigits (n := a), hdigits, Nat.ofDigitChars_ten_toDigits]
  -- no text of digits begins with a minus
  have minus {a : Nat} {t : String} (h : a.repr = "-" ++ t) : False := by
    have hmem : '-' ∈ a.repr.toList := by
      rw [h, String.toList_append]
      exact List.mem_cons_self
    cases isDigit_of_mem_repr hmem
  rw [Int.toString_eq_repr, Int.toString_eq_repr] at h
  cases m with
  | ofNat a =>
    cases n with
    | ofNat b => rw [natural h]
    | negSucc b => exact (minus h).elim
  | negSucc a =>
    cases n with
    | ofNat b => exact (minus h.symm).elim
    | negSucc b => rw [Nat.succ.inj (natural ((String.append_right_inj _).1 h))]

/-- What is neither a digit nor a minus does not come in a whole number, nor after a letter that is
    another. -/
theorem not_mem_axis {c axis : Char} (hdigit : c.isDigit = false) (hminus : c ≠ '-')
    (haxis : c ≠ axis) (n : Int) : c ∉ axis :: (toString n).toList := by
  rw [List.mem_cons, not_or]
  refine ⟨haxis, fun h => ?_⟩
  rcases isDigit_or_of_mem_toString h with h | h
  · rw [hdigit] at h
    cases h
  · exact hminus h

theorem toList_fileName (biome : String) (origin : Position) : (fileName biome origin).toList =
    ((biome.toList ++ '_' :: 'x' :: (toString origin.x).toList) ++
      '_' :: 'y' :: (toString origin.y).toList) ++
      '_' :: 'z' :: (toString origin.z).toList ++ ".npz".toList := by
  simp [fileName]

/-- **A file name tells its biome and its origin.** -/
theorem fileName_inj : fileName biome origin = fileName biome' origin' ↔
    biome = biome' ∧ origin = origin' := by
  constructor
  · intro h
    have htext := congrArg String.toList h
    rw [toList_fileName, toList_fileName, List.append_cancel_right_eq] at htext
    have hmark (axis : Char) (h : '_' ≠ axis) (n : Int) : '_' ∉ axis :: (toString n).toList :=
      not_mem_axis (by decide) (by decide) h n
    -- the coordinates are split off from the end, the last one first
    obtain ⟨htext, hz⟩ := eq_of_append_cons_eq (hmark 'z' (by decide) origin.z)
      (hmark 'z' (by decide) origin'.z) htext
    obtain ⟨htext, hy⟩ := eq_of_append_cons_eq (hmark 'y' (by decide) origin.y)
      (hmark 'y' (by decide) origin'.y) htext
    obtain ⟨hbiome, hx⟩ := eq_of_append_cons_eq (hmark 'x' (by decide) origin.x)
      (hmark 'x' (by decide) origin'.x) htext
    have number {axis : Char} {m n : Int}
        (h : axis :: (toString m).toList = axis :: (toString n).toList) : m = n :=
      eq_of_toString_eq (String.toList_inj.1 (List.cons.inj h).2)
    refine ⟨String.toList_inj.1 hbiome, ?_⟩
    obtain ⟨x, y, z⟩ := origin
    obtain ⟨x', y', z'⟩ := origin'
    rw [Position.mk.injEq]
    exact ⟨number hx, number hy, number hz⟩
  · intro hex
    rw [hex.1, hex.2]

/-! ## 3. Paths -/

/-- A file name holds no slash, if the biome holds none. -/
theorem slash_not_mem_fileName (h : '/' ∉ biome.toList) (origin : Position) :
    '/' ∉ (fileName biome origin).toList := by
  have haxis (axis : Char) (hne : '/' ≠ axis) (n : Int) :
      '/' ∉ '_' :: axis :: (toString n).toList :=
    List.not_mem_cons_of_ne_of_not_mem (by decide) (not_mem_axis (by decide) (by decide) hne n)
  rw [toList_fileName]
  simp only [List.mem_append, not_or]
  exact ⟨⟨⟨⟨h, haxis 'x' (by decide) _⟩, haxis 'y' (by decide) _⟩, haxis 'z' (by decide) _⟩,
    by decide⟩

/-- **The file of a patch is a child of the folder**, if the biome holds no slash. -/
theorem filePath_eq_child (h : '/' ∉ biome.toList) (origin : Position) (folder : Path) :
    filePath biome origin folder = folder.child (fileName biome origin) := by
  have hlong : 1 < (fileName biome origin).toList.length := by
    rw [toList_fileName, List.length_append]
    exact Nat.lt_of_lt_of_le (by decide) (Nat.le_add_left _ _)
  refine Path.join_ofString (slash_not_mem_fileName h origin) ?_ ?_ folder <;>
  · intro he
    rw [he] at hlong
    exact absurd hlong (by decide)

/-- A place can be written down if its coordinates have few enough digits. -/
theorem writable_iff : writable origin = true ↔
    ∀ n ∈ [origin.x, origin.y, origin.z], n.natAbs < Number.tenTo Number.digitLimit := by
  unfold writable
  rw [List.all_eq_true]
  refine forall₂_congr fun n _ => ?_
  rw [Value.exceedsDigits, Bool.not_eq_true', decide_eq_false_iff_not, Nat.not_le]

theorem filePath?_eq_some_iff : filePath? biome origin folder = some p ↔
    writable origin = true ∧ filePath biome origin folder = p := by
  unfold filePath?
  split
  · rename_i h
    simp [h]
  · rename_i h
    simp [h]

/-- **Patch files never collide.** Take two patches whose biomes have no slash in their names. A
    patch has a path as soon as its coordinates can be written down, and the path is that of a child
    of the folder. If both paths are the same, even only as texts, then so are the biomes, whatever
    their names are made of, and the origins. -/
theorem paths_distinct (h : '/' ∉ biome.toList) (h' : '/' ∉ biome'.toList)
    (origin origin' : Position) (folder : Path) :
    ((∃ p, filePath? biome origin folder = some p) ↔
      ∀ n ∈ [origin.x, origin.y, origin.z], n.natAbs < Number.tenTo Number.digitLimit) ∧
    (∀ p, filePath? biome origin folder = some p →
      p = folder.child (fileName biome origin) ∧ p.parent = folder) ∧
    ∀ p p', filePath? biome origin folder = some p → filePath? biome' origin' folder = some p' →
      (p = p' ∨ p.text = p'.text) → biome = biome' ∧ origin = origin' := by
  refine ⟨?_, fun p hp => ?_, fun p p' hp hp' hsame => ?_⟩
  · rw [← writable_iff]
    constructor
    · intro hex
      obtain ⟨p, hp⟩ := hex
      exact (filePath?_eq_some_iff.1 hp).1
    · exact fun hw => ⟨_, filePath?_eq_some_iff.2 ⟨hw, rfl⟩⟩
  · obtain ⟨-, rfl⟩ := filePath?_eq_some_iff.1 hp
    rw [filePath_eq_child h]
    exact ⟨rfl, Path.parent_child _ _⟩
  · obtain ⟨-, rfl⟩ := filePath?_eq_some_iff.1 hp
    obtain ⟨-, rfl⟩ := filePath?_eq_some_iff.1 hp'
    rw [filePath_eq_child h, filePath_eq_child h'] at hsame
    have htext := hsame.elim (congrArg Path.text) id
    exact fileName_inj.1 (Path.text_child_inj htext)

theorem paths_distinct_hills :
    ∃ p p', filePath? "hills_x1_y-2" ⟨3, -4, 5⟩ (.ofString "out") = some p ∧
      filePath? "hills" ⟨1, -2, 0⟩ (.ofString "out") = some p' ∧
      p.text = "out/hills_x1_y-2_x3_y-4_z5.npz" ∧ p.parent = .ofString "out" ∧
        p.text ≠ p'.text := by
  have h : '/' ∉ "hills_x1_y-2".toList := by decide
  have h' : '/' ∉ "hills".toList := by decide
  obtain ⟨hsome, hchild, hdistinct⟩ :=
    paths_distinct h h' ⟨3, -4, 5⟩ ⟨1, -2, 0⟩ (.ofString "out")
  have hsmall {m : Nat} (hm : m < 10) : m < Number.tenTo Number.digitLimit := by
    have hpos := Number.tenTo_pos 4299
    rw [Number.digitLimit, Number.tenTo_succ]
    omega
  obtain ⟨p, hp⟩ := hsome.2 (by simp [hsmall])
  obtain ⟨p', hp'⟩ := (paths_distinct h' h ⟨1, -2, 0⟩ ⟨3, -4, 5⟩ (.ofString "out")).1.2
    (by simp [hsmall])
  obtain ⟨hfile, hparent⟩ := hchild p hp
  refine ⟨p, p', hp, hp', ?_, hparent, fun htext => ?_⟩
  · rw [hfile]
    decide +kernel
  · exact absurd (hdistinct p p' hp hp' (.inr htext)).1 (by decide)

end Terrain.Patch
