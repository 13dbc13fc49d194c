import Terrain.Proofs.Profile.Locating
import Terrain.Proofs.Registry.Files

/-!
# Where a file fails

A registry holds the refusal of every file that failed. It names the file, and the place in the
document where the fault arises, if there is a document at all.

* `ArisesIn`: the fault of a file, and where in its document it arises.
* `loadProfile_refused`, `ArisesIn.refused`: a file is refused for its fault, and says where.
* `withinAll_keeps`: what is known of a place stays.
* `failures_located`: so it is for every failure of a registry.
-/

namespace Terrain.Registry

open Terrain.Profile

variable {s : Setting} {t : FileTree} {folder p : Path} {spot : Spot} {fault : Fault}

/-! ## 1. Files -/

/-- **The fault that a file fails for, and where in its document it arises.** -/
inductive ArisesIn (s : Setting) (t : FileTree) (p : Path) : Spot → Fault → Prop
  /-- The file cannot be read. -/
  | unreadable {o : FileTree.Obstacle} (h : t.read p = .error o) :
      ArisesIn s t p .apart (.unreadable (o.message p))
  /-- What is in the file is no text. -/
  | notText {bytes : List UInt8} {r : Text.Utf8.Refusal} (hread : t.read p = .ok bytes)
      (h : Text.Utf8.decode bytes = .error r) : ArisesIn s t p .apart (.notText r)
  /-- The text is no document. -/
  | json {text : Text} {r : Refusal} (htext : textOf? t p = some text)
      (h : Profile.document s text = .error (.refused r)) : ArisesIn s t p .apart r.fault
  /-- The document fails. -/
  | document {text : Text} {v : Value} {spot : Spot} {fault : Fault}
      (htext : textOf? t p = some text) (hdocument : Profile.document s text = .ok v)
      (h : Arises s v spot fault) : ArisesIn s t p spot fault

/-- What a document comes to is what its compiling comes to. -/
theorem compile_refused_iff {name : String} {v : Value} {r : Refusal} :
    (compile s name v).1 = .error (.refused r) ↔
      Attempt.Fails (compileDocument s name v) (.refused r) .empty := by
  unfold compile Attempt.Fails
  rcases (compileDocument s name v).run .empty with ⟨f | q, w⟩ <;> exact Iff.rfl

/-- The refusal of a text that is no document says nothing of its place. -/
theorem document_liesIn {text : Text} {r : Refusal}
    (h : Profile.document s text = .error (.refused r)) : r.LiesIn none none none := by
  unfold Profile.document at h
  split at h <;> cases h <;> exact Fault.liesIn_somewhere _ none

/-- A file that holds a text comes to what the text comes to, under the name of the file. -/
theorem loadProfile_of_textOf? {text : Text} (h : textOf? t p = some text) :
    (loadProfile s t p).1 =
      (Profile.read s (Path.stem p.name) text).1.mapError (·.within (some p.name) none) := by
  unfold textOf? at h
  unfold loadProfile
  cases hread : t.read p with
  | error o =>
    rw [hread] at h
    cases h
  | ok bytes =>
    rw [hread] at h
    dsimp only at h ⊢
    cases hdecode : Text.Utf8.decode bytes with
    | error r =>
      rw [hdecode] at h
      cases h
    | ok u =>
      rw [hdecode] at h
      cases h
      rfl

/-- A file that holds no text is refused for that. -/
theorem loadProfile_of_textOf?_none (h : textOf? t p = none) : ∃ fault : Fault,
    ArisesIn s t p .apart fault ∧
      (loadProfile s t p).1 = .error (.refused (fault.somewhere.within (some p.name) none)) := by
  unfold textOf? at h
  unfold loadProfile
  cases hread : t.read p with
  | error o => exact ⟨_, .unreadable hread, rfl⟩
  | ok bytes =>
    rw [hread] at h
    dsimp only at h ⊢
    cases hdecode : Text.Utf8.decode bytes with
    | error r => exact ⟨_, .notText hread hdecode, rfl⟩
    | ok u =>
      rw [hdecode] at h
      cases h

/-- **A file that is refused is refused for a fault that arises in it.** -/
theorem loadProfile_refused {e : Refusal} (h : (loadProfile s t p).1 = .error (.refused e)) :
    ∃ spot, ArisesIn s t p spot e.fault := by
  cases htext : textOf? t p with
  | none =>
    obtain ⟨fault, harises, hload⟩ := loadProfile_of_textOf?_none htext
    rw [hload] at h
    cases h
    exact ⟨_, harises⟩
  | some text =>
    rw [loadProfile_of_textOf? htext] at h
    unfold Profile.read at h
    cases hdocument : Profile.document s text with
    | error f =>
      rw [hdocument] at h
      cases f with
      | refused r =>
        cases h
        exact ⟨_, .json (r := r) htext hdocument⟩
      | aborted a => cases h
    | ok v =>
      rw [hdocument] at h
      dsimp only at h
      rcases hcompile : (compile s (Path.stem p.name) v).1 with (r | a) | q <;>
        rw [hcompile] at h <;> cases h
      obtain ⟨spot, harises⟩ := exists_arises (compile_refused_iff.1 hcompile)
      exact ⟨spot, .document htext hdocument harises⟩

/-- **A file is refused for the fault that arises in it**, under its name, and the refusal lies in
    the spot. -/
theorem ArisesIn.refused (h : ArisesIn s t p spot fault) :
    ∃ e, (loadProfile s t p).1 = .error (.refused e) ∧ e.fault = fault ∧
      e.LiesIn (some p.name) spot.field? spot.formula? := by
  cases h with
  | unreadable hread =>
    refine ⟨_, ?_, rfl, (Fault.liesIn_somewhere _ none).inFile p.name⟩
    unfold loadProfile
    rw [hread]
  | notText hread hdecode =>
    refine ⟨_, ?_, rfl, (Fault.liesIn_somewhere _ none).inFile p.name⟩
    unfold loadProfile
    rw [hread]
    dsimp only
    rw [hdecode]
  | @json text r htext hdocument =>
    refine ⟨r.within (some p.name) none, ?_, rfl, (document_liesIn hdocument).inFile p.name⟩
    rw [loadProfile_of_textOf? htext]
    unfold Profile.read
    rw [hdocument]
    rfl
  | document htext hdocument harises =>
    obtain ⟨r, hfails, rfl, hlies⟩ := harises.fails (Path.stem p.name)
    refine ⟨r.within (some p.name) none, ?_, rfl, hlies.inFile p.name⟩
    rw [loadProfile_of_textOf? htext]
    unfold Profile.read
    rw [hdocument]
    dsimp only
    rw [compile_refused_iff.2 hfails]
    rfl

/-! ## 2. Places stay -/

/-- The refusal with files and fields filled in, one pair after the other. -/
def withinAll (e : Refusal) (calls : List (Option String × Option String)) : Refusal :=
  calls.foldl (fun e call => e.within call.1 call.2) e

/-- **What is known of a place stays**, whatever is filled in later. -/
theorem withinAll_keeps (calls : List (Option String × Option String)) : ∀ e : Refusal,
    (∀ file, e.site.file = some file → (withinAll e calls).site.file = some file) ∧
    (∀ field, e.site.field = some field → (withinAll e calls).site.field = some field) ∧
    (withinAll e calls).site.formula = e.site.formula := by
  induction calls with
  | nil => exact fun e => ⟨fun _ h => h, fun _ h => h, rfl⟩
  | cons call calls ih =>
    intro e
    obtain ⟨hfile, hfield, hformula⟩ := ih (e.within call.1 call.2)
    exact ⟨fun file h => hfile file (Report.Site.within_file_some e.site file _ _ h),
      fun field h => hfield field (Report.Site.within_field_some e.site field _ _ h), hformula⟩

/-! ## 3. Registries -/

/-- **Every failure of a registry says where it arose.** It names its file. Its fault arises in the
    file; it names the field or key in which the fault arises, if it arises in one, and shows no
    formula but a piece of that field's. What it says of its place cannot be overwritten. -/
theorem failures_located {strict : Bool} {r : Registry}
    (h : (load s t folder strict).1 = .ok r) {name : String} {e : Refusal}
    (he : r.failures.get? name = some e) :
    e.site.file = some name ∧
    (∃ spot, ArisesIn s t (folder.child name) spot e.fault) ∧
    (∀ spot fault, ArisesIn s t (folder.child name) spot fault →
      e.fault = fault ∧ e.LiesIn (some name) spot.field? spot.formula?) ∧
    ∀ (e' : Refusal) (calls : List (Option String × Option String)),
      (∀ file, e'.site.file = some file → (withinAll e' calls).site.file = some file) ∧
      (∀ field, e'.site.field = some field → (withinAll e' calls).site.field = some field) ∧
      (∀ piece, e'.site.formula = some piece → (withinAll e' calls).site.formula = some piece) := by
  obtain ⟨hfailures, hnodup⟩ := failures_eq_refused h
  have hmem : (name, e) ∈ refused s t folder (candidates t folder) :=
    hfailures ▸ (Named.get?_eq_some_iff hnodup).1 he
  have hload : (loadProfile s t (folder.child name)).1 = .error (.refused e) :=
    (mem_refused_iff.1 hmem).2
  have hname : (folder.child name).name = name := by simp [Path.child, Path.name]
  have hlocated (spot : Spot) (fault : Fault)
      (harises : ArisesIn s t (folder.child name) spot fault) :
      e.fault = fault ∧ e.LiesIn (some name) spot.field? spot.formula? := by
    obtain ⟨e', hload', hfault, hlies⟩ := harises.refused
    rw [hload] at hload'
    cases hload'
    rw [hname] at hlies
    exact ⟨hfault, hlies⟩
  obtain ⟨spot, harises⟩ := loadProfile_refused hload
  refine ⟨(hlocated spot _ harises).2.file, ⟨spot, harises⟩, hlocated, fun e' calls => ?_⟩
  obtain ⟨hfile, hfield, hformula⟩ := withinAll_keeps calls e'
  exact ⟨hfile, hfield, fun piece hpiece => hformula.trans hpiece⟩

/-- A document with a sampler that names a symbol there is not. -/
def mistDocument : Text :=
  "\x7b\"Samplers\": [\x7b\"Name\": \"Wet\", \"Type\": \"Formula\", ".toList ++
    "\"Formula\": \"Add(Moisture, Less(Fog, 1))\"\x7d]\x7d".toList

/-- A folder with two files that fail: in a sampler, and outside of all. -/
def mistFolder : FileTree := profileFolder [("broken.json", ['[']), ("mist.json", mistDocument)]

theorem failures_located_mist : ∃ r e spot,
    (load stoneSetting mistFolder ⟨"", ["profiles"]⟩ false).1 = .ok r ∧
    r.failures.get? "mist.json" = some e ∧
    e.site = ⟨some "mist.json", some "Wet", some "Less(Fog, 1)".toList⟩ ∧
    ArisesIn stoneSetting mistFolder (Path.child ⟨"", ["profiles"]⟩ "mist.json") spot e.fault ∧
    spot.field? = some "Wet" := by
  have hsite : (load stoneSetting mistFolder ⟨"", ["profiles"]⟩ false).1.toOption.bind
      (fun r => (r.failures.get? "mist.json").map (·.site)) =
        some ⟨some "mist.json", some "Wet", some "Less(Fog, 1)".toList⟩ := by
    rw [load_of_isFolder rfl, candidates_of_pairwise (by decide +kernel)]
    decide +kernel
  cases h : (load stoneSetting mistFolder ⟨"", ["profiles"]⟩ false).1 with
  | error f =>
    rw [h] at hsite
    cases hsite
  | ok r =>
    rw [h] at hsite
    obtain ⟨e, he, hsite⟩ := Option.map_eq_some_iff.1 hsite
    obtain ⟨-, ⟨spot, harises⟩, hlocated, -⟩ := failures_located h he
    refine ⟨r, e, spot, rfl, he, hsite, harises, ?_⟩
    rw [← (hlocated spot _ harises).2.field, hsite]

end Terrain.Registry
