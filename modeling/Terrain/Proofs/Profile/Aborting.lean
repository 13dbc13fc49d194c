import Terrain.Proofs.Json.Walking
import Terrain.Proofs.Number.Beyond
import Terrain.Proofs.Profile.Compiling

/-!
# What ends a load

Almost everything that is wrong with a profile is a refusal. Two whole numbers are not: one of more
digits than are read, and one beyond all doubles that is the wavelength or amplitude of noise.

* `Overflows`: a declaration with such a wavelength or amplitude, that is looked at so far.
* `Ends s t a`: the JSON text `t` ends the load it occurs in.
* `read_aborts_iff`: exactly these texts do.
-/

namespace Terrain.Profile

open Terrain.Formula Terrain.Attempt

variable {s : Setting} {w : Workshop} {entries : List (Value × Value)} {a : Abort}

/-! ## 1. What is wrong -/

/-- The value under a key is a whole number that no double is near. -/
def TooLarge (entries : List (Value × Value)) (key : String) : Prop :=
  ∃ n, Value.lookup key entries = some (.int n) ∧ Number.beyondDoubles ≤ n.natAbs

/-- The value under a key is a number, and a double is near it. -/
def Convertible (entries : List (Value × Value)) (key : String) : Prop :=
  (∃ x, Value.lookup key entries = some (.float x)) ∨
    ∃ n, Value.lookup key entries = some (.int n) ∧ n.natAbs < Number.beyondDoubles

/-- Noise under a free name, of a wavelength or else an amplitude that no double is near. -/
structure Overflows (w : Workshop) (entries : List (Value × Value)) : Prop where
  name : ∃ name, Value.lookup "Name" entries = some (.text name) ∧ w.binds name = false
  noise : Value.lookup "Type" entries = some (.text "Simplex")
  number : TooLarge entries "Wavelength" ∨
    Convertible entries "Wavelength" ∧ TooLarge entries "Amplitude"

/-- One of the samplers of a document overflows, and all before it are bound. -/
def DocumentOverflows (s : Setting) (document : Value) : Prop :=
  ∃ entries before sampler after u w, document = .map entries ∧
    Value.lookup samplersKey entries = some (.list (before ++ .map sampler :: after)) ∧
    (bindSamplers s before).run Workshop.empty = (.ok u, w) ∧ Overflows w sampler

/-- **A JSON text ends the load it occurs in.** -/
inductive Ends (s : Setting) (t : Text) : Abort → Prop
  | digits {n : Nat} (h : Json.MeetsLongNumber s.jsonLimits t n) : Ends s t (.tooManyDigits n)
  | overflow {document : Value} (hread : Json.read s.jsonLimits t = .ok document)
      (h : DocumentOverflows s document) : Ends s t .tooLarge

/-! ## 2. Parts that never end a load -/

theorem demand_not_aborts {α : Type} {x : Except Value.Lack α} :
    ¬ Fails (demand x) (.aborted a) w := by
  cases x <;> nofun

theorem refuse_not_aborts {α : Type} {f : Fault} :
    ¬ Fails (refuse f : Compile α) (.aborted a) w := nofun

theorem compileFormula_not_aborts {k : Kind} {text : String} :
    ¬ Fails (compileFormula s k text) (.aborted a) w := by
  unfold Fails
  rw [run_compileFormula]
  rcases (build (w.scope s) s.room k text.toList).run w.draft with ⟨(r | _) | i, d⟩ <;> nofun

/-- What ends a load is not told to lie in a field. -/
theorem inField_aborts_iff {α : Type} {name : String} {x : Compile α} :
    Fails (inField name x) (.aborted a) w ↔ Fails x (.aborted a) w := by
  unfold Fails
  rw [run_inField]
  rcases x.run w with ⟨(r | b) | v, w₁⟩
  · exact ⟨nofun, nofun⟩
  · exact Iff.rfl
  · exact ⟨nofun, nofun⟩

theorem compileKey_not_aborts {k : Kind} {key : String} :
    ¬ Fails (compileKey s k entries key) (.aborted a) w := by
  intro h
  rcases fails_bind_iff.1 h with h | ⟨text, w₁, -, h⟩
  · exact demand_not_aborts h
  · exact compileFormula_not_aborts (inField_aborts_iff.1 h)

/-- What runs once something required is there. -/
theorem demand_bind_aborts_iff {α β : Type} {x : Except Value.Lack α} {f : α → Compile β} :
    Fails (demand x >>= f) (.aborted a) w ↔ ∃ v, x = .ok v ∧ Fails (f v) (.aborted a) w := by
  rw [fails_bind_iff]
  constructor
  · intro hor
    rcases hor with h | ⟨v, w₁, hv, h⟩
    · exact absurd h demand_not_aborts
    · obtain ⟨hx, rfl⟩ := run_demand_ok hv
      exact ⟨v, hx, h⟩
  · intro hex
    obtain ⟨v, rfl, h⟩ := hex
    exact .inr ⟨v, w, rfl, h⟩

/-! ## 3. Numbers and declarations -/

/-- A required number ends the load if no double is near it. -/
theorem demandNumber_aborts_iff {key : String} :
    Fails (demandNumber entries key) (.aborted a) w ↔ a = .tooLarge ∧ TooLarge entries key := by
  unfold demandNumber
  rw [demand_bind_aborts_iff]
  constructor
  · intro hex
    obtain ⟨v, hv, h⟩ := hex
    rw [requireNumber_eq_ok_iff] at hv
    cases v with
    | inr x => cases h
    | inl n =>
      dsimp only at h
      split at h
      · cases h
      · rename_i hn
        cases h
        exact ⟨rfl, n, hv, Number.ofInt?_eq_none_iff.1 hn⟩
  · intro hex
    obtain ⟨rfl, n, hl, hn⟩ := hex
    refine ⟨.inl n, requireNumber_eq_ok_iff.2 hl, ?_⟩
    dsimp only
    rw [Number.ofInt?_eq_none_iff.2 hn]
    rfl

/-- A required number is given if a double is near it. -/
theorem demandNumber_ok_iff {key : String} :
    (∃ x, (demandNumber entries key).run w = (.ok x, w)) ↔ Convertible entries key := by
  constructor
  · intro hex
    obtain ⟨x, h⟩ := hex
    obtain ⟨v, w₁, hd, h⟩ := run_bind_ok h
    obtain ⟨hv, rfl⟩ := run_demand_ok hd
    rw [requireNumber_eq_ok_iff] at hv
    cases v with
    | inr y => exact .inl ⟨y, hv⟩
    | inl n =>
      dsimp only at h
      split at h
      · rename_i y hy
        exact .inr ⟨n, hv, Number.exists_ofInt?_iff.1 ⟨y, hy⟩⟩
      · cases h
  · -- the number is there, so what is run is the conversion
    have found (v : Int ⊕ Float) (hv : Value.lookup key entries = some (v.elim .int .float)) :
        (demand (Value.requireNumber entries key "sampler")).run w = (.ok v, w) := by
      rw [requireNumber_eq_ok_iff.2 hv]
      rfl
    unfold demandNumber
    intro hor
    rcases hor with ⟨x, hl⟩ | ⟨n, hl, hn⟩
    · rw [run_bind_of_ok (found (.inr x) hl)]
      exact ⟨x, rfl⟩
    · obtain ⟨x, hn⟩ := Number.exists_ofInt?_iff.2 hn
      rw [run_bind_of_ok (found (.inl n) hl)]
      dsimp only
      rw [hn]
      exact ⟨x, rfl⟩

theorem samplerNode_aborts_iff : Fails (samplerNode s entries) (.aborted a) w ↔
    a = .tooLarge ∧ Value.lookup "Type" entries = some (.text "Simplex") ∧
      (TooLarge entries "Wavelength" ∨
        Convertible entries "Wavelength" ∧ TooLarge entries "Amplitude") := by
  unfold samplerNode
  rw [demand_bind_aborts_iff]
  constructor
  · intro hex
    obtain ⟨type, htype, h⟩ := hex
    split at h
    · rename_i hs
      subst hs
      rw [requireText_eq_ok_iff] at htype
      rcases fails_bind_iff.1 h with h | ⟨wavelength, w₁, hw, h⟩
      · obtain ⟨rfl, hlarge⟩ := demandNumber_aborts_iff.1 h
        exact ⟨rfl, htype, .inl hlarge⟩
      · obtain rfl := run_demandNumber_ok hw
        rcases fails_bind_iff.1 h with h | ⟨amplitude, w₂, ha, h⟩
        · obtain ⟨rfl, hlarge⟩ := demandNumber_aborts_iff.1 h
          exact ⟨rfl, htype, .inr ⟨demandNumber_ok_iff.1 ⟨_, hw⟩, hlarge⟩⟩
        · cases h
    · split at h
      · obtain ⟨text, -, h⟩ := demand_bind_aborts_iff.1 h
        exact absurd h compileFormula_not_aborts
      · exact absurd h refuse_not_aborts
  · intro hex
    obtain ⟨rfl, htype, h⟩ := hex
    refine ⟨"Simplex", requireText_eq_ok_iff.2 htype, ?_⟩
    rw [if_pos rfl, fails_bind_iff]
    rcases h with h | ⟨hw, ha⟩
    · exact .inl (demandNumber_aborts_iff.2 ⟨rfl, h⟩)
    · obtain ⟨x, hx⟩ := demandNumber_ok_iff.2 hw
      exact .inr ⟨x, w, hx, fails_bind_iff.2 (.inl (demandNumber_aborts_iff.2 ⟨rfl, ha⟩))⟩

/-- **A declaration ends the load if it overflows.** -/
theorem bindSampler_aborts_iff : Fails (bindSampler s entries) (.aborted a) w ↔
    a = .tooLarge ∧ Overflows w entries := by
  unfold bindSampler
  rw [demand_bind_aborts_iff]
  constructor
  · intro hex
    obtain ⟨name, hname, h⟩ := hex
    rw [requireText_eq_ok_iff] at hname
    rcases fails_bind_iff.1 h with h | ⟨root, w₁, -, h⟩
    · rcases fails_bind_iff.1 (inField_aborts_iff.1 h) with h | ⟨w₁, w₂, hw, h⟩
      · cases h
      · cases hw
        cases hb : w.binds name with
        | true =>
          rw [hb] at h
          cases h
        | false =>
          rw [hb] at h
          obtain ⟨rfl, htype, hnumber⟩ := samplerNode_aborts_iff.1 h
          exact ⟨rfl, ⟨name, hname, hb⟩, htype, hnumber⟩
    · cases h
  · intro hex
    obtain ⟨rfl, ⟨name, hname, hb⟩, htype, hnumber⟩ := hex
    refine ⟨name, requireText_eq_ok_iff.2 hname, fails_bind_iff.2 (.inl ?_)⟩
    rw [inField_aborts_iff, fails_bind_iff]
    refine .inr ⟨w, w, rfl, ?_⟩
    rw [hb]
    exact samplerNode_aborts_iff.2 ⟨rfl, htype, hnumber⟩

/-- **Declarations end the load at the first that overflows**, all before it being bound. -/
theorem bindSamplers_aborts_iff {samplers : List Value} :
    Fails (bindSamplers s samplers) (.aborted a) w ↔ a = .tooLarge ∧
      ∃ before sampler after u w', samplers = before ++ .map sampler :: after ∧
        (bindSamplers s before).run w = (.ok u, w') ∧ Overflows w' sampler := by
  rw [bindSamplers_fails_iff]
  constructor
  · rintro ⟨before, v, after, u, w', hsplit, hbefore, ⟨sampler, rfl, h⟩ | ⟨-, h⟩⟩
    · obtain ⟨rfl, hover⟩ := bindSampler_aborts_iff.1 h
      exact ⟨rfl, before, sampler, after, u, w', hsplit, hbefore, hover⟩
    · cases h
  · rintro ⟨rfl, before, sampler, after, u, w', hsplit, hbefore, hover⟩
    exact ⟨before, _, after, u, w', hsplit, hbefore,
      .inl ⟨sampler, rfl, bindSampler_aborts_iff.2 ⟨rfl, hover⟩⟩⟩

/-! ## 4. Documents and texts -/

theorem compileEntries_aborts_iff {name : String} :
    Fails (compileEntries s name entries) (.aborted a) Workshop.empty ↔
      a = .tooLarge ∧ DocumentOverflows s (.map entries) := by
  unfold compileEntries
  rw [demand_bind_aborts_iff]
  constructor
  · intro hex
    obtain ⟨samplers, hlist, h⟩ := hex
    rw [requireList_eq_ok_iff] at hlist
    rcases fails_bind_iff.1 h with h | ⟨u, w₁, -, h⟩
    · obtain ⟨rfl, before, sampler, after, u, w, rfl, hb, hover⟩ := bindSamplers_aborts_iff.1 h
      exact ⟨rfl, entries, before, sampler, after, u, w, rfl, hlist, hb, hover⟩
    -- the formulas after the declarations are refused at worst
    rcases fails_bind_iff.1 h with h | ⟨density, w₂, -, h⟩
    · exact absurd h compileKey_not_aborts
    rcases fails_bind_iff.1 h with h | ⟨voxelId, w₃, -, h⟩
    · exact absurd h compileKey_not_aborts
    rcases fails_bind_iff.1 h with h | ⟨shape, w₄, -, h⟩
    · exact absurd h compileKey_not_aborts
    · cases h
  · intro hex
    obtain ⟨rfl, entries', before, sampler, after, u, w, he, hlist, hb, h⟩ := hex
    cases he
    refine ⟨_, requireList_eq_ok_iff.2 hlist, fails_bind_iff.2 (.inl ?_)⟩
    exact bindSamplers_aborts_iff.2 ⟨rfl, before, sampler, after, u, w, rfl, hb, h⟩

/-- **A document ends the load if one of its samplers overflows.** -/
theorem compile_aborts_iff {name : String} {document : Value} :
    (compile s name document).1 = .error (.aborted a) ↔
      a = .tooLarge ∧ DocumentOverflows s document := by
  have hfirst : (compile s name document).1 =
      ((compileDocument s name document).run Workshop.empty).1 := by
    unfold compile
    rcases (compileDocument s name document).run Workshop.empty with ⟨f | p, w⟩ <;> rfl
  rw [hfirst]
  cases document with
  | map entries => exact compileEntries_aborts_iff
  | _ => exact ⟨nofun, fun ⟨_, _, _, _, _, _, _, he, _⟩ => nomatch he⟩

/-- **Exactly the texts that `Ends` tells of end the load.** -/
theorem read_aborts_iff {name : String} {t : Text} :
    (read s name t).1 = .error (.aborted a) ↔ Ends s t a := by
  unfold read document
  cases hread : Json.read s.jsonLimits t with
  | ok v =>
    dsimp only
    rw [compile_aborts_iff]
    constructor
    · intro hex
      obtain ⟨rfl, h⟩ := hex
      exact .overflow hread h
    · intro h
      cases h with
      | digits h =>
        rw [Json.read_eq_tooManyDigits_iff.2 h] at hread
        cases hread
      | overflow hread' h =>
        rw [hread] at hread'
        cases hread'
        exact ⟨rfl, h⟩
  | error r =>
    constructor
    · intro h
      cases r with
      | tooManyDigits n =>
        cases h
        exact .digits (Json.read_eq_tooManyDigits_iff.1 hread)
      | _ => cases h
    · intro h
      cases h with
      | digits h =>
        rw [Json.read_eq_tooManyDigits_iff.2 h] at hread
        cases hread
        rfl
      | overflow hread' =>
        rw [hread] at hread'
        cases hread'

end Terrain.Profile
