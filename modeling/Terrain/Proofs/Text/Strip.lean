import Mathlib.Data.List.TakeWhile
import Terrain.Text.Blank

/-!
# Texts with blanks around them

* `Padded core t`: the text `t` is `core` with blanks around it.
* `Trimmed t`: no blank stands at either end of `t`.
* `strip_eq_iff`: the text without its outer blanks is the one trimmed text that it is padded from.
-/

namespace Terrain.Text

/-! ## 1. Blanks, padding, trimmed texts -/

/-- A text of nothing but blanks. -/
def Blanks (t : Text) : Prop := ∀ c ∈ t, isBlank c = true

/-- A text is another with blanks around it. -/
def Padded (core t : Text) : Prop := ∃ a b, Blanks a ∧ Blanks b ∧ t = a ++ core ++ b

/-- No blank stands at either end. -/
structure Trimmed (t : Text) : Prop where
  head : ∀ c ∈ t.head?, isBlank c = false
  last : ∀ c ∈ t.getLast?, isBlank c = false

theorem Blanks.nil : Blanks [] := nofun

theorem Blanks.append {a b : Text} (ha : Blanks a) (hb : Blanks b) : Blanks (a ++ b) := by
  intro c hc
  rcases List.mem_append.1 hc with h | h
  · exact ha c h
  · exact hb c h

theorem Padded.refl (t : Text) : Padded t t := ⟨[], [], .nil, .nil, by simp⟩

/-- More blanks around a padded text. -/
theorem Padded.trans {core t u : Text} (h : Padded core t) (h' : Padded t u) : Padded core u := by
  obtain ⟨a, b, ha, hb, rfl⟩ := h
  obtain ⟨a', b', ha', hb', rfl⟩ := h'
  exact ⟨a' ++ a, b ++ b', ha'.append ha, hb.append hb', by simp [List.append_assoc]⟩

/-! ## 2. Stripping -/

theorem stripStart_append {a : Text} (ha : Blanks a) (t : Text) :
    stripStart (a ++ t) = stripStart t :=
  List.dropWhile_append_of_pos ha

theorem stripEnd_append {b : Text} (hb : Blanks b) (t : Text) : stripEnd (t ++ b) = stripEnd t := by
  unfold stripEnd
  rw [List.reverse_append, List.dropWhile_append_of_pos]
  intro c hc
  exact hb c (List.mem_reverse.1 hc)

theorem stripStart_eq_self {t : Text} (h : ∀ c ∈ t.head?, isBlank c = false) :
    stripStart t = t := by
  cases t with
  | nil => rfl
  | cons c r => rw [stripStart, List.dropWhile_cons, h c rfl, if_neg (by simp)]

theorem stripEnd_eq_self {t : Text} (h : ∀ c ∈ t.getLast?, isBlank c = false) :
    stripEnd t = t := by
  have hrev : stripStart t.reverse = t.reverse :=
    stripStart_eq_self fun c hc => h c (by rwa [List.head?_reverse] at hc)
  unfold stripEnd
  rw [show t.reverse.dropWhile isBlank = t.reverse from hrev, List.reverse_reverse]

/-- The blanks that are taken off the start. -/
theorem stripStart_split (t : Text) : ∃ a, Blanks a ∧ t = a ++ stripStart t :=
  ⟨t.takeWhile isBlank, fun _ hc => (List.all_eq_true.1 List.all_takeWhile) _ hc,
    List.takeWhile_append_dropWhile.symm⟩

/-- The blanks that are taken off the end. -/
theorem stripEnd_split (t : Text) : ∃ b, Blanks b ∧ t = stripEnd t ++ b := by
  obtain ⟨a, ha, ht⟩ := stripStart_split t.reverse
  refine ⟨a.reverse, fun c hc => ha c (List.mem_reverse.1 hc), ?_⟩
  have h := congrArg List.reverse ht
  rwa [List.reverse_reverse, List.reverse_append] at h

/-- **Stripping takes blanks off, and nothing else.** -/
theorem padded_strip (t : Text) : Padded (strip t) t := by
  obtain ⟨a, ha, ht⟩ := stripStart_split t
  obtain ⟨b, hb, hs⟩ := stripEnd_split (stripStart t)
  refine ⟨a, b, ha, hb, ?_⟩
  rw [List.append_assoc, show strip t ++ b = stripStart t from hs.symm]
  exact ht

theorem head_stripStart (t : Text) : ∀ c ∈ (stripStart t).head?, isBlank c = false := by
  intro c hc
  have h := List.head?_dropWhile_not isBlank t
  rw [show (t.dropWhile isBlank).head? = some c from hc] at h
  simpa using h

/-- What is left has no blanks at its ends. -/
theorem strip_trimmed (t : Text) : Trimmed (strip t) where
  head c hc := by
    -- what is left is the start of the text without its first blanks
    obtain ⟨b, hb⟩ := stripEnd_leads (stripStart t)
    refine head_stripStart t c ?_
    rw [← hb, List.head?_append, show (stripEnd (stripStart t)).head? = some c from hc]
    rfl
  last c hc := by
    unfold strip stripEnd at hc
    rw [List.getLast?_reverse] at hc
    exact head_stripStart _ c hc

theorem strip_eq_self {t : Text} (h : Trimmed t) : strip t = t := by
  unfold strip
  rw [stripStart_eq_self h.head, stripEnd_eq_self h.last]

/-- Blanks around a text make no difference to what is left of it. -/
theorem strip_of_padded {u t : Text} (h : Padded u t) : strip t = strip u := by
  obtain ⟨a, b, ha, hb, rfl⟩ := h
  unfold strip
  rw [List.append_assoc, stripStart_append ha]
  by_cases hu : Blanks u
  · have hub : stripStart (u ++ b) = [] := by
      rw [stripStart, List.dropWhile_eq_nil_iff]
      exact hu.append hb
    have hu' : stripStart u = [] := by
      rw [stripStart, List.dropWhile_eq_nil_iff]
      exact hu
    rw [hub, hu']
  · -- the first character that is no blank lies in `u`, so the blanks after it are at the end
    have hne : stripStart u ≠ [] := by
      rw [stripStart, Ne, List.dropWhile_eq_nil_iff]
      exact hu
    have happ : stripStart (u ++ b) = stripStart u ++ b := by
      unfold stripStart at hne ⊢
      rw [List.dropWhile_append, if_neg (by simpa using hne)]
    rw [happ, stripEnd_append hb]

/-- **The text that is left is the one trimmed text the text is padded from.** -/
theorem strip_eq_iff {t core : Text} : strip t = core ↔ Padded core t ∧ Trimmed core := by
  constructor
  · rintro rfl
    exact ⟨padded_strip t, strip_trimmed t⟩
  · intro hex
    obtain ⟨hp, ht⟩ := hex
    rw [strip_of_padded hp, strip_eq_self ht]

theorem strip_strip (t : Text) : strip (strip t) = strip t := strip_eq_self (strip_trimmed t)

/-- Nothing is left of blanks alone. -/
theorem strip_eq_nil_iff {t : Text} : strip t = [] ↔ Blanks t := by
  rw [strip_eq_iff]
  constructor
  · intro hex
    obtain ⟨⟨a, b, ha, hb, rfl⟩, -⟩ := hex
    rw [List.append_nil]
    exact ha.append hb
  · intro h
    exact ⟨⟨t, [], h, .nil, by simp⟩, nofun, nofun⟩

end Terrain.Text
