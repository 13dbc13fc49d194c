import Terrain.Number.Numeral
import Terrain.Proofs.Number.Literal
import Terrain.Proofs.Text.Strip

/-!
# Spellings of numbers

A literal is an optional sign, digits with an optional point among or after them, or a point with
digits after it, and an optional power of ten. Configurations accept more: infinities and no-number
in words, and single underscores between digits.

* `Literal t`: the text `t` is a literal. These are the texts that write a number (`literal_iff`).
* `asciiDigits`: each digit replaced by the ASCII digit of the same value. A literal writes the same
  number then (`Writes.asciiDigits`).
* `float?_of_writes`: a configuration reads a literal too, and as the double nearest to its number.
* `spelling_of_float?`: what else it reads is `InWords` or `InGroups`, and that is no literal.
-/

namespace Terrain.Number

open Terrain.Text

variable {t u w : Text} {d : Decimal} {c : Char}

/-! ## 1. Literals -/

/-- No sign, a plus or a minus. -/
def signs : List Text := [[], ['+'], ['-']]

/-- Decimal digits, of any script and also mixed. -/
def AllDigits (t : Text) : Prop := ∀ c ∈ t, isDigit c = true

/-- Digits with an optional point and optional further digits, or a point and at least one digit. -/
inductive Mantissa : Text → Prop
  | whole {w : Text} (hw : AllDigits w) (hne : w ≠ []) : Mantissa w
  | point {w f : Text} (hw : AllDigits w) (hne : w ≠ []) (hf : AllDigits f) :
      Mantissa (w ++ '.' :: f)
  | fraction {f : Text} (hf : AllDigits f) (hne : f ≠ []) : Mantissa ('.' :: f)

/-- Nothing, or `e` or `E` with an optional sign and at least one digit. -/
inductive Power : Text → Prop
  | none : Power []
  | power {e : Char} {a w : Text} (he : e = 'e' ∨ e = 'E') (ha : a ∈ signs) (hw : AllDigits w)
      (hne : w ≠ []) : Power (e :: (a ++ w))

/-- **A literal**: an optional sign, a mantissa, and optionally a power. -/
inductive Literal : Text → Prop
  | mk {a m p : Text} (ha : a ∈ signs) (mantissa : Mantissa m) (power : Power p) :
      Literal (a ++ (m ++ p))

theorem mem_signs_iff : t ∈ signs ↔ ∃ negative, Sign t negative := by
  constructor
  · intro h
    simp only [signs, List.mem_cons, List.not_mem_nil, or_false] at h
    rcases h with rfl | rfl | rfl
    · exact ⟨_, .none⟩
    · exact ⟨_, .plus⟩
    · exact ⟨_, .minus⟩
  · intro hex
    obtain ⟨negative, h⟩ := hex
    cases h <;> decide

theorem AllDigits.of_all (h : t.all isDigit = true) : AllDigits t := List.all_eq_true.1 h

/-- Digits stand for something. -/
theorem digits_iff : AllDigits t ↔ ∃ ds, DigitRun t ds := by
  constructor
  · intro h
    induction t with
    | nil => exact ⟨[], .nil⟩
    | cons c t ih =>
      obtain ⟨ds, hds⟩ := ih fun x hx => h x (List.mem_cons_of_mem c hx)
      obtain ⟨d, hd⟩ := Option.isSome_iff_exists.1 (h c List.mem_cons_self)
      exact ⟨d :: ds, .cons hd hds⟩
  · intro hex
    obtain ⟨ds, h⟩ := hex
    exact h.mem

theorem DigitRun.eq_nil_iff {ds : List Nat} (h : DigitRun t ds) : ds = [] ↔ t = [] := by
  cases h <;> simp

/-- **Literals are the texts that write numbers.** -/
theorem literal_iff : Literal t ↔ ∃ d, Writes t d := by
  constructor
  · intro h
    obtain ⟨ha, mantissa, power⟩ := h
    rename_i a m p
    obtain ⟨negative, hsign⟩ := mem_signs_iff.1 ha
    have hpower : ∃ n, Exponent p n := by
      cases power with
      | none => exact ⟨_, .none⟩
      | power he ha hw hne =>
        obtain ⟨negative, hsign⟩ := mem_signs_iff.1 ha
        obtain ⟨ds, hds⟩ := digits_iff.1 hw
        exact ⟨_, .power he hsign hds (mt hds.eq_nil_iff.1 hne)⟩
    obtain ⟨n, hn⟩ := hpower
    cases mantissa with
    | whole hw hne =>
      obtain ⟨ds, hds⟩ := digits_iff.1 hw
      exact ⟨_, .mk hsign hds .none (.inl (mt hds.eq_nil_iff.1 hne)) hn⟩
    | point hw hne hf =>
      obtain ⟨ds, hds⟩ := digits_iff.1 hw
      obtain ⟨fs, hfs⟩ := digits_iff.1 hf
      rw [List.append_assoc]
      exact ⟨_, .mk hsign hds (.point hfs) (.inl (mt hds.eq_nil_iff.1 hne)) hn⟩
    | fraction hf hne =>
      obtain ⟨fs, hfs⟩ := digits_iff.1 hf
      exact ⟨_, .mk hsign .nil (.point hfs) (.inr (mt hfs.eq_nil_iff.1 hne)) hn⟩
  · intro hex
    obtain ⟨d, sign, digits, decimals, hne, exponent⟩ := hex
    rename_i a w f p negative whole fraction power
    have ha : a ∈ signs := mem_signs_iff.2 ⟨_, sign⟩
    have hw : AllDigits w := digits.mem
    have hp : Power p := by
      cases exponent with
      | none => exact .none
      | power he sign digits hne =>
        exact .power he (mem_signs_iff.2 ⟨_, sign⟩) digits.mem (mt digits.eq_nil_iff.2 hne)
    rw [← List.append_assoc w f p]
    refine .mk ha ?_ hp
    cases decimals with
    | none =>
      rw [List.append_nil]
      exact .whole hw (mt digits.eq_nil_iff.2 (hne.resolve_right (absurd rfl)))
    | @point f _ decimals =>
      by_cases hempty : w = []
      · have hfraction : fraction ≠ [] := hne.resolve_left (absurd (digits.eq_nil_iff.2 hempty))
        rw [hempty]
        exact .fraction decimals.mem (mt decimals.eq_nil_iff.2 hfraction)
      · exact .point hw hempty decimals.mem

/-- What is no literal is not read. -/
theorem read?_eq_none_iff : Decimal.read? t = none ↔ ¬ Literal t := by
  rw [literal_iff, Option.eq_none_iff_forall_ne_some, not_exists]
  exact forall_congr' fun d => not_congr Decimal.read?_eq_some_iff

/-! ## 2. ASCII digits -/

/-- The ASCII digit of the value of a digit; any other character as it is. -/
def asciiDigit (c : Char) : Char :=
  match digit? c with
  | some n => Char.ofNat (0x30 + n)
  | none => c

/-- A text with every digit replaced by the ASCII digit of the same value. -/
def asciiDigits (t : Text) : Text := t.map asciiDigit

/-- The value of a digit stays what it is. -/
theorem digit?_asciiDigit (c : Char) : digit? (asciiDigit c) = digit? c := by
  have ascii : ∀ n < 10, digit? (Char.ofNat (0x30 + n)) = some n := by decide
  unfold asciiDigit
  cases h : digit? c with
  | none => exact h
  | some n => exact ascii n (digit?_lt h)

theorem asciiDigit_of_none (h : digit? c = none) : asciiDigit c = c := by
  unfold asciiDigit
  rw [h]

/-- Whether a character is a blank does not change. -/
theorem isBlank_asciiDigit (c : Char) : isBlank (asciiDigit c) = isBlank c := by
  cases h : digit? c with
  | none => rw [asciiDigit_of_none h]
  | some n =>
    have hc : isDigit c = true := by rw [isDigit, h]; rfl
    have hascii : isDigit (asciiDigit c) = true := by rw [isDigit, digit?_asciiDigit, h]; rfl
    rw [isBlank_of_isDigit hc, isBlank_of_isDigit hascii]

theorem asciiDigits_append (t u : Text) : asciiDigits (t ++ u) = asciiDigits t ++ asciiDigits u :=
  List.map_append

/-- Blanks are taken off just the same. -/
theorem strip_asciiDigits (t : Text) : strip (asciiDigits t) = asciiDigits (strip t) := by
  have hblank : isBlank ∘ asciiDigit = isBlank := funext isBlank_asciiDigit
  have hstart (t : Text) :
      (asciiDigits t).dropWhile isBlank = asciiDigits (t.dropWhile isBlank) := by
    unfold asciiDigits
    rw [List.dropWhile_map, hblank]
  have hreverse (t : Text) : (asciiDigits t).reverse = asciiDigits t.reverse :=
    List.map_reverse.symm
  unfold strip stripEnd stripStart
  rw [hstart, hreverse, hstart, hreverse]

theorem Sign.asciiDigits {negative : Bool} (h : Sign t negative) :
    Sign (asciiDigits t) negative := by
  have hplus : Number.asciiDigits ['+'] = ['+'] := by decide
  have hminus : Number.asciiDigits ['-'] = ['-'] := by decide
  cases h with
  | none => exact .none
  | plus => rw [hplus]; exact .plus
  | minus => rw [hminus]; exact .minus

theorem DigitRun.asciiDigits {ds : List Nat} (h : DigitRun t ds) :
    DigitRun (asciiDigits t) ds := by
  induction h with
  | nil => exact .nil
  | cons hc _ ih => exact .cons ((digit?_asciiDigit _).trans hc) ih

theorem Fraction.asciiDigits {ds : List Nat} (h : Fraction t ds) :
    Fraction (asciiDigits t) ds := by
  have hpoint : asciiDigit '.' = '.' := by decide
  cases h with
  | none => exact .none
  | point digits =>
    rw [Number.asciiDigits, List.map_cons, hpoint]
    exact .point digits.asciiDigits

theorem Exponent.asciiDigits {n : Int} (h : Exponent t n) : Exponent (asciiDigits t) n := by
  have hletter {e : Char} (he : e = 'e' ∨ e = 'E') : asciiDigit e = e := by
    rcases he with rfl | rfl <;> decide
  cases h with
  | none => exact .none
  | power he sign digits hne =>
    rw [Number.asciiDigits, List.map_cons, hletter he, List.map_append]
    exact .power he sign.asciiDigits digits.asciiDigits hne

/-- **In ASCII digits a literal writes the same number.** -/
theorem Writes.asciiDigits (h : Writes t d) : Writes (asciiDigits t) d := by
  obtain ⟨sign, digits, decimals, hne, exponent⟩ := h
  rw [asciiDigits_append, asciiDigits_append, asciiDigits_append]
  exact .mk sign.asciiDigits digits.asciiDigits decimals.asciiDigits hne exponent.asciiDigits

/-! ## 3. What a configuration reads -/

/-- The words for infinities and for no-number. -/
def words : List String := ["inf", "infinity", "nan"]

/-- An infinity or no-number in words, with an optional sign and in letters of any case. -/
def InWords (t : Text) : Prop := ∃ a w, a ∈ signs ∧ String.ofList (lower w) ∈ words ∧ t = a ++ w

/-- Digits in groups: without its underscores, of which there are some, the text is a literal. -/
def InGroups (t : Text) : Prop := '_' ∈ t ∧ Literal (t.filter (· ≠ '_'))

/-- What is read without its underscores is the text without them. -/
theorem eq_filter_of_ungroup? : ∀ {t u : Text} {afterDigit : Bool},
    ungroup? afterDigit t = some u → u = t.filter (· ≠ '_')
  | [], _, _, h => by
    cases h
    rfl
  | c :: r, u, afterDigit, h => by
    unfold ungroup? at h
    split at h
    · rename_i hc
      split at h
      · rw [eq_filter_of_ungroup? h, hc]
        rfl
      · cases h
    · rename_i hc
      obtain ⟨v, hv, rfl⟩ := Option.map_eq_some_iff.1 h
      rw [eq_filter_of_ungroup? hv, List.filter_cons_of_pos (by simpa using hc)]

theorem ungroup?_of_not_mem : ∀ {t : Text} {afterDigit : Bool}, '_' ∉ t →
    ungroup? afterDigit t = some t
  | [], _, _ => rfl
  | c :: r, afterDigit, h => by
    rw [List.mem_cons, not_or] at h
    unfold ungroup?
    rw [if_neg (Ne.symm h.1), ungroup?_of_not_mem h.2]
    rfl

/-- No blanks are taken off a text that has none at its ends. -/
theorem stripNumeral_eq_self (h : Trimmed t) : stripNumeral t = t := by
  have hstart {t : Text} (h : ∀ c ∈ t.head?, isBlank c = false) :
      t.dropWhile isNumeralBlank = t := by
    cases t with
    | nil => rfl
    | cons c r =>
      have hc : isNumeralBlank c = false := by rw [isNumeralBlank, h c rfl, Bool.false_and]
      rw [List.dropWhile_cons, hc, if_neg Bool.false_ne_true]
  have hend : t.reverse.dropWhile isNumeralBlank = t.reverse :=
    hstart fun c hc => h.last c (by rwa [List.head?_reverse] at hc)
  rw [stripNumeral, hstart h.head, hend, List.reverse_reverse]

/-- A literal is a text of literal characters. -/
theorem not_literal_of_mem (hmem : c ∈ t) (hc : ¬ IsLiteralChar c) : ¬ Literal t := by
  intro h
  obtain ⟨d, hd⟩ := literal_iff.1 h
  exact hc (hd.mem c hmem)

/-- The letter is in either case. -/
theorem eq_of_toLower_eq (h : c.toLower = 'n') : c = 'n' ∨ c = 'N' := by
  unfold Char.toLower at h
  split at h
  · have hval : c.val + ('a'.val - 'A'.val) = 'N'.val + ('a'.val - 'A'.val) := congrArg Char.val h
    exact .inr (Char.ext ((UInt32.add_left_inj _).1 hval))
  · exact .inl h

/-- A word for an infinity or no-number holds a letter that no literal does. -/
theorem InWords.not_literal (h : InWords t) : ¬ Literal t := by
  obtain ⟨a, w, -, hw, rfl⟩ := h
  have letter : ∀ s ∈ words, 'n' ∈ s.toList := by decide
  have hn : 'n' ∈ lower w := by simpa using letter _ hw
  obtain ⟨c, hc, hlower⟩ := List.mem_map.1 hn
  refine not_literal_of_mem (List.mem_append_right a hc) ?_
  unfold IsLiteralChar
  rcases eq_of_toLower_eq hlower with rfl | rfl <;> decide

theorem InGroups.not_literal (h : InGroups t) : ¬ Literal t := by
  refine not_literal_of_mem h.1 ?_
  unfold IsLiteralChar
  decide

/-- **A configuration reads a literal as the double nearest to the number it writes.** -/
theorem float?_of_writes (h : Writes t d) : float? t = .ok d.toFloat := by
  have hliteral : Literal t := literal_iff.2 ⟨d, h⟩
  have htrim : Trimmed t := ⟨fun c hc => (h.mem c (List.mem_of_mem_head? hc)).isBlank,
    fun c hc => (h.mem c (List.mem_of_getLast? hc)).isBlank⟩
  have hgroups : '_' ∉ t := fun hmem =>
    not_literal_of_mem hmem (by unfold IsLiteralChar; decide) hliteral
  rcases hsign : takeSign t with ⟨negative, w⟩
  have hword : String.ofList (lower w) ∉ words := by
    intro hw
    obtain ⟨a, ha, ht⟩ := takeSign_split hsign
    exact InWords.not_literal ⟨a, w, mem_signs_iff.2 ⟨_, ha⟩, hw, ht⟩ hliteral
  simp only [words, List.mem_cons, List.not_mem_nil, or_false, not_or] at hword
  unfold float?
  simp only [stripNumeral_eq_self htrim, hsign]
  rw [if_neg (not_or.2 ⟨hword.1, hword.2.1⟩), if_neg hword.2.2, ungroup?_of_not_mem hgroups,
    Option.bind_some, Decimal.read?_eq_some_iff.2 h]

/-- **What a configuration reads is a literal, a word or has digit groups.** -/
theorem spelling_of_float? {v : Float} (ht : Trimmed t) (h : float? t = .ok v) :
    Literal t ∨ InWords t ∨ InGroups t := by
  rcases hsign : takeSign t with ⟨negative, w⟩
  obtain ⟨a, ha, hsplit⟩ := takeSign_split hsign
  have hwords (hw : String.ofList (lower w) ∈ words) : InWords t :=
    ⟨a, w, mem_signs_iff.2 ⟨_, ha⟩, hw, hsplit⟩
  unfold float? at h
  simp only [stripNumeral_eq_self ht, hsign] at h
  split at h
  · rename_i hw
    exact .inr (.inl (hwords (by rcases hw with hw | hw <;> simp [words, hw])))
  split at h
  · rename_i hw
    exact .inr (.inl (hwords (by simp [words, hw])))
  cases hread : (ungroup? false t).bind Decimal.read? with
  | none =>
    rw [hread] at h
    cases h
  | some d =>
    obtain ⟨u, hu, hd⟩ := Option.bind_eq_some_iff.1 hread
    have hliteral : Literal u := literal_iff.2 ⟨d, Decimal.read?_eq_some_iff.1 hd⟩
    by_cases hgroups : '_' ∈ t
    · rw [eq_filter_of_ungroup? hu] at hliteral
      exact .inr (.inr ⟨hgroups, hliteral⟩)
    · rw [ungroup?_of_not_mem hgroups] at hu
      cases hu
      exact .inl hliteral

end Terrain.Number
