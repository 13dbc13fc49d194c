import Terrain.Number.Decimal

/-!
# The language of decimal literals

A literal is written from a sign, digits, a fraction and a power of ten, of which only the digits
or the fraction have to be there. Each part is described by what may be written and what is meant
by it.

* `Writes t d`: the text `t` is a literal, and writes the number `d`.
* `read?_eq_some_iff`: exactly these texts are read, and as the numbers they write.
* `Writes.mem`: a literal is made of digits, signs, points and the letter of the power.
-/

namespace Terrain.Number

open Terrain.Text

/-! ## 1. The parts of a literal -/

/-- A sign, or none; whether it is a minus. -/
inductive Sign : Text → Bool → Prop
  | none : Sign [] false
  | plus : Sign ['+'] false
  | minus : Sign ['-'] true

/-- Digits of any script, and what they stand for. -/
inductive DigitRun : Text → List Nat → Prop
  | nil : DigitRun [] []
  | cons {c : Char} {d : Nat} {t : Text} {ds : List Nat} (hc : digit? c = some d)
      (rest : DigitRun t ds) : DigitRun (c :: t) (d :: ds)

/-- A point with digits after it, or nothing. -/
inductive Fraction : Text → List Nat → Prop
  | none : Fraction [] []
  | point {t : Text} {ds : List Nat} (digits : DigitRun t ds) : Fraction ('.' :: t) ds

/-- A power of ten, or nothing, which stands for the power zero. -/
inductive Exponent : Text → Int → Prop
  | none : Exponent [] 0
  | power {e : Char} {a t : Text} {negative : Bool} {ds : List Nat} (he : e = 'e' ∨ e = 'E')
      (sign : Sign a negative) (digits : DigitRun t ds) (hne : ds ≠ []) :
      Exponent (e :: (a ++ t)) (if negative then -(digitsValue ds : Int) else digitsValue ds)

/-- **A text writes a number**: the sign, the digits, the fraction and the power of ten, one after
    the other, with a digit before the power. -/
inductive Writes : Text → Decimal → Prop
  | mk {a w f p : Text} {negative : Bool} {whole fraction : List Nat} {power : Int}
      (sign : Sign a negative) (digits : DigitRun w whole) (decimals : Fraction f fraction)
      (hne : whole ≠ [] ∨ fraction ≠ []) (exponent : Exponent p power) :
      Writes (a ++ (w ++ (f ++ p)))
        ⟨negative, digitsValue (whole ++ fraction), power - fraction.length⟩

/-! ## 2. Signs -/

variable {t r : Text}

/-- What is left after a sign is not a sign once more, if it starts otherwise. -/
theorem Sign.takeSign {a : Text} {negative : Bool} (h : Sign a negative)
    (hr : ∀ c ∈ r.head?, c ≠ '+' ∧ c ≠ '-') : takeSign (a ++ r) = (negative, r) := by
  cases h with
  | plus => rfl
  | minus => rfl
  | none =>
    rw [List.nil_append]
    unfold Number.takeSign
    split
    · exact absurd rfl (hr '+' rfl).1
    · exact absurd rfl (hr '-' rfl).2
    · rfl

/-- What is taken off as a sign is one. -/
theorem takeSign_split {negative : Bool} (h : takeSign t = (negative, r)) :
    ∃ a, Sign a negative ∧ t = a ++ r := by
  unfold takeSign at h
  split at h <;> cases h
  · exact ⟨['+'], .plus, rfl⟩
  · exact ⟨['-'], .minus, rfl⟩
  · exact ⟨[], .none, rfl⟩

/-! ## 3. Digits -/

/-- A character that is no digit. -/
def NoDigit (t : Text) : Prop := ∀ c ∈ t.head?, digit? c = none

theorem DigitRun.takeDigits {w : Text} {ds : List Nat} (h : DigitRun w ds) (hr : NoDigit r) :
    takeDigits (w ++ r) = (ds, r) := by
  induction h with
  | nil =>
    cases r with
    | nil => rfl
    | cons c r =>
      have hc : digit? c = none := hr c rfl
      simp only [List.nil_append, Text.takeDigits, hc]
  | cons hc _ ih => simp only [List.cons_append, Text.takeDigits, hc, ih]

/-- What is taken off as digits are digits. -/
theorem takeDigits_split : ∀ {t : Text} {ds : List Nat} {r : Text}, takeDigits t = (ds, r) →
    ∃ w, DigitRun w ds ∧ t = w ++ r
  | [], _, _, h => by
    cases h
    exact ⟨[], .nil, rfl⟩
  | c :: t, ds, r, h => by
    unfold takeDigits at h
    split at h <;> cases h
    · rename_i d hd
      obtain ⟨w, hw, hr⟩ := takeDigits_split (t := t) rfl
      exact ⟨c :: w, .cons hd hw, by rw [List.cons_append, ← hr]⟩
    · exact ⟨[], .nil, rfl⟩

/-- Every character of digits is one. -/
theorem DigitRun.mem {w : Text} {ds : List Nat} (h : DigitRun w ds) :
    ∀ c ∈ w, isDigit c = true := by
  induction h with
  | nil => nofun
  | cons hc _ ih =>
    intro x hx
    rcases List.mem_cons.1 hx with rfl | hx
    · rw [isDigit, hc]
      rfl
    · exact ih x hx

/-- Digits start with no character that is no digit. -/
theorem DigitRun.head_ne {w : Text} {ds : List Nat} (h : DigitRun w ds) {c x : Char}
    (hc : c ∈ w.head?) (hx : digit? x = none) : c ≠ x := by
  rintro rfl
  have hd := h.mem c (List.mem_of_mem_head? hc)
  rw [isDigit, hx] at hd
  cases hd

/-! ## 4. Powers of ten -/

theorem Exponent.noDigit {p : Text} {power : Int} (h : Exponent p power) : NoDigit p := by
  cases h with
  | none => nofun
  | power he =>
    intro c hc
    obtain rfl := Option.some.inj hc
    rcases he with rfl | rfl <;> decide

/-- A power of ten is what is written as one. -/
theorem readPower?_eq_some_iff {p : Int} : readPower? t = some p ↔ Exponent t p := by
  constructor
  · intro h
    cases t with
    | nil =>
      cases h
      exact .none
    | cons e r =>
      rw [readPower?.eq_def] at h
      dsimp only at h
      split at h
      · rename_i he
        rcases hsign : takeSign r with ⟨negative, u⟩
        rcases hdigits : takeDigits u with ⟨ds, v⟩
        obtain ⟨a, ha, rfl⟩ := takeSign_split hsign
        obtain ⟨w, hw, rfl⟩ := takeDigits_split hdigits
        rw [hsign] at h
        dsimp only at h
        rw [hdigits] at h
        dsimp only at h
        split at h
        · cases h
        · rename_i hend
          rw [not_or, Decidable.not_not, List.isEmpty_iff, List.isEmpty_iff] at hend
          obtain ⟨hne, rfl⟩ := hend
          cases h
          rw [List.append_nil]
          exact .power he ha hw hne
      · cases h
  · intro h
    cases h with
    | none => rfl
    | @power e a u negative ds he sign digits hne =>
      have hsign : takeSign (a ++ u) = (negative, u) :=
        sign.takeSign fun c hc => ⟨digits.head_ne hc (by decide), digits.head_ne hc (by decide)⟩
      have hdigits : takeDigits u = (ds, []) := by
        have := digits.takeDigits (r := []) nofun
        rwa [List.append_nil] at this
      rw [readPower?.eq_def]
      dsimp only
      rw [if_pos he, hsign]
      dsimp only
      rw [hdigits, if_neg]
      simpa using hne

/-! ## 5. Literals -/

theorem Fraction.takeFraction {f : Text} {ds : List Nat} (h : Fraction f ds) (hr : NoDigit r)
    (hpoint : '.' ∉ r.head?) : takeFraction (f ++ r) = (ds, r) := by
  cases h with
  | point digits => exact digits.takeDigits hr
  | none =>
    rw [List.nil_append]
    unfold Number.takeFraction
    split
    · exact absurd rfl hpoint
    · rfl

/-- What is taken off as a fraction is one. -/
theorem takeFraction_split {ds : List Nat} (h : takeFraction t = (ds, r)) :
    ∃ f, Fraction f ds ∧ t = f ++ r := by
  unfold takeFraction at h
  split at h
  · obtain ⟨w, hw, rfl⟩ := takeDigits_split h
    exact ⟨'.' :: w, .point hw, rfl⟩
  · cases h
    exact ⟨[], .none, rfl⟩

/-- A fraction that has digits starts with a point, and so does one before a power of ten. -/
theorem Fraction.noDigit {f p : Text} {ds : List Nat} (h : Fraction f ds) (hp : NoDigit p) :
    NoDigit (f ++ p) := by
  cases h with
  | none => exact hp
  | point =>
    intro c hc
    obtain rfl := Option.some.inj hc
    decide

/-- **Exactly the texts that write a number are read, and as that number.** -/
theorem Decimal.read?_eq_some_iff {d : Decimal} : Decimal.read? t = some d ↔ Writes t d := by
  constructor
  · intro h
    rcases hsign : takeSign t with ⟨negative, u⟩
    rcases hwhole : takeDigits u with ⟨whole, v⟩
    rcases hfraction : takeFraction v with ⟨fraction, p⟩
    obtain ⟨a, ha, rfl⟩ := takeSign_split hsign
    obtain ⟨w, hw, rfl⟩ := takeDigits_split hwhole
    obtain ⟨f, hf, rfl⟩ := takeFraction_split hfraction
    unfold Decimal.read? at h
    rw [hsign] at h
    dsimp only at h
    rw [hwhole] at h
    dsimp only at h
    rw [hfraction] at h
    dsimp only at h
    split at h
    · cases h
    · rename_i hne
      obtain ⟨power, hpower, rfl⟩ := Option.map_eq_some_iff.1 h
      refine .mk ha hw hf ?_ (readPower?_eq_some_iff.1 hpower)
      rwa [Bool.and_eq_true, List.isEmpty_iff, List.isEmpty_iff, Decidable.not_and_iff_or_not]
        at hne
  · intro hex
    obtain ⟨sign, digits, decimals, hne, exponent⟩ := hex
    rename_i a w f p negative whole fraction power
    -- each part ends where the next one starts
    have hp := exponent.noDigit
    have hf := decimals.noDigit hp
    have hpoint : '.' ∉ p.head? := by
      cases exponent with
      | none => simp
      | power he => rcases he with rfl | rfl <;> simp
    have hsign : ∀ c ∈ (w ++ (f ++ p)).head?, c ≠ '+' ∧ c ≠ '-' := by
      intro c hc
      cases digits with
      | cons hd rest =>
        have hw := DigitRun.cons hd rest
        exact ⟨hw.head_ne hc (by decide), hw.head_ne hc (by decide)⟩
      | nil =>
        cases decimals with
        | none => exact absurd rfl (hne.resolve_left (by simp))
        | point =>
          obtain rfl := Option.some.inj hc
          decide
    unfold Decimal.read?
    rw [sign.takeSign hsign]
    dsimp only
    rw [digits.takeDigits hf]
    dsimp only
    rw [decimals.takeFraction hp hpoint, readPower?_eq_some_iff.2 exponent, if_neg]
    · rfl
    · rwa [Bool.and_eq_true, List.isEmpty_iff, List.isEmpty_iff, Decidable.not_and_iff_or_not]

/-! ## 6. The characters of a literal -/

/-- The characters of a literal that are no digits. -/
def marks : List Char := ['+', '-', '.', 'e', 'E']

/-- A digit of some script, or a mark. -/
def IsLiteralChar (c : Char) : Prop := isDigit c = true ∨ c ∈ marks

/-- No blank is a digit. -/
theorem isBlank_of_isDigit {c : Char} (h : isDigit c = true) : isBlank c = false := by
  have apart : ∀ z ∈ digitZeros, ∀ r ∈ blankRanges, z + 10 ≤ r.1 ∨ r.2 < z := by decide
  obtain ⟨d, hd⟩ := Option.isSome_iff_exists.1 h
  obtain ⟨z, hz, -⟩ := Option.map_eq_some_iff.1 hd
  have hrange := List.find?_some hz
  rw [Bool.and_eq_true, decide_eq_true_eq, decide_eq_true_eq] at hrange
  unfold isBlank inRanges
  rw [List.any_eq_false]
  intro r hr
  rw [Bool.and_eq_true, decide_eq_true_eq, decide_eq_true_eq]
  have := apart z (List.mem_of_find?_eq_some hz) r hr
  omega

theorem IsLiteralChar.isBlank {c : Char} (h : IsLiteralChar c) : isBlank c = false := by
  rcases h with h | h
  · exact isBlank_of_isDigit h
  · have all : marks.all (fun c => !Text.isBlank c) = true := by decide
    exact Bool.not_eq_eq_eq_not.1 (List.all_eq_true.1 all c h)

/-- No character of a literal is one that a call is made of. -/
theorem IsLiteralChar.plain {c : Char} (h : IsLiteralChar c) : c ≠ '(' ∧ c ≠ ')' ∧ c ≠ ',' := by
  rcases h with h | h
  · have hd : isDigit '(' = false ∧ isDigit ')' = false ∧ isDigit ',' = false := by decide
    refine ⟨?_, ?_, ?_⟩ <;> rintro rfl
    · rw [hd.1] at h
      cases h
    · rw [hd.2.1] at h
      cases h
    · rw [hd.2.2] at h
      cases h
  · have apart : '(' ∉ marks ∧ ')' ∉ marks ∧ ',' ∉ marks := by decide
    exact ⟨ne_of_mem_of_not_mem h apart.1, ne_of_mem_of_not_mem h apart.2.1,
      ne_of_mem_of_not_mem h apart.2.2⟩

theorem Sign.mem {a : Text} {negative : Bool} (h : Sign a negative) :
    ∀ c ∈ a, IsLiteralChar c := by
  cases h with
  | none => nofun
  | plus | minus =>
    intro c hc
    rw [List.mem_singleton.1 hc]
    exact .inr (by decide)

theorem Fraction.mem {f : Text} {ds : List Nat} (h : Fraction f ds) :
    ∀ c ∈ f, IsLiteralChar c := by
  cases h with
  | none => nofun
  | point digits =>
    intro c hc
    rcases List.mem_cons.1 hc with rfl | hc
    · exact .inr (by decide)
    · exact .inl (digits.mem c hc)

theorem Exponent.mem {p : Text} {power : Int} (h : Exponent p power) :
    ∀ c ∈ p, IsLiteralChar c := by
  cases h with
  | none => nofun
  | power he sign digits =>
    intro c hc
    rcases List.mem_cons.1 hc with rfl | hc
    · rcases he with rfl | rfl <;> exact .inr (by decide)
    · rcases List.mem_append.1 hc with hc | hc
      · exact sign.mem c hc
      · exact .inl (digits.mem c hc)

/-- **A literal is made of digits and marks.** -/
theorem Writes.mem {d : Decimal} (h : Writes t d) : ∀ c ∈ t, IsLiteralChar c := by
  obtain ⟨sign, digits, decimals, -, exponent⟩ := h
  intro c hc
  rcases List.mem_append.1 hc with hc | hc
  · exact sign.mem c hc
  rcases List.mem_append.1 hc with hc | hc
  · exact .inl (digits.mem c hc)
  rcases List.mem_append.1 hc with hc | hc
  · exact decimals.mem c hc
  · exact exponent.mem c hc

/-- No literal is empty. -/
theorem Writes.ne_nil {d : Decimal} (h : Writes t d) : t ≠ [] := by
  obtain ⟨sign, digits, decimals, hne, exponent⟩ := h
  intro he
  obtain ⟨-, he⟩ := List.append_eq_nil_iff.1 he
  obtain ⟨hw, he⟩ := List.append_eq_nil_iff.1 he
  obtain ⟨hf, -⟩ := List.append_eq_nil_iff.1 he
  subst hw hf
  cases digits
  cases decimals
  exact hne.elim (absurd rfl) (absurd rfl)

end Terrain.Number
