/-!
# Text, and the blanks around it

Formulas, names and configuration scalars are read character by character, so a text is the list
of its characters and every count or position is a number of characters.

* `isBlank` is the Unicode white space class: the characters that may surround a name, a literal
  or a mark without being part of it.
* `strip` takes the blanks off both ends. What remains is a contiguous piece of the text
  (`strip_within`).
-/

namespace Terrain

/-- A text, as the list of its characters. -/
abbrev Text := List Char

namespace Text

/-! ## 1. The class of blanks -/

/-- Whether a number lies in one of the closed ranges of a table. -/
def inRanges (table : List (Nat × Nat)) (n : Nat) : Bool :=
  table.any fun r => r.1 ≤ n && n ≤ r.2

/-- The code points of white space: the controls that move the carriage, the separators of files,
    groups, records and units, and every space of the space, line and paragraph classes. Joiners
    of zero width and the byte order mark are not blanks. -/
def blankRanges : List (Nat × Nat) :=
  [(0x09, 0x0D), (0x1C, 0x20), (0x85, 0x85), (0xA0, 0xA0), (0x1680, 0x1680), (0x2000, 0x200A),
   (0x2028, 0x2029), (0x202F, 0x202F), (0x205F, 0x205F), (0x3000, 0x3000)]

/-- White space. -/
def isBlank (c : Char) : Bool := inRanges blankRanges c.toNat

/-- Every character that core calls white space is a blank. -/
theorem isBlank_of_isWhitespace {c : Char} (h : c.isWhitespace = true) : isBlank c = true := by
  simp only [Char.isWhitespace, Bool.or_eq_true, decide_eq_true_eq] at h
  rcases h with ((h | h) | h) | h <;> subst h <;> decide

/-! ## 2. Stripping -/

/-- The text without the blanks at its start. -/
def stripStart (t : Text) : Text := t.dropWhile isBlank

/-- The text without the blanks at its end. -/
def stripEnd (t : Text) : Text := (t.reverse.dropWhile isBlank).reverse

/-- The text without the blanks at either end. -/
def strip (t : Text) : Text := stripEnd (stripStart t)

/-- Only a last character that is a blank can be lost at the end. -/
theorem stripEnd_append_singleton (t : Text) (c : Char) :
    stripEnd (t ++ [c]) = if isBlank c then stripEnd t else t ++ [c] := by
  simp only [stripEnd, List.reverse_append, List.reverse_cons, List.reverse_nil, List.nil_append,
    List.singleton_append, List.dropWhile_cons]
  split <;> simp

theorem stripStart_ends (t : Text) : stripStart t <:+ t := List.dropWhile_suffix _

theorem stripEnd_leads (t : Text) : stripEnd t <+: t := by
  have h := List.dropWhile_suffix isBlank (l := t.reverse)
  have h' := List.reverse_prefix.2 h
  simpa [stripEnd] using h'

/-- What is left after stripping is a contiguous piece of the text. -/
theorem strip_within (t : Text) : strip t <:+: t :=
  (stripEnd_leads _).isInfix.trans (stripStart_ends t).isInfix

theorem length_strip_le (t : Text) : (strip t).length ≤ t.length := (strip_within t).length_le

end Text
end Terrain
