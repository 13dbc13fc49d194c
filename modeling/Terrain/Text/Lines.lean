import Terrain.Text.Blank

/-!
# Line ends

Files are read with one line end: a carriage return, alone or before a line feed, reads as a line
feed. A place in a text is told to the reader as a line and a column, both from one.
-/

namespace Terrain.Text

/-- The text with every line end a single line feed. -/
def unifyLineEnds : Text → Text
  | '\r' :: '\n' :: r => '\n' :: unifyLineEnds r
  | '\r' :: r => '\n' :: unifyLineEnds r
  | c :: r => c :: unifyLineEnds r
  | [] => []

/-- A place in a text: the characters before it, its line and its column. -/
structure Place where
  offset : Nat
  line : Nat
  column : Nat
  deriving DecidableEq, Repr

/-- The place after the first `n` characters of a text. Lines end at line feeds only. -/
def placeAt (t : Text) (n : Nat) : Place :=
  let before := t.take n
  ⟨n, before.count '\n' + 1, (before.reverse.takeWhile (· ≠ '\n')).length + 1⟩

/-- A text in which every line end is a line feed is left as it is. -/
theorem unifyLineEnds_eq_self {t : Text} (h : '\r' ∉ t) : unifyLineEnds t = t := by
  fun_induction unifyLineEnds t <;> simp_all

end Terrain.Text
