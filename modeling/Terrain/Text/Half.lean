/-!
# Halves of pairs

Documents can write a character beyond the first 65536 as two numbers, each of them half of the
character. A half that stands alone is no character, and yet a text can hold it and a message has
to show it. There is no `Char` for it, so 2048 characters of the last private plane, U+10E000 to
U+10E7FF, are set aside and each stands for one half (`ofHalf`). The price is that a document that
holds one of these characters itself is read as if it held the half: what the library says of
texts is said of texts in which they stand for halves.

* `half?` tells the halves apart again: it gives back the number that `ofHalf` was given
  (`half?_ofHalf`), and nothing for a character that is not set aside.
-/

namespace Terrain.Text

/-- The first number that is a half. -/
def firstHalf : Nat := 0xD800

/-- The number of halves. -/
def halfCount : Nat := 2048

/-- Whether a number is half of a pair. -/
def isHalf (n : Nat) : Bool := decide (firstHalf ≤ n ∧ n < firstHalf + halfCount)

/-- The first of the private characters that are set aside for halves. -/
def halfBase : Nat := 0x10E000

/-- The character that is kept for a half. -/
def ofHalf (n : Nat) : Char := Char.ofNat (halfBase + (n - firstHalf))

/-- The half that a character is kept for. -/
def half? (c : Char) : Option Nat :=
  if halfBase ≤ c.toNat ∧ c.toNat < halfBase + halfCount then
    some (firstHalf + (c.toNat - halfBase))
  else none

/-- A half is found again in the character that is kept for it. -/
theorem half?_ofHalf {n : Nat} (h : isHalf n = true) : half? (ofHalf n) = some n := by
  have bounds := of_decide_eq_true h
  unfold firstHalf halfCount at bounds
  have valid : (halfBase + (n - firstHalf)).isValidChar := by
    unfold halfBase firstHalf
    exact Or.inr (by omega)
  have value : (ofHalf n).toNat = halfBase + (n - firstHalf) := by
    rw [ofHalf, Char.ofNat, dif_pos valid]
    rfl
  rw [half?, value]
  unfold halfBase firstHalf halfCount
  rw [if_pos (by omega)]
  exact congrArg some (by omega)

/-- The character of a number, half of a pair or not. -/
def unitChar (n : Nat) : Char := if isHalf n then ofHalf n else Char.ofNat n

end Terrain.Text
