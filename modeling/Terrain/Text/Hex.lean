/-!
# Hexadecimal digits

Bits, escapes and digests are written in lower-case hexadecimal with a fixed number of places.
-/

namespace Terrain.Text

/-- The hexadecimal digit of a number below sixteen. -/
def hexDigit (n : Nat) : Char :=
  if n < 10 then Char.ofNat ('0'.toNat + n) else Char.ofNat ('a'.toNat + (n - 10))

/-- The last `places` hexadecimal digits of a number, zeros in front. -/
def hex : Nat → Nat → List Char
  | 0, _ => []
  | places + 1, n => hex places (n / 16) ++ [hexDigit (n % 16)]

/-- The value of a hexadecimal digit of either case. -/
def hexValue? (c : Char) : Option Nat :=
  if '0' ≤ c ∧ c ≤ '9' then some (c.toNat - '0'.toNat)
  else if 'a' ≤ c ∧ c ≤ 'f' then some (c.toNat - 'a'.toNat + 10)
  else if 'A' ≤ c ∧ c ≤ 'F' then some (c.toNat - 'A'.toNat + 10)
  else none

@[simp] theorem length_hex (places n : Nat) : (hex places n).length = places := by
  induction places generalizing n with
  | zero => rfl
  | succ k ih => simp [hex, ih]

end Terrain.Text
