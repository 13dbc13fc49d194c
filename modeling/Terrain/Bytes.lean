/-!
# Numbers as bytes

A number of a fixed width is written as that many bytes, the least first. Digests read and write
words so, and archives all their fields.
-/

namespace Terrain.Bytes

/-- The bytes of a number, the least first. -/
def little : Nat → Nat → List UInt8
  | 0, _ => []
  | width + 1, n => (n % 256).toUInt8 :: little width (n / 256)

/-- The number of bytes, the least first. -/
def ofLittle : List UInt8 → Nat
  | [] => 0
  | b :: bs => b.toNat + 256 * ofLittle bs

@[simp] theorem length_little (width n : Nat) : (little width n).length = width := by
  induction width generalizing n with
  | zero => rfl
  | succ width ih => simp [little, ih]

/-- What is written is read again, as far as the width goes. -/
theorem ofLittle_little (width n : Nat) : ofLittle (little width n) = n % Nat.pow 256 width := by
  induction width generalizing n with
  | zero => exact (Nat.mod_one n).symm
  | succ width ih =>
    have h : (n % 256).toUInt8.toNat = n % 256 := by
      simp
    have hp : Nat.pow 256 (width + 1) = 256 * Nat.pow 256 width := Nat.mul_comm _ _
    rw [little, ofLittle, ih, h, hp, Nat.mod_mul]

end Terrain.Bytes
