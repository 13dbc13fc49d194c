import Terrain.Number.Dyadic
import Terrain.Number.Shortest

/-!
# Fixed places

A measurement is reported with a fixed number of decimal places, rounded from its exact value; a
half goes to the even neighbour. The sign is kept, also before a zero.
-/

namespace Terrain.Number

/-- `num / den` rounded to the nearest integer, a half to the even one. -/
def roundDiv (num den : Nat) : Nat :=
  let q := num / den
  let r := num % den
  if 2 * r < den then q
  else if den < 2 * r then q + 1
  else if q % 2 = 0 then q else q + 1

/-- A rounded quotient is at most half a unit away. -/
theorem roundDiv_near {num den : Nat} (hden : 0 < den) :
    2 * num ≤ 2 * (den * roundDiv num den) + den ∧
    2 * (den * roundDiv num den) ≤ 2 * num + den := by
  have h := Nat.div_add_mod num den
  have hr := Nat.mod_lt num hden
  have e : den * (num / den + 1) = den * (num / den) + den := Nat.mul_succ _ _
  simp only [roundDiv]
  split
  · omega
  · split
    · rw [e]; omega
    · split
      · omega
      · rw [e]; omega

/-- A double with `places` decimal places. -/
def fixed (places : Nat) (x : Float) : String :=
  match reading x with
  | .notANumber => "nan"
  | .infinite negative => if negative then "-inf" else "inf"
  | .finite d =>
    let n := roundDiv (d.mantissa * tenTo places * twoTo d.exponent.toNat)
      (twoTo (-d.exponent).toNat)
    (if d.negative then "-" else "") ++ toString (n / tenTo places) ++ "." ++
      padded places (n % tenTo places)

end Terrain.Number
