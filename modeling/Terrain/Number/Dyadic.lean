import Terrain.Number.Power

/-!
# What a double is, exactly

A double is a sign and `m · 2 ^ e`, an infinity, or no number. Texts, roundings and integer parts
are computed from that exact reading (`reading`), never through another double.

* `floor?` and `truncate?` give the integer at or below a double and the one toward zero; they
  refuse what is no finite number, and say which (`NoInteger`).
* `ofInt?` gives the double nearest to an integer, and nothing for an integer beyond them all.
-/

namespace Terrain.Number

/-- The exact value `± mantissa · 2 ^ exponent`. -/
structure Dyadic where
  negative : Bool
  mantissa : Nat
  exponent : Int
  deriving DecidableEq, Repr

/-- What the bits of a double stand for. -/
inductive Reading where
  | notANumber
  | infinite (negative : Bool)
  | finite (d : Dyadic)
  deriving DecidableEq, Repr

/-- The exact reading of a double: 52 bits of fraction, 11 of exponent and a sign. Below the least
    exponent the leading bit is not implied. -/
def reading (x : Float) : Reading :=
  let bits := x.toBits.toNat
  let negative := bits / twoTo 63 == 1
  let exponent : Nat := bits / twoTo 52 % twoTo 11
  let fraction : Nat := bits % twoTo 52
  if exponent = 2047 then
    if fraction = 0 then .infinite negative else .notANumber
  else if exponent = 0 then .finite ⟨negative, fraction, -1074⟩
  else .finite ⟨negative, twoTo 52 + fraction, (exponent : Int) - 1075⟩

/-- The signed mantissa. -/
def Dyadic.signed (d : Dyadic) : Int := if d.negative then -(d.mantissa : Int) else d.mantissa

/-- The greatest integer at or below the value. -/
def Dyadic.floor (d : Dyadic) : Int :=
  if 0 ≤ d.exponent then d.signed * twoTo d.exponent.toNat
  else Int.fdiv d.signed (twoTo (-d.exponent).toNat)

/-- The integer part of the value, toward zero. -/
def Dyadic.truncate (d : Dyadic) : Int :=
  if 0 ≤ d.exponent then d.signed * twoTo d.exponent.toNat
  else Int.tdiv d.signed (twoTo (-d.exponent).toNat)

/-- Why a double has no integer part. -/
inductive NoInteger where
  | notANumber
  | infinite
  deriving DecidableEq, Repr

/-- The refusal in words. -/
def NoInteger.message : NoInteger → String
  | .notANumber => "cannot convert float NaN to integer"
  | .infinite => "cannot convert float infinity to integer"

/-- The greatest integer at or below a double. -/
def floor? (x : Float) : Except NoInteger Int :=
  match reading x with
  | .notANumber => .error .notANumber
  | .infinite _ => .error .infinite
  | .finite d => .ok d.floor

/-- The integer part of a double. -/
def truncate? (x : Float) : Except NoInteger Int :=
  match reading x with
  | .notANumber => .error .notANumber
  | .infinite _ => .error .infinite
  | .finite d => .ok d.truncate

/-- The integer that a double is equal to, if it is equal to one. -/
def whole? (x : Float) : Option Int :=
  match reading x with
  | .finite d =>
    if 0 ≤ d.exponent ∨ twoTo (-d.exponent).toNat ∣ d.mantissa then some d.floor else none
  | _ => none

/-- The double nearest to an integer, ties to the even mantissa; nothing if that is infinite. -/
def ofInt? (n : Int) : Option Float :=
  let x := Float.ofInt n
  match reading x with
  | .finite _ => some x
  | _ => none

/-- The doubles beyond and beside the finite ones. -/
def infinity (negative : Bool) : Float :=
  Float.ofBits (if negative then 0xFFF0000000000000 else 0x7FF0000000000000)

/-- The double that is no number. -/
def notANumber : Float := Float.ofBits 0x7FF8000000000000

/-- A double with a sign put before it. -/
def withSign (negative : Bool) (x : Float) : Float := if negative then -x else x

end Terrain.Number
