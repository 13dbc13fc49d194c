import Terrain.Number.Dyadic
import Terrain.Text.Digit
import Terrain.Text.Blank

/-!
# Decimal literals

A literal is an optional sign, digits with an optional point, and an optional power of ten; digits
of any script may be used, also mixed.

* `Decimal.read?` accepts exactly that language and gives the number the literal writes.
* `Decimal.toFloat` is the double nearest to it, ties to the even mantissa: beyond the doubles an
  infinity, below them a zero, of the literal's sign.
-/

namespace Terrain.Number

open Terrain.Text

/-- The number `± coefficient · 10 ^ exponent`. -/
structure Decimal where
  negative : Bool
  coefficient : Nat
  exponent : Int
  deriving DecidableEq, Repr

/-! ## 1. The nearest double -/

/-- The double nearest to a decimal. Powers of ten that are out of reach of the coefficient are
    not computed: `10 ^ 400` is beyond every double, and a coefficient of `b` bits needs no more
    than `b` decimal places to come down to `1`. -/
def Decimal.toFloat (d : Decimal) : Float :=
  if d.coefficient = 0 then withSign d.negative 0.0
  else if 400 < d.exponent then infinity d.negative
  else if d.exponent < -(400 + (d.coefficient.log2 : Int)) then withSign d.negative 0.0
  else
    withSign d.negative
      (Float.ofScientific d.coefficient (d.exponent < 0) d.exponent.natAbs)

/-! ## 2. Reading a literal -/

/-- An optional sign and the rest. -/
def takeSign : Text → Bool × Text
  | '+' :: r => (false, r)
  | '-' :: r => (true, r)
  | t => (false, t)

/-- An optional power of ten at the very end of a literal. -/
def readPower? : Text → Option Int
  | [] => some 0
  | c :: r =>
    if c = 'e' ∨ c = 'E' then
      let (negative, r) := takeSign r
      let (ds, r) := takeDigits r
      if ds.isEmpty ∨ ¬ r.isEmpty then none
      else some (if negative then -(digitsValue ds : Int) else digitsValue ds)
    else none

/-- The digits after a point, if there is a point. -/
def takeFraction : Text → List Nat × Text
  | '.' :: r => takeDigits r
  | t => ([], t)

/-- The number a literal writes; nothing for any other text. -/
def Decimal.read? (t : Text) : Option Decimal :=
  let (negative, t) := takeSign t
  let (whole, t) := takeDigits t
  let (fraction, t) := takeFraction t
  if whole.isEmpty && fraction.isEmpty then none
  else
    (readPower? t).map fun power =>
      ⟨negative, digitsValue (whole ++ fraction), power - fraction.length⟩

example : Decimal.read? "-1.5e+3".toList = some ⟨true, 15, 2⟩ := by decide +kernel
example : Decimal.read? "7.".toList = some ⟨false, 7, 0⟩ := by decide +kernel
example : Decimal.read? ".".toList = none ∧ Decimal.read? "1e".toList = none := by decide +kernel

end Terrain.Number
