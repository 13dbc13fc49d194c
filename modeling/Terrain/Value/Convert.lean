import Terrain.Value

/-!
# Values taken for numbers

A configuration may write a number as a number, as a truth value, or as a text. `integer?` takes a
value for a whole number, cutting a double toward zero; `float?` takes it for a double.
-/

namespace Terrain.Value

open Terrain.Number

/-- Why a value is taken for no number. -/
inductive Unfit where
  | notInteger (found : Form)
  | notFloat (found : Form)
  | numeral (r : NumeralRefusal)
  | noInteger (r : NoInteger)
  | tooLarge
  | other (words : String)
  deriving DecidableEq, Repr

/-- The refusal in words. -/
def Unfit.message : Unfit → String
  | .notInteger f =>
    "int() argument must be a string, a bytes-like object or a real number, not '" ++ f.name ++ "'"
  | .notFloat f => "float() argument must be a string or a real number, not '" ++ f.name ++ "'"
  | .numeral r => r.message
  | .noInteger r => r.message
  | .tooLarge => "int too large to convert to float"
  | .other words => words

/-- The whole number a value is taken for. -/
def integer? : Value → Except Unfit Int
  | .int n => .ok n
  | .bool b => .ok (if b then 1 else 0)
  | .float x => (truncate? x).mapError .noInteger
  | .text s => (Number.integer? s.toList).mapError .numeral
  | .other o => o.integer.mapError .other
  | v => .error (.notInteger v.form)

/-- The double a value is taken for. -/
def float? : Value → Except Unfit Float
  | .int n => (ofInt? n).elim (.error .tooLarge) .ok
  | .bool b => .ok (if b then 1 else 0)
  | .float x => .ok x
  | .text s => (Number.float? s.toList).mapError .numeral
  | .other o => o.float.mapError .other
  | v => .error (.notFloat v.form)

/-- The text of a value on its own, unless it holds a whole number with too many digits to be
    written. -/
def plain? (v : Value) : Option String := if v.exceedsDigits then none else some v.plain

/-- The text of a value in a message, under the same condition. -/
def shown? (v : Value) : Option String := if v.exceedsDigits then none else some v.shown

/-- The refusal of a whole number with too many digits to be written, in words. -/
def unwritableMessage : String := Number.digitLimitMessage ""

end Terrain.Value
