import Terrain.Number.Decimal
import Terrain.Text.Quoted

/-!
# Numbers written as configuration text

A configuration may give a number as a text. Blanks around it, a sign, digits of any script and a
single underscore between two digits are accepted.

* `integer?` reads a whole number of at most `digitLimit` digits.
* `float?` reads a decimal literal, an infinity or no-number in words.
* A refusal shows the text it refuses.
-/

namespace Terrain.Number

open Terrain.Text

/-- Why a text, or the number it writes, is refused. -/
inductive NumeralRefusal where
  | notInteger (text : Text)
  | notFloat (text : Text)
  | tooManyDigits (count : Nat)
  deriving DecidableEq, Repr

/-- The most digits a whole number may be written with. -/
def digitLimit : Nat := 4300

/-- The limit in words, `value` saying what exceeds it. -/
def digitLimitMessage (value : String) : String :=
  "Exceeds the limit (" ++ toString digitLimit ++ " digits) for integer string conversion" ++
    value ++ "; use sys.set_int_max_str_digits() to increase the limit"

/-- The refusal in words. The text shown for a whole number is cut after 200 characters. -/
def NumeralRefusal.message : NumeralRefusal → String
  | .notInteger t =>
    "invalid literal for int() with base 10: " ++ String.ofList ((quoted t).take 200)
  | .notFloat t => "could not convert string to float: " ++ String.ofList (quoted t)
  | .tooManyDigits n => digitLimitMessage (": value has " ++ toString n ++ " digits")

/-- The blanks that may surround a number: white space without the four separators of data. -/
def isNumeralBlank (c : Char) : Bool :=
  isBlank c && !(0x1C ≤ c.toNat && c.toNat ≤ 0x1F)

/-- The text without the blanks that may surround a number. -/
def stripNumeral (t : Text) : Text :=
  ((t.dropWhile isNumeralBlank).reverse.dropWhile isNumeralBlank).reverse

/-- The text without its underscores, each of which must stand between two digits; `afterDigit`
    tells whether a digit stands before the text. -/
def ungroup? (afterDigit : Bool) : Text → Option Text
  | [] => some []
  | c :: r =>
    if c = '_' then
      if afterDigit && (r.head?.any isDigit) then ungroup? false r else none
    else (ungroup? (isDigit c) r).map (c :: ·)

/-- The digits at the start of a text, with single underscores between them, and the rest. Nothing
    if an underscore stands elsewhere among them; after one, and at the start, a digit must come. -/
def takeGrouped? (digitNext : Bool) : Text → Option (List Nat × Text)
  | [] => if digitNext then none else some ([], [])
  | c :: r =>
    if c = '_' then if digitNext then none else takeGrouped? true r
    else
      match digit? c with
      | some d => (takeGrouped? false r).map fun (ds, rest) => (d :: ds, rest)
      | none => if digitNext then none else some ([], c :: r)

/-- The whole number a text writes. Underscores out of place are found before digits are counted,
    and what follows the digits is looked at last. -/
def integer? (t : Text) : Except NumeralRefusal Int :=
  let (negative, body) := takeSign (stripNumeral t)
  match takeGrouped? true body with
  | none => .error (.notInteger t)
  | some (ds, rest) =>
    if digitLimit < ds.length then .error (.tooManyDigits ds.length)
    else if rest.isEmpty then .ok (if negative then -(digitsValue ds : Int) else digitsValue ds)
    else .error (.notInteger t)

/-- A letter of the ASCII alphabet in lower case; any other character as it is. -/
def lower (t : Text) : Text := t.map Char.toLower

/-- The double a text writes. -/
def float? (t : Text) : Except NumeralRefusal Float :=
  let body := stripNumeral t
  let (negative, word) := takeSign body
  let word := String.ofList (lower word)
  if word = "inf" ∨ word = "infinity" then .ok (infinity negative)
  else if word = "nan" then .ok notANumber
  else
    match (ungroup? false body).bind Decimal.read? with
    | some d => .ok d.toFloat
    | none => .error (.notFloat t)

example : (integer? " -1_000 ".toList).toOption = some (-1000) := by decide +kernel
example : (integer? "1__0".toList).toOption = none := by decide +kernel

end Terrain.Number
