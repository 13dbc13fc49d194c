import Terrain.Number.Decimal
import Terrain.Number.Numeral
import Terrain.Text.Hex
import Terrain.Value

/-!
# Plain scalars

A scalar without quotes stands for what it looks like: a truth value, a double, a whole number,
null, or else a text. The looks are tried in this order (`resolve`).

* A double has a point; its power of ten, if it has one, has a sign. A whole number is binary,
  octal, decimal or hexadecimal. Both may be written in base sixty, with colons between the
  places. Underscores between the digits do not count.
* `=` and `<<` have a meaning of their own where keys stand and none as values.
-/

namespace Terrain.Yaml

open Terrain.Number Terrain.Text

/-! ## 1. Looks -/

/-- The words for truth values. -/
def truthWords : List (String × Bool) :=
  [("yes", true), ("Yes", true), ("YES", true), ("no", false), ("No", false), ("NO", false),
   ("true", true), ("True", true), ("TRUE", true), ("false", false), ("False", false),
   ("FALSE", false), ("on", true), ("On", true), ("ON", true), ("off", false), ("Off", false),
   ("OFF", false)]

/-- The words for null; an empty scalar is one of them. -/
def nullWords : List String := ["", "~", "null", "Null", "NULL"]

/-- Digits, or underscores between them. -/
def isDigitOrBar (c : Char) : Bool := c.isDigit || c = '_'

/-- A text that starts with a digit and goes on with digits and underscores. -/
def isDigits (t : Text) : Bool :=
  match t with
  | c :: r => c.isDigit && r.all isDigitOrBar
  | [] => false

/-- The same, not starting with a zero. -/
def isPositive (t : Text) : Bool := isDigits t && t.head? != some '0'

/-- A place in base sixty: one digit, or two of which the first is below six. -/
def isSixtieth (t : Text) : Bool :=
  match t with
  | [c] => c.isDigit
  | [c, d] => ('0' ≤ c && c ≤ '5') && d.isDigit
  | _ => false

/-- A power of ten with a sign, or nothing. -/
def isPower (t : Text) : Bool :=
  match t with
  | [] => true
  | c :: s :: r =>
    (c = 'e' || c = 'E') && (s = '+' || s = '-') && !r.isEmpty && r.all Char.isDigit
  | _ => false

/-- The text before the first character `c`, and what follows it if it is there. -/
def splitAt (c : Char) (t : Text) : Text × Option Text :=
  (t.takeWhile (· ≠ c), match t.dropWhile (· ≠ c) with | [] => none | _ :: r => some r)

/-- The pieces between the characters `c`. -/
def pieces (c : Char) : Text → List Text
  | [] => [[]]
  | d :: r =>
    if d = c then [] :: pieces c r
    else
      match pieces c r with
      | [] => [[d]]
      | p :: ps => (d :: p) :: ps

/-- What follows a point in a double: digits and underscores, and a power of ten. -/
def isAfterPoint (t : Text) : Bool :=
  isPower (t.dropWhile isDigitOrBar)

/-- Whether a text without its sign looks like a double in base ten. A double that starts with its
    point has no sign. -/
def isDecimalDouble (signed : Bool) (t : Text) : Bool :=
  match splitAt '.' t with
  | ([], some r) => !signed && (r.head?.any Char.isDigit) && isAfterPoint r
  | (whole, some r) => isDigits whole && isAfterPoint r
  | (_, none) => false

/-- Whether a text without its sign looks like a double in base sixty. -/
def isSixtyDouble (t : Text) : Bool :=
  match splitAt '.' t with
  | (whole, some r) =>
    r.all isDigitOrBar &&
      (match pieces ':' whole with
        | p :: q :: qs => isDigits p && (q :: qs).all isSixtieth
        | _ => false)
  | (_, none) => false

/-! ## 2. Numbers -/

/-- A digit of a base up to sixteen. -/
def digitIn? (base : Nat) (c : Char) : Option Nat := (hexValue? c).filter (· < base)

/-- Digits and underscores of a base, at least one character; underscores do not count. -/
def wholeIn? (base : Nat) (t : Text) : Option (List Nat) :=
  if t.isEmpty then none else (t.filter (· ≠ '_')).mapM (digitIn? base)

/-- The number that digits of a base write. -/
def digitsIn (base : Nat) (ds : List Nat) : Nat := ds.foldl (fun n d => base * n + d) 0

/-- Why a scalar that looks like a number is none: no digits in its base, or too many, or so many
    places in base sixty that the worth of one is beyond the doubles. -/
inductive ScalarRefusal where
  | noDigits (base : Nat)
  | tooManyDigits (count : Nat)
  | tooLarge
  deriving DecidableEq, Repr

/-- The refusal in words. -/
def ScalarRefusal.message : ScalarRefusal → String
  | .noDigits base => "invalid literal for int() with base " ++ toString base ++ ": ''"
  | .tooManyDigits n => (NumeralRefusal.tooManyDigits n).message
  | .tooLarge => "int too large to convert to float"

/-- A whole number from its digits. The limit on digits is for bases that are no power of two. -/
def wholeOf (base : Nat) (ds : List Nat) : Except ScalarRefusal Nat :=
  if ds.isEmpty then .error (.noDigits base)
  else if base = 10 ∧ digitLimit < ds.length then .error (.tooManyDigits ds.length)
  else .ok (digitsIn base ds)

/-- The whole number of a text without its sign, if it looks like one. -/
def whole? (t : Text) : Option (Except ScalarRefusal Nat) :=
  match t with
  | ['0'] => some (.ok 0)
  | '0' :: 'b' :: r => (wholeIn? 2 r).map (wholeOf 2)
  | '0' :: 'x' :: r => (wholeIn? 16 r).map (wholeOf 16)
  | '0' :: r => (wholeIn? 8 r).map fun ds => wholeOf 8 (0 :: ds)
  | _ =>
    if isPositive t then (wholeIn? 10 t).map (wholeOf 10)
    else
      match pieces ':' t with
      | p :: q :: qs =>
        if isPositive p && (q :: qs).all isSixtieth then
          some do
            let first ← wholeOf 10 ((takeDigits (p.filter (· ≠ '_'))).1)
            return (q :: qs).foldl (fun n d => 60 * n + digitsValue (takeDigits d).1) first
        else none
      | _ => none

/-- The double that digits with a point write. -/
def decimalDouble (t : Text) : Float :=
  ((Decimal.read? (t.filter (· ≠ '_'))).map Decimal.toFloat).getD 0

/-- The double that places in base sixty write, the last place first; `unit` is the worth of the
    last place. -/
def sixtyDouble (unit : Nat) (sum : Float) : List Text → Except ScalarRefusal Float
  | [] => .ok sum
  | p :: ps =>
    match ofInt? unit with
    | some worth => sixtyDouble (60 * unit) (sum + decimalDouble p * worth) ps
    | none => .error .tooLarge

/-- The double of a text, if it looks like one. -/
def double? (t : Text) : Option (Except ScalarRefusal Float) :=
  let (negative, body) := takeSign t
  let signed := body.length < t.length
  if isDecimalDouble signed body then some (.ok (withSign negative (decimalDouble body)))
  else if isSixtyDouble body then
    some ((sixtyDouble 1 0 (pieces ':' body).reverse).map (withSign negative))
  else if [".inf", ".Inf", ".INF"].any (·.toList == body) then some (.ok (infinity negative))
  else if !signed && [".nan", ".NaN", ".NAN"].any (·.toList == body) then some (.ok notANumber)
  else none

/-! ## 3. Scalars -/

/-- What a plain scalar stands for. -/
inductive Scalar where
  | value (v : Value)
  | refused (r : ScalarRefusal)
  | merge
  | equals

/-- What a plain scalar stands for, by its looks. -/
def resolve (t : Text) : Scalar :=
  let s := String.ofList t
  match truthWords.find? (·.1 == s) with
  | some w => .value (.bool w.2)
  | none =>
    match double? t with
    | some (.ok x) => .value (.float x)
    | some (.error r) => .refused r
    | none =>
      let (negative, body) := takeSign t
      match whole? body with
      | some (.ok n) => .value (.int (if negative then -(n : Int) else n))
      | some (.error r) => .refused r
      | none =>
        if s = "<<" then .merge
        else if nullWords.contains s then .value .null
        else if s = "=" then .equals
        else .value (.text s)

end Terrain.Yaml
