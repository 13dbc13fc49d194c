import Terrain.Number.Decimal
import Terrain.Text.Half
import Terrain.Text.Hex
import Terrain.Value

/-!
# Tokens of JSON texts

A JSON text is cut into marks, texts and scalars. Every token remembers the text from its own
start on (`rest`), so a place can be told when it is needed and none is counted before.

* A token may be broken (a text that does not end, an escape that does not exist). It is broken
  in its place only: whether that is what the reader complains of depends on what it waits for.
* Besides the numbers of the standard, `NaN`, `Infinity` and `-Infinity` are scalars.
* `tokens` reads at least one character per token, so the length of the text bounds their number.
-/

namespace Terrain.Json

open Terrain.Text Terrain.Number

/-! ## 1. Complaints and tokens -/

/-- What can be wrong at a place of a JSON text. -/
inductive Complaint where
  | expectingValue
  | expectingName
  | expectingColon
  | expectingComma
  | extraData
  | unterminatedText
  | controlCharacter
  | badEscape
  | badUnicodeEscape
  | byteOrderMark
  deriving DecidableEq, Repr

/-- A complaint, and the text from its place on. -/
structure Fault where
  what : Complaint
  rest : Text
  deriving DecidableEq, Repr

/-- What a token is. A number of too many digits is a token with their count. -/
inductive Content where
  | openList
  | closeList
  | openMap
  | closeMap
  | colon
  | comma
  | scalar (v : Value)
  | text (s : Except Fault String)
  | longNumber (digits : Nat)
  | unreadable
  | finish

/-- A token, and the text from its start on. -/
structure Token where
  content : Content
  rest : Text

/-! ## 2. Texts -/

/-- The unit that four hexadecimal digits write. -/
def unit? (a b c d : Char) : Option Nat := do
  let a ← hexValue? a
  let b ← hexValue? b
  let c ← hexValue? c
  let d ← hexValue? d
  return ((a * 16 + b) * 16 + c) * 16 + d

/-- The first unit of a pair. -/
def isHighUnit (n : Nat) : Bool := 0xD800 ≤ n && n ≤ 0xDBFF

/-- The second unit of a pair. -/
def isLowUnit (n : Nat) : Bool := 0xDC00 ≤ n && n ≤ 0xDFFF

/-- The character of a pair of units. -/
def pairChar (high low : Nat) : Char :=
  Char.ofNat (0x10000 + (high - 0xD800) * 0x400 + (low - 0xDC00))

/-- What a backslash and a letter stand for. -/
def simpleEscape? (c : Char) : Option Char :=
  match c with
  | '"' => some '"'
  | '\\' => some '\\'
  | '/' => some '/'
  | 'b' => some (Char.ofNat 8)
  | 'f' => some (Char.ofNat 12)
  | 'n' => some '\n'
  | 'r' => some '\r'
  | 't' => some '\t'
  | _ => none

/-- The characters of a text whose opening quote stands at the start of `opening`, read so far in
    reverse, and what follows the closing quote. Four digits of a unit must be followed by one
    more character, for the text is still open there. -/
def textFrom (opening : Text) (read : List Char) : Text → Except Fault (String × Text)
  | [] => .error ⟨.unterminatedText, opening⟩
  | '"' :: r => .ok (String.ofList read.reverse, r)
  | ['\\'] => .error ⟨.unterminatedText, opening⟩
  | '\\' :: 'u' :: a :: b :: c :: d :: x :: r =>
    match unit? a b c d with
    | none => .error ⟨.badUnicodeEscape, 'u' :: a :: b :: c :: d :: x :: r⟩
    | some n =>
      if isHighUnit n then
        match _h : x :: r with
        | '\\' :: 'u' :: a' :: b' :: c' :: d' :: y :: s =>
          match unit? a' b' c' d' with
          | none => .error ⟨.badUnicodeEscape, 'u' :: a' :: b' :: c' :: d' :: y :: s⟩
          | some m =>
            if isLowUnit m then textFrom opening (pairChar n m :: read) (y :: s)
            else textFrom opening (unitChar n :: read) (x :: r)
        | _ => textFrom opening (unitChar n :: read) (x :: r)
      else textFrom opening (unitChar n :: read) (x :: r)
  | '\\' :: 'u' :: r => .error ⟨.badUnicodeEscape, 'u' :: r⟩
  | '\\' :: e :: r =>
    match simpleEscape? e with
    | some c => textFrom opening (c :: read) r
    | none => .error ⟨.badEscape, '\\' :: e :: r⟩
  | c :: r =>
    if c.toNat < 0x20 then .error ⟨.controlCharacter, c :: r⟩
    else textFrom opening (c :: read) r
termination_by t => t.length
decreasing_by
  all_goals simp only [List.length_cons]
  case _ => have := congrArg List.length _h; simp only [List.length_cons] at this; omega
  all_goals omega

/-! ## 3. Numbers -/

/-- The ASCII digits at the start of a text, and the rest. -/
def spanDigits (t : Text) : Text × Text := (t.takeWhile Char.isDigit, t.dropWhile Char.isDigit)

/-- The whole part of a number: a zero alone, or digits that do not start with one. -/
def wholePart? : Text → Option (Text × Text)
  | '0' :: r => some (['0'], r)
  | c :: r => if c.isDigit then some (spanDigits (c :: r)) else none
  | [] => none

/-- A point and at least one digit, or nothing. -/
def fractionPart (t : Text) : Text × Text :=
  match t with
  | '.' :: r =>
    let (ds, r) := spanDigits r
    if ds.isEmpty then ([], t) else ('.' :: ds, r)
  | _ => ([], t)

/-- The sign of a power of ten, if it has one. -/
def powerSign : Text → Text × Text
  | '-' :: r => (['-'], r)
  | '+' :: r => (['+'], r)
  | r => ([], r)

/-- A power of ten with at least one digit, or nothing. -/
def powerPart (t : Text) : Text × Text :=
  match t with
  | c :: r =>
    if c = 'e' ∨ c = 'E' then
      let (sign, r) := powerSign r
      let (ds, r) := spanDigits r
      if ds.isEmpty then ([], t) else (c :: sign ++ ds, r)
    else ([], t)
  | [] => ([], t)

/-- A number of the JSON grammar: a whole number unless it has a fraction or a power of ten. It
    ends where the grammar does. -/
def number? (digitLimit : Nat) (t : Text) : Option (Content × Text) := do
  let (minus, r) := match t with
    | '-' :: r => (['-'], r)
    | r => ([], r)
  let (whole, r) ← wholePart? r
  let (fraction, r) := fractionPart r
  let (power, r) := powerPart r
  if fraction.isEmpty && power.isEmpty then
    if digitLimit < whole.length then return (.longNumber whole.length, r)
    let n : Int := digitsValue (takeDigits whole).1
    return (.scalar (.int (if minus.isEmpty then n else -n)), r)
  let d ← Decimal.read? (minus ++ whole ++ fraction ++ power)
  return (.scalar (.float d.toFloat), r)

/-! ## 4. Tokens -/

/-- The blanks of JSON. -/
def isJsonBlank (c : Char) : Bool := c = ' ' || c = '\t' || c = '\n' || c = '\r'

/-- The scalars written as words. -/
def words : List (Text × Value) :=
  [("null".toList, .null), ("true".toList, .bool true), ("false".toList, .bool false),
   ("NaN".toList, .float notANumber), ("Infinity".toList, .float (infinity false)),
   ("-Infinity".toList, .float (infinity true))]

/-- The word a text starts with, as a scalar, and the rest. -/
def word? (t : Text) : Option (Content × Text) :=
  (words.find? fun w => w.1.isPrefixOf t).map fun w => (.scalar w.2, t.drop w.1.length)

/-- The token at the start of a text that is not empty and starts with no blank, and the rest. -/
def tokenAt (digitLimit : Nat) (c : Char) (r : Text) : Content × Text :=
  match c with
  | '[' => (.openList, r)
  | ']' => (.closeList, r)
  | '\x7b' => (.openMap, r)
  | '\x7d' => (.closeMap, r)
  | ':' => (.colon, r)
  | ',' => (.comma, r)
  | '"' =>
    match textFrom (c :: r) [] r with
    | .ok (s, r) => (.text (.ok s), r)
    | .error e => (.text (.error e), [])
  | _ =>
    match word? (c :: r) with
    | some w => w
    | none => (number? digitLimit (c :: r)).getD (.unreadable, [])

/-- The tokens of a text, at most `fuel` of them before the last. What follows a token that cannot
    be read is not looked at. -/
def tokensFrom (digitLimit : Nat) : Nat → Text → List Token
  | 0, t => [⟨.finish, t⟩]
  | fuel + 1, t =>
    match t.dropWhile isJsonBlank with
    | [] => [⟨.finish, []⟩]
    | c :: r =>
      let (content, rest) := tokenAt digitLimit c r
      ⟨content, c :: r⟩ :: tokensFrom digitLimit fuel rest

/-- The tokens of a text. -/
def tokens (digitLimit : Nat) (t : Text) : List Token := tokensFrom digitLimit t.length t

end Terrain.Json
