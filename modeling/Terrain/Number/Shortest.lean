import Terrain.Number.Dyadic

/-!
# The fewest digits that read back

A double is written with the fewest decimal digits that name it and no other double, and of those
with the digits nearest to it.

* `Span` is the interval of numbers that round to a double, with its ends in units of a quarter of
  the last place; the ends belong to it when the mantissa is even.
* `shortest` tries one digit, two digits, up to seventeen: on the grid of `n` digits only the two
  neighbours of the value can lie in the interval without a nearer one doing so.
-/

namespace Terrain.Number

/-- The numbers `low … high` around `middle`, all times `2 ^ exponent`. -/
structure Span where
  low : Nat
  middle : Nat
  high : Nat
  closed : Bool
  exponent : Int

/-- The numbers that round to `mantissa · 2 ^ exponent`. Just above a power of two the doubles
    below lie twice as close. -/
def spanOf (mantissa : Nat) (exponent : Int) : Span :=
  let low := if mantissa = twoTo 52 ∧ -1074 < exponent then 4 * mantissa - 1 else 4 * mantissa - 2
  ⟨low, 4 * mantissa, 4 * mantissa + 2, mantissa % 2 = 0, exponent - 2⟩

/-- Decimal digits and the power of ten they are multiplied by. -/
structure Digits where
  digits : Nat
  power : Int
  deriving DecidableEq, Repr

/-- Both sides of `x · 10 ^ power` against `y · 2 ^ exponent` as factors of `x` and `y`. -/
def factors (power exponent : Int) : Nat × Nat :=
  (tenTo power.toNat * twoTo (-exponent).toNat, tenTo (-power).toNat * twoTo exponent.toNat)

/-- The power of ten of the leading digit of `n · 2 ^ exponent`, for `n` not zero. -/
def leadingPower (n : Nat) (exponent : Int) : Int :=
  let guess := Int.fdiv (((n.log2 : Int) + exponent) * 30103) 100000
  let (a, b) := factors (guess + 1) exponent
  if a ≤ n * b then guess + 1 else guess

/-- The grid point of `places` digits nearest to the middle of the span, if it lies in it. -/
def Span.onGrid? (s : Span) (leading : Int) (places : Nat) : Option Digits :=
  let power := leading - places + 1
  let (a, b) := factors power s.exponent
  let below := s.middle * b / a
  let inside (c : Nat) : Bool :=
    if s.closed then s.low * b ≤ c * a && c * a ≤ s.high * b
    else s.low * b < c * a && c * a < s.high * b
  let downFirst : Bool :=
    let down := s.middle * b - below * a
    let up := (below + 1) * a - s.middle * b
    down < up || (down == up && below % 2 == 0)
  let first := if downFirst then below else below + 1
  let second := if downFirst then below + 1 else below
  if inside first then some ⟨first, power⟩
  else if inside second then some ⟨second, power⟩
  else none

/-- The first grid, from `places` digits on, that has a point in the span. -/
def Span.search (s : Span) (leading : Int) : Nat → Nat → Digits
  | 0, places => ⟨s.middle, leading - places⟩
  | tries + 1, places =>
    match s.onGrid? leading places with
    | some d => d
    | none => s.search leading tries (places + 1)

/-- Digits without zeros at the end. -/
def Digits.trim (d : Digits) : Nat → Digits
  | 0 => d
  | fuel + 1 =>
    if d.digits ≠ 0 ∧ d.digits % 10 = 0 then
      Digits.trim ⟨d.digits / 10, d.power + 1⟩ fuel
    else d

/-- The fewest digits that name `mantissa · 2 ^ exponent` among the doubles. Seventeen always
    do. -/
def shortest (mantissa : Nat) (exponent : Int) : Digits :=
  if mantissa = 0 then ⟨0, 0⟩
  else
    let s := spanOf mantissa exponent
    (s.search (leadingPower s.middle s.exponent) 17 1).trim 20

example : shortest 0x10000000000000 (-52) = ⟨1, 0⟩ := by decide +kernel
example : shortest 1 (-1074) = ⟨5, -324⟩ := by decide +kernel
example : shortest 0x1999999999999A (-56) = ⟨1, -1⟩ := by decide +kernel

/-! ## 2. Layout -/

/-- How the digits of a number are laid out. A number is written positionally while the power of
    ten of its leading digit is at least `least` and below `most`, and with a power of ten
    otherwise, whose digits are at least `powerPlaces`. -/
structure Layout where
  least : Int
  most : Int
  powerPlaces : Nat
  notANumber : String
  infinite : String

/-- A numeral padded with zeros in front. -/
def padded (places n : Nat) : String :=
  let s := toString n
  String.ofList (List.replicate (places - s.length) '0') ++ s

/-- The digits, laid out; a whole number keeps one zero after its point. -/
def Layout.digits (l : Layout) (d : Digits) : String :=
  let s := (toString d.digits).toList
  let leading : Int := d.power + s.length - 1
  if l.least ≤ leading ∧ leading < l.most then
    if 0 ≤ d.power then
      String.ofList (s ++ List.replicate d.power.toNat '0') ++ ".0"
    else if 0 ≤ leading then
      let whole := leading.toNat + 1
      String.ofList (s.take whole) ++ "." ++ String.ofList (s.drop whole)
    else
      "0." ++ String.ofList (List.replicate (-leading - 1).toNat '0' ++ s)
  else
    let tail := s.drop 1
    String.ofList (s.take 1) ++
      (if tail.isEmpty then "" else "." ++ String.ofList tail) ++
      "e" ++ (if leading < 0 then "-" else "+") ++ padded l.powerPlaces leading.natAbs

/-- A double, laid out. -/
def Layout.float (l : Layout) (x : Float) : String :=
  match reading x with
  | .notANumber => l.notANumber
  | .infinite negative => (if negative then "-" else "") ++ l.infinite
  | .finite d => (if d.negative then "-" else "") ++ l.digits (shortest d.mantissa d.exponent)

end Terrain.Number
