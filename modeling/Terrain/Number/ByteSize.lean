import Terrain.Number.Fixed
import Terrain.Number.Shortest

/-!
# Amounts of memory

An amount of memory is told in the greatest of the units bytes, KiB, MiB and so on that it reaches,
each a thousand and twenty-four of the one before.

* Three digits are kept, and more only if there are more before the point. The point stays, so that
  a rounded number is not taken for a count; only bytes are counted.
* An amount that rounds up to a whole next unit is told in that unit.
-/

namespace Terrain.Number

/-- The units, the least first. -/
def byteUnits : List String := ["bytes", "KiB", "MiB", "GiB", "TiB", "PiB", "EiB"]

/-- The rank of the unit that an amount is told in, before rounding. -/
def byteRank (bytes : Nat) : Nat := bytes.log2 / 10

/-- A quotient with three digits, or with all the digits before its point. -/
def threeDigits (num den : Nat) : String :=
  let hundredths := roundDiv (num * 100) den
  let tenths := roundDiv (num * 10) den
  if hundredths < 1000 then
    toString (hundredths / 100) ++ "." ++ padded 2 (hundredths % 100)
  else if tenths < 1000 then toString (tenths / 10) ++ "." ++ toString (tenths % 10)
  else toString (roundDiv num den) ++ "."

/-- An amount of memory in words. -/
def byteSize (bytes : Nat) : String :=
  let low := byteRank bytes
  let rank := if roundDiv bytes (twoTo (10 * low)) = 1024 then low + 1 else low
  let digits := if rank = 0 then toString bytes else threeDigits bytes (twoTo (10 * rank))
  digits ++ " " ++ byteUnits.getD rank ""

end Terrain.Number
