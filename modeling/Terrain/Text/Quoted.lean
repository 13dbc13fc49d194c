import Terrain.Text.Blank
import Terrain.Text.Half
import Terrain.Text.Hex
import Terrain.Text.Printable

/-!
# Quoted texts

Messages show a text they speak of between quotes, so that its blanks and controls can be seen.

* The quote is an apostrophe, unless the text holds an apostrophe and no double quote (`quoteOf`).
* A backslash and the quote in use are escaped by a backslash; line feed, carriage return and tab
  have letters of their own; any other character that is not printable is shown by its number, in
  two, four or eight hexadecimal digits, whichever is the fewest that hold it (`escaped`). Half of
  a pair is shown by its own number.
-/

namespace Terrain.Text

/-- The quote a text is shown in. -/
def quoteOf (t : Text) : Char :=
  if t.contains '\'' && !t.contains '"' then '"' else '\''

/-- One character of a text shown between quotes `q`. -/
def escaped (q c : Char) : Text :=
  if c = q ∨ c = '\\' then ['\\', c]
  else if c = '\n' then ['\\', 'n']
  else if c = '\r' then ['\\', 'r']
  else if c = '\t' then ['\\', 't']
  else if isPrintable c then [c]
  else
    let n := (half? c).getD c.toNat
    if n < 0x100 then '\\' :: 'x' :: hex 2 n
    else if n < 0x10000 then '\\' :: 'u' :: hex 4 n
    else '\\' :: 'U' :: hex 8 n

/-- The text between quotes, every character shown. -/
def quoted (t : Text) : Text :=
  quoteOf t :: t.flatMap (escaped (quoteOf t)) ++ [quoteOf t]

example : quoted "it's".toList = "\"it's\"".toList := by decide +kernel
example : quoted "a'b\"c\n".toList = "'a\\'b\"c\\n'".toList := by decide +kernel
example : quoted [Char.ofNat 0x2028] = "'\\u2028'".toList := by decide +kernel

end Terrain.Text
