import Terrain.Bytes
import Terrain.Text.Utf8

/-!
# Arrays as files

An array of numbers or texts is a file that says in a line of text what its elements are and how
many there are along each axis, and then lists them, the last axis running fastest.

* The line is filled up with blanks, so that the elements start at a multiple of 64 bytes.
-/

namespace Terrain.Archive

open Bytes

/-- What the elements of an array are: their kind in the file, and their bytes. -/
structure Elements where
  kind : String
  bytes : List UInt8

/-- Singles. -/
def Elements.singles (l : List Float32) : Elements :=
  ⟨"<f4", l.flatMap fun x => little 4 x.toBits.toNat⟩

/-- Words of sixteen bits. -/
def Elements.words (l : List UInt16) : Elements := ⟨"<u2", l.flatMap fun n => little 2 n.toNat⟩

/-- Bytes. -/
def Elements.octets (l : List UInt8) : Elements := ⟨"|u1", l⟩

/-- Signed whole numbers of 64 bits. -/
def Elements.integers (l : List Int) : Elements :=
  ⟨"<i8", l.flatMap fun n => little 8 (n % 0x10000000000000000).toNat⟩

/-- One text, in characters of four bytes. -/
def Elements.text (s : String) : Elements :=
  ⟨"<U" ++ toString s.length, s.toList.flatMap fun c => little 4 c.toNat⟩

/-- The lengths along the axes in words. -/
def shapeText : List Nat → String
  | [] => "()"
  | [n] => "(" ++ toString n ++ ",)"
  | ns => "(" ++ String.intercalate ", " (ns.map toString) ++ ")"

/-- What the line before the elements says. -/
def description (kind : String) (shape : List Nat) : String :=
  "\x7b'descr': '" ++ kind ++ "', 'fortran_order': False, 'shape': " ++ shapeText shape ++ ", \x7d"

/-- The line before the elements: blanks fill it up, and it ends as lines do. Ten bytes stand
    before it. -/
def headLine (kind : String) (shape : List Nat) : List UInt8 :=
  let said := Text.Utf8.encode (description kind shape).toList
  said ++ List.replicate ((128 - (said.length + 11) % 64) % 64) 0x20 ++ [0x0A]

/-- The file of an array. -/
def arrayFile (e : Elements) (shape : List Nat) : List UInt8 :=
  let line := headLine e.kind shape
  [0x93, 0x4E, 0x55, 0x4D, 0x50, 0x59, 1, 0] ++ little 2 line.length ++ line ++ e.bytes

end Terrain.Archive
