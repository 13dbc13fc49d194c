/-!
# Checksums of archives

An archive keeps a checksum of 32 bits for each of its entries: the remainder of the entry, taken
as a polynomial over two elements, by a fixed one. The bits of a byte are taken from the least on,
so the remainder is shifted to the right.
-/

namespace Terrain.Archive

/-- The divisor, its highest power left out and its bits reversed. -/
def divisor : UInt32 := 0xEDB88320

/-- The remainder after one more bit. -/
def takeBit (r : UInt32) : UInt32 := if r &&& 1 = 1 then (r >>> 1) ^^^ divisor else r >>> 1

/-- The remainder after one more byte. -/
def takeByte (r : UInt32) (b : UInt8) : UInt32 :=
  (List.range 8).foldl (fun r _ => takeBit r) (r ^^^ b.toUInt32)

/-- The checksum of bytes: the remainder started and ended with all bits turned over. -/
def checksum (bytes : List UInt8) : UInt32 := bytes.foldl takeByte 0xFFFFFFFF ^^^ 0xFFFFFFFF

-- the digits from one to nine, by which implementations are compared
example : checksum [49, 50, 51, 52, 53, 54, 55, 56, 57] = 0xCBF43926 := by decide +kernel

end Terrain.Archive
