import Terrain.Bytes

/-!
# The MD5 digest

A message of bytes is padded to blocks of sixteen words, and every block stirs four words of state
in sixty-four rounds. The digest is the state, its words written with the least byte first.
-/

namespace Terrain.Digest.Md5

/-- By how much a round turns its word: four amounts for each quarter of the rounds, in turn. -/
def turns : Array UInt32 := #[7, 12, 17, 22, 5, 9, 14, 20, 4, 11, 16, 23, 6, 10, 15, 21]

/-- What a round adds: the whole part of `2 ^ 32 · |sin (round + 1)|`. -/
def addends : Array UInt32 :=
  #[0xd76aa478, 0xe8c7b756, 0x242070db, 0xc1bdceee, 0xf57c0faf, 0x4787c62a, 0xa8304613, 0xfd469501,
    0x698098d8, 0x8b44f7af, 0xffff5bb1, 0x895cd7be, 0x6b901122, 0xfd987193, 0xa679438e, 0x49b40821,
    0xf61e2562, 0xc040b340, 0x265e5a51, 0xe9b6c7aa, 0xd62f105d, 0x02441453, 0xd8a1e681, 0xe7d3fbc8,
    0x21e1cde6, 0xc33707d6, 0xf4d50d87, 0x455a14ed, 0xa9e3e905, 0xfcefa3f8, 0x676f02d9, 0x8d2a4c8a,
    0xfffa3942, 0x8771f681, 0x6d9d6122, 0xfde5380c, 0xa4beea44, 0x4bdecfa9, 0xf6bb4b60, 0xbebfbc70,
    0x289b7ec6, 0xeaa127fa, 0xd4ef3085, 0x04881d05, 0xd9d4d039, 0xe6db99e5, 0x1fa27cf8, 0xc4ac5665,
    0xf4292244, 0x432aff97, 0xab9423a7, 0xfc93a039, 0x655b59c3, 0x8f0ccc92, 0xffeff47d, 0x85845dd1,
    0x6fa87e4f, 0xfe2ce6e0, 0xa3014314, 0x4e0811a1, 0xf7537e82, 0xbd3af235, 0x2ad7d2bb, 0xeb86d391]

/-- The state. -/
structure State where
  a : UInt32
  b : UInt32
  c : UInt32
  d : UInt32

/-- The state before the first block. -/
def State.start : State := ⟨0x67452301, 0xefcdab89, 0x98badcfe, 0x10325476⟩

/-- A word turned to the left. -/
def turn (w n : UInt32) : UInt32 := (w <<< n) ||| (w >>> (32 - n))

/-- How a round mixes three words, and which word of the block it takes. -/
def mixing (s : State) (round : Nat) : UInt32 × Nat :=
  if round < 16 then ((s.b &&& s.c) ||| (~~~s.b &&& s.d), round)
  else if round < 32 then ((s.d &&& s.b) ||| (~~~s.d &&& s.c), (5 * round + 1) % 16)
  else if round < 48 then (s.b ^^^ s.c ^^^ s.d, (3 * round + 5) % 16)
  else (s.c ^^^ (s.b ||| ~~~s.d), 7 * round % 16)

/-- One round. -/
def State.round (block : Array UInt32) (s : State) (round : Nat) : State :=
  let (f, word) := mixing s round
  let sum := s.a + f + addends.getD round 0 + block.getD word 0
  ⟨s.d, s.b + turn sum (turns.getD (round / 16 * 4 + round % 4) 0), s.b, s.c⟩

/-- One block. -/
def State.block (s : State) (block : Array UInt32) : State :=
  let t := (List.range 64).foldl (State.round block) s
  ⟨s.a + t.a, s.b + t.b, s.c + t.c, s.d + t.d⟩

/-- The message with a single bit, zeros and its length in bits, to a multiple of 64 bytes. -/
def padded (message : List UInt8) : List UInt8 :=
  message ++ 0x80 :: List.replicate ((119 - message.length % 64) % 64) 0 ++
    Bytes.little 8 (8 * message.length)

/-- The list in pieces of `n`, at most `fuel` of them. -/
def chunks {α : Type} (n : Nat) : Nat → List α → List (List α)
  | 0, _ => []
  | fuel + 1, l => if l.isEmpty then [] else l.take n :: chunks n fuel (l.drop n)

/-- The blocks of a padded message. -/
def blocks (bytes : List UInt8) : List (Array UInt32) :=
  (chunks 64 bytes.length bytes).map fun b =>
    ((chunks 4 16 b).map fun w => (Bytes.ofLittle w).toUInt32).toArray

/-- The digest of a message. -/
def digest (message : List UInt8) : List UInt8 :=
  let s := (blocks (padded message)).foldl State.block .start
  [s.a, s.b, s.c, s.d].flatMap fun w => Bytes.little 4 w.toNat

end Terrain.Digest.Md5
