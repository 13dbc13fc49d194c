import Terrain.Text.Blank
import Terrain.Text.Half
import Terrain.Text.Hex

/-!
# Strict UTF-8

A file holds bytes, a document characters. Decoding takes the shortest encodings of scalar values
and nothing else: no surrogates, no code point above `10FFFF`, no longer encoding than needed.

* A refusal says where the bad bytes stand and why: a byte that starts nothing, a sequence broken
  by a byte that does not continue it, or a sequence that the data ends in.
* The bytes blamed are the lead byte and those that could still have followed it, not the byte
  that broke the sequence.
* `decode` is `List`-structural, so it ends on every input.
-/

namespace Terrain.Text.Utf8

/-! ## 1. Refusals -/

/-- Why a byte sequence is no text. -/
inductive Reason where
  | startByte
  | continuationByte
  | endOfData
  deriving DecidableEq, Repr

/-- Bytes that cannot be decoded: their place, their number, the first of them, and the reason. -/
structure Refusal where
  start : Nat
  count : Nat
  byte : UInt8
  reason : Reason
  deriving DecidableEq, Repr

/-- The reason in words. -/
def Reason.message : Reason → String
  | .startByte => "invalid start byte"
  | .continuationByte => "invalid continuation byte"
  | .endOfData => "unexpected end of data"

/-- The refusal in words. A single byte is shown, a longer sequence only placed. -/
def Refusal.message (e : Refusal) : String :=
  "'utf-8' codec can't decode " ++
    (if e.count = 1 then
      "byte 0x" ++ String.ofList (hex 2 e.byte.toNat) ++ " in position " ++ toString e.start
    else
      "bytes in position " ++ toString e.start ++ "-" ++ toString (e.start + e.count - 1)) ++
    ": " ++ e.reason.message

/-! ## 2. Sequences -/

/-- What a lead byte announces: how many bytes follow it, its own bits, and the range in which
    the byte after it must lie so that the encoding is the shortest one of a scalar value. -/
structure Lead where
  following : Nat
  bits : Nat
  low : Nat
  high : Nat
  deriving DecidableEq, Repr

/-- The meaning of a byte that starts a sequence of several bytes. -/
def lead? (b : Nat) : Option Lead :=
  if 0xC2 ≤ b ∧ b ≤ 0xDF then some ⟨1, b - 0xC0, 0x80, 0xBF⟩
  else if b = 0xE0 then some ⟨2, 0, 0xA0, 0xBF⟩
  else if b = 0xED then some ⟨2, 0xD, 0x80, 0x9F⟩
  else if 0xE1 ≤ b ∧ b ≤ 0xEF then some ⟨2, b - 0xE0, 0x80, 0xBF⟩
  else if b = 0xF0 then some ⟨3, 0, 0x90, 0xBF⟩
  else if b = 0xF4 then some ⟨3, 4, 0x80, 0x8F⟩
  else if 0xF1 ≤ b ∧ b ≤ 0xF3 then some ⟨3, b - 0xF0, 0x80, 0xBF⟩
  else none

/-- A sequence in progress: the place and value of its lead byte, the bytes read so far, the bits
    gathered, the bytes still missing and the range of the next one. -/
structure Pending where
  start : Nat
  byte : UInt8
  seen : Nat
  bits : Nat
  missing : Nat
  low : Nat
  high : Nat

/-- Decodes the bytes from place `pos` on, with `pending` the sequence that is open there. The
    characters read so far are kept in reverse. -/
def decodeFrom (pos : Nat) (pending : Option Pending) (read : List Char) :
    List UInt8 → Except Refusal Text
  | [] =>
    match pending with
    | none => .ok read.reverse
    | some p => .error ⟨p.start, p.seen, p.byte, .endOfData⟩
  | b :: rest =>
    match pending with
    | none =>
      if b.toNat < 0x80 then decodeFrom (pos + 1) none (Char.ofNat b.toNat :: read) rest
      else
        match lead? b.toNat with
        | none => .error ⟨pos, 1, b, .startByte⟩
        | some l =>
          decodeFrom (pos + 1) (some ⟨pos, b, 1, l.bits, l.following, l.low, l.high⟩) read rest
    | some p =>
      if p.low ≤ b.toNat ∧ b.toNat ≤ p.high then
        let bits := p.bits * 0x40 + (b.toNat - 0x80)
        if p.missing ≤ 1 then decodeFrom (pos + 1) none (Char.ofNat bits :: read) rest
        else
          decodeFrom (pos + 1)
            (some ⟨p.start, p.byte, p.seen + 1, bits, p.missing - 1, 0x80, 0xBF⟩) read rest
      else .error ⟨p.start, p.seen, p.byte, .continuationByte⟩

/-- The text that a sequence of bytes encodes. -/
def decode (bytes : List UInt8) : Except Refusal Text := decodeFrom 0 none [] bytes

/-! ## 3. Encoding -/

/-- The bytes of one character. -/
def encodeChar (c : Char) : List UInt8 :=
  let n := c.toNat
  if n < 0x80 then [n.toUInt8]
  else if n < 0x800 then [(0xC0 + n / 0x40).toUInt8, (0x80 + n % 0x40).toUInt8]
  else if n < 0x10000 then
    [(0xE0 + n / 0x1000).toUInt8, (0x80 + n / 0x40 % 0x40).toUInt8, (0x80 + n % 0x40).toUInt8]
  else
    [(0xF0 + n / 0x40000).toUInt8, (0x80 + n / 0x1000 % 0x40).toUInt8,
     (0x80 + n / 0x40 % 0x40).toUInt8, (0x80 + n % 0x40).toUInt8]

/-- The bytes of a text. -/
def encode (t : Text) : List UInt8 := t.flatMap encodeChar

/-- Halves of pairs that stand side by side in a text: the characters before them, their number,
    and the first of them. They have no bytes. -/
structure Unpaired where
  start : Nat
  count : Nat
  first : Nat
  deriving DecidableEq, Repr

/-- The refusal of unpaired halves in words. A single half is shown, more are only placed. -/
def Unpaired.message (u : Unpaired) : String :=
  "'utf-8' codec can't encode " ++
    (if u.count = 1 then
      "character '\\u" ++ String.ofList (hex 4 u.first) ++ "' in position " ++ toString u.start
    else
      "characters in position " ++ toString u.start ++ "-" ++ toString (u.start + u.count - 1)) ++
    ": surrogates not allowed"

/-- The first unpaired halves of a text. -/
def unpaired? (t : Text) : Option Unpaired :=
  let before := t.takeWhile fun c => (half? c).isNone
  let run := (t.drop before.length).takeWhile fun c => (half? c).isSome
  run.head?.map fun c => ⟨before.length, run.length, (half? c).getD 0⟩

/-- The bytes of a text that holds no unpaired half. -/
def encode? (t : Text) : Except Unpaired (List UInt8) :=
  match unpaired? t with
  | some u => .error u
  | none => .ok (encode t)

example : decode [0x61, 0xE2, 0x82, 0xAC] = .ok ['a', '€'] := by rfl
example : decode [0x61, 0xE2, 0x82] = .error ⟨1, 2, 0xE2, .endOfData⟩ := by rfl
example : decode [0xED, 0xA0, 0x80] = .error ⟨0, 1, 0xED, .continuationByte⟩ := by rfl

end Terrain.Text.Utf8
