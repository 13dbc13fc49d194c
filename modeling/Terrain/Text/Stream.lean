import Terrain.Text.Lines
import Terrain.Text.Utf8

/-!
# Texts read as they are needed

A long file is not decoded as a whole. Its bytes are decoded in chunks, and its characters are
handed out in blocks, a block when its first character is asked for. So what is wrong with a later
part of a file is met only by a reader that comes that far.

* A `Stream` is what a reader can get: the characters of all blocks that can be handed out, and
  why there are no more, if that is not because the file ends.
* Bytes that cannot be decoded are placed in the chunk they stand in, with the bytes before it
  that its first character began with.
* Line ends are unified. A carriage return at the end of a chunk waits for the next one.
-/

namespace Terrain.Text

/-- The characters of a text that can be read, and what stops the reading after them. -/
structure Stream (ε : Type) where
  text : Text
  stop : Option ε

namespace Stream

/-- The number of characters in a block. -/
def blockLength : Nat := 4096

/-- The least number of bytes in a chunk. -/
def chunkLength : Nat := 8192

/-- The text without a carriage return at its end. -/
def withoutOpenEnd (t : Text) : Text := if t.getLast? = some '\r' then t.dropLast else t

/-- The number of characters that a decoded text hands out so far. -/
def available (t : Text) : Nat := (unifyLineEnds (withoutOpenEnd t)).length

/-- The blocks of a text that are complete. The first two are handed out together. -/
def wholeBlocks (t : Text) : Text :=
  let n := t.length / blockLength
  if n < 2 then [] else t.take (n * blockLength)

/-- A text of which only the complete blocks can be read. -/
def stopped {ε : Type} (t : Text) (e : ε) : Stream ε := ⟨wholeBlocks t, some e⟩

/-- The number of bytes of the next chunk: as many as the rest of the block is likely to take, the
    last chunk having had `bytes` for `chars` characters. -/
def nextChunk (handed bytes chars : Nat) : Nat :=
  let wanted := blockLength - handed % blockLength
  max chunkLength (if chars = 0 then wanted else bytes * wanted / chars)

/-- Decodes chunk after chunk. `read` is the text decoded so far, `pending` the bytes at its end
    that begin a character, `bytes` and `chars` tell of the last chunk. -/
def decodeFrom (read : Text) (pending : List UInt8) (bytes chars : Nat) :
    Nat → List UInt8 → Stream Utf8.Refusal
  | 0, _ => ⟨unifyLineEnds read, none⟩
  | fuel + 1, rest =>
    let size := nextChunk (available read) bytes chars
    let chunk := rest.take size
    let data := pending ++ chunk
    let goOn (more : Text) (pending : List UInt8) : Stream Utf8.Refusal :=
      let text := read ++ more
      decodeFrom text pending chunk.length (available text - available read) fuel (rest.drop size)
    match Utf8.decode data with
    | .ok more => if chunk.isEmpty then ⟨unifyLineEnds read, none⟩ else goOn more []
    | .error r =>
      let decoded := (Utf8.decode (data.take r.start)).toOption.getD []
      if r.reason = .endOfData ∧ ¬ chunk.isEmpty then goOn decoded (data.drop r.start)
      else stopped (unifyLineEnds (withoutOpenEnd read)) r

/-- The text of the bytes of a file. -/
def ofBytes (b : List UInt8) : Stream Utf8.Refusal := decodeFrom [] [] 0 0 (b.length + 2) b

/-- A stream stopped before the block that holds the first character that is not allowed. -/
def allowing {ε : Type} (allowed : Char → Bool) (e : ε) (s : Stream ε) : Stream ε :=
  match s.text.findIdx? fun c => !allowed c with
  | some i => stopped (s.text.take i) e
  | none => s

end Stream
end Terrain.Text
