import Terrain.Archive.Checksum
import Terrain.Bytes
import Terrain.Text.Utf8

/-!
# Archives

An archive holds files by name. Each is written with a header before it, then all headers are
written once more with the places of the files, and a record at the end tells where that list
starts.

* Files are stored as they are.
* All files carry one date, the first that an archive can tell, so equal files give equal archives.
-/

namespace Terrain.Archive

open Bytes

/-- A file of an archive. -/
structure Entry where
  name : String
  bytes : List UInt8

/-- The name of an entry as bytes. -/
def Entry.nameBytes (e : Entry) : List UInt8 := Text.Utf8.encode e.name.toList

/-- The fields that both headers of an entry share: the version needed, no marks, stored as it is,
    the time and the date, the checksum, the size twice, and the lengths of the name and of
    nothing else. -/
def Entry.fields (e : Entry) : List UInt8 :=
  little 2 20 ++ little 2 0 ++ little 2 0 ++ little 2 0 ++ little 2 0x21 ++
    little 4 (checksum e.bytes).toNat ++ little 4 e.bytes.length ++ little 4 e.bytes.length ++
    little 2 e.nameBytes.length ++ little 2 0

/-- An entry with the header before it. -/
def Entry.stored (e : Entry) : List UInt8 :=
  little 4 0x04034B50 ++ e.fields ++ e.nameBytes ++ e.bytes

/-- The header of an entry in the list at the end; `place` is where its file starts. -/
def Entry.listed (e : Entry) (place : Nat) : List UInt8 :=
  little 4 0x02014B50 ++ little 2 20 ++ e.fields ++ little 2 0 ++ little 2 0 ++ little 2 0 ++
    little 4 0 ++ little 4 place ++ e.nameBytes

/-- The list of entries, the first of which starts at a place. -/
def directory (place : Nat) : List Entry → List UInt8
  | [] => []
  | e :: es => e.listed place ++ directory (place + e.stored.length) es

/-- The archive of entries. -/
def bytes (entries : List Entry) : List UInt8 :=
  let files := entries.flatMap Entry.stored
  let list := directory 0 entries
  files ++ list ++ little 4 0x06054B50 ++ little 2 0 ++ little 2 0 ++
    little 2 entries.length ++ little 2 entries.length ++ little 4 list.length ++
    little 4 files.length ++ little 2 0

end Terrain.Archive
