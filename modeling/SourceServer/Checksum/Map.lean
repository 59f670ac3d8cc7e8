import Std.Data.TreeMap
import SourceServer.Text.Ascii
import SourceServer.Text.Hex
import SourceServer.Unicode.LowerCase

/-!
# Recorded checksums

A symbol file records the source files it was compiled from, most of them with a digest of their
content. The records of one symbol file are gathered in a map: paths that differ only by case are
one file, whose digests must agree.

- `Digest`, `ChecksumRecord`: what is recorded.
- `ChecksumMap.insert`: one more record; a contradiction is refused.
- `ChecksumMap.ofRecords`: the map of all records.
- `ChecksumMap.toList`: its entries by the lower case of their paths.
-/

namespace SourceServer

/-- The digest of a content. -/
structure Digest where
  bytes : List UInt8
  length_eq : bytes.length = 16
deriving DecidableEq

/-- A digest in lower-case hexadecimal (`checksum_hex`). -/
def Digest.hex (d : Digest) : String :=
  Hex.encode d.bytes

/-- One source file that a symbol file refers to. -/
structure ChecksumRecord where
  path : String
  /-- The digest that the compiler computed, if it is known. -/
  digest : Option Digest
deriving DecidableEq

/-- Two different digests of one file. -/
structure ChecksumConflict where
  path : String
  first : String
  second : String
deriving DecidableEq

/-- What is known of a file: the first spelling of its path, and its digest in hexadecimal. -/
structure ChecksumEntry where
  path : String
  checksum : Option String
deriving DecidableEq

/-- The files of a symbol file by the lower case of their paths. -/
structure ChecksumMap where
  entries : Std.TreeMap String ChecksumEntry

namespace ChecksumMap

/-- The map without files. -/
def empty : ChecksumMap := ⟨∅⟩

/-- An entry after one more record of its file. An unknown digest says nothing; a known one fills a
gap or must agree up to case. -/
def merge (entry : ChecksumEntry) (checksum : Option String) :
    Except ChecksumConflict ChecksumEntry :=
  match checksum, entry.checksum with
  | none, _ => .ok entry
  | some second, none => .ok { entry with checksum := some second }
  | some second, some first =>
    if Ascii.equalIgnoringCase first second then .ok entry
    else .error ⟨entry.path, first, second⟩

/-- One more record (`ChecksumMap::insert`). -/
def insert (m : ChecksumMap) (path : String) (checksum : Option String) :
    Except ChecksumConflict ChecksumMap :=
  let key := Unicode.lower path
  match m.entries[key]? with
  | none => .ok ⟨m.entries.insert key ⟨path, checksum⟩⟩
  | some entry =>
    match merge entry checksum with
    | .error conflict => .error conflict
    | .ok merged => .ok ⟨m.entries.insert key merged⟩

/-- What is known of a file (`get`): nothing at all, or its digest if that is known. -/
def get? (m : ChecksumMap) (path : String) : Option (Option String) :=
  (m.entries[Unicode.lower path]?).map ChecksumEntry.checksum

/-- The files and their digests in the order of their lower-case paths (`iter`). -/
def toList (m : ChecksumMap) : List (String × Option String) :=
  m.entries.toList.map fun (_, entry) => (entry.path, entry.checksum)

/-- The number of files (`len`). -/
def size (m : ChecksumMap) : Nat :=
  m.entries.size

/-- Whether there is no file (`is_empty`). -/
def isEmpty (m : ChecksumMap) : Bool :=
  m.entries.isEmpty

/-- Adds records one after the other, up to the first contradiction. -/
def addRecords (m : ChecksumMap) : List ChecksumRecord → Except ChecksumConflict ChecksumMap
  | [] => .ok m
  | record :: rest =>
    match m.insert record.path (record.digest.map Digest.hex) with
    | .error conflict => .error conflict
    | .ok m => m.addRecords rest

/-- The map of all records (`aggregate_checksums`). -/
def ofRecords (records : List ChecksumRecord) : Except ChecksumConflict ChecksumMap :=
  empty.addRecords records

end ChecksumMap

end SourceServer
