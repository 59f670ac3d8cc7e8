import SourceServer.Log
import SourceServer.Unicode.Utf8

/-!
# Checksum streams

Compilers store the digest of a source file in a stream of its own: the name of the stream holds the
path of the file behind a marker, and its content ends with the digest. Streams of another length
belong to older formats and are passed over.

- `StreamDirectory`: streams by their names.
- `ChecksumStreams.records`: the records that a stream directory holds.
- `Pdb.Container.streamDirectory`: the named streams of a symbol file.
-/

namespace SourceServer

/-- Streams by their names, in an order. Listing them and reading one may fail. -/
structure StreamDirectory (ε : Type) where
  names : Except ε (List String)
  read : String → Except ε (List UInt8)

namespace ChecksumStreams

/-- What stands in front of the path in the name of a checksum stream (`SOURCE_FILE_MARKER`). -/
def marker : String := "/src/files/"

/-- The length of a checksum stream (`CHECKSUM_STREAM_LEN`). -/
def streamLength : Nat := 88

/-- Where the digest begins (`DIGEST_OFFSET`). -/
def digestOffset : Nat := 72

/-- The path behind the first marker in a name. -/
def markedPath? (name : String) : Option String :=
  (Search.splitAtFirst? marker.toList name.toList).map fun (_, path) => String.ofList path

/-- The digest at the end of a checksum stream. -/
def digest? (bytes : List UInt8) : Option Digest :=
  if h : bytes.length = streamLength then
    some ⟨bytes.drop digestOffset, by simp [h, streamLength, digestOffset]⟩
  else none

variable {ε : Type}

/-- The record of one stream, if it is marked and has the right length. -/
def record? (streams : StreamDirectory ε) (name : String) : Task ε (Option ChecksumRecord) :=
  match markedPath? name with
  | none => pure none
  | some path => do
    let bytes ← Task.ofExcept (streams.read name)
    match digest? bytes with
    | some digest => pure (some ⟨path, some digest⟩)
    | none =>
      Task.log [.skippedStream name bytes.length streamLength]
      pure none

/-- The records of some streams. -/
def recordsOf (streams : StreamDirectory ε) : List String → Task ε (List ChecksumRecord)
  | [] => pure []
  | name :: rest => do
    let record ← record? streams name
    let records ← recordsOf streams rest
    pure (record.toList ++ records)

/-- The records of all streams in their order (`extract_checksums`). -/
def records (streams : StreamDirectory ε) : Task ε (List ChecksumRecord) := do
  recordsOf streams (← Task.ofExcept streams.names)

end ChecksumStreams

namespace Pdb

/-- A fault of the name table as a failure of a step. -/
def TableFault.failure (stage : PdbStage) : TableFault → Failure
  | .fault cause => .pdb stage cause
  | .nameOutsideBuffer => .breakdown

/-- The named streams of a container (`PdbStreamDirectory`). -/
def Container.streamDirectory (c : Container) : StreamDirectory Failure :=
  let information := c.information
  let table := information.map Information.names
  { names :=
      match table with
      | .error fault => .error (.pdb .information fault)
      | .ok (.error fault) => .error (fault.failure .names)
      | .ok (.ok entries) => .ok (entries.map fun entry => Utf8.decodeLossy entry.name)
    read := fun name =>
      match table with
      | .error fault => .error (.pdb .namedStream fault)
      | .ok (.error fault) => .error (fault.failure .namedStream)
      | .ok (.ok entries) =>
        (c.namedStream entries (Utf8.encode name)).mapError (.pdb .namedStream) }

/-- The container of a file in a file system (`PdbStreamDirectory::open`). -/
def openFile (fs : FileSystem) (path : Path) : Except Failure Container :=
  match fs.node path with
  | .error error => .error (.io path error)
  | .ok (.directory _) => .error (.pdb .opening (.io .isDirectory))
  | .ok (.file content) => (Container.ofBytes content).mapError (.pdb .opening)

end Pdb

end SourceServer
