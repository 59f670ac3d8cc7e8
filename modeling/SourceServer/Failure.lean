import SourceServer.Checksum.Map
import SourceServer.Pdb.NameTable
import SourceServer.Remote

/-!
# Failures

What can keep a symbol file from being indexed, by cause (`SrcLinkError`). Every cause has one
wording; only what is said about a breakdown is left to whoever catches it.

- `Failure`: the causes.
- `Failure.message`: their wording.
- `Failure.sources`: the wordings of the causes behind a cause, the nearest first.
-/

namespace SourceServer

/-- The step of reading a container that failed. -/
inductive PdbStage where
  | opening
  | information
  | names
  | namedStream
deriving DecidableEq

/-- What a step is called in messages. -/
def PdbStage.label : PdbStage → String
  | .opening => "PDB::open"
  | .information => "pdb_information"
  | .names => "stream_names"
  | .namedStream => "named_stream"

/-- What keeps a symbol file from being indexed. -/
inductive Failure where
  /-- The remote or the revision is not usable. -/
  | configuration (fault : Remote.Fault)
  /-- The symbol file contradicts itself. -/
  | conflict (digests : ChecksumConflict)
  /-- The index cannot be written down. -/
  | index (fault : Index.Fault)
  /-- The container of the symbol file cannot be read. -/
  | pdb (stage : PdbStage) (fault : Pdb.Fault)
  | io (path : Path) (error : IoError)
  /-- The reader of the symbol file broke down. -/
  | breakdown
deriving DecidableEq

/-- The wording of a failure. A breakdown has none of its own. -/
def Failure.message : Failure → String
  | .configuration fault => "configuration error: " ++ fault.message
  | .conflict digests =>
    "conflicting checksums for '" ++ digests.path ++ "' in symbol file: " ++ digests.first
      ++ " vs " ++ digests.second
  | .index fault => "cannot generate source index: " ++ fault.message
  | .pdb stage fault => "PDB error: " ++ fault.message ++ " (" ++ stage.label ++ ")"
  | .io path error => "I/O error on " ++ path.text ++ ": " ++ error.message
  | .breakdown => ""

/-- The wordings of the causes behind a failure. -/
def Failure.sources : Failure → List String
  | .pdb _ (.io error) => [(Pdb.Fault.io error).message, error.message]
  | .pdb _ fault => [fault.message]
  | .io _ error => [error.message]
  | _ => []

end SourceServer
