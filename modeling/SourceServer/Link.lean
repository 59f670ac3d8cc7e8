import Std.Data.TreeSet
import SourceServer.Checksum.Streams
import SourceServer.Text.Cut
import SourceServer.Text.Lines
import SourceServer.Verification

/-!
# Linking a symbol file to its sources

For one symbol file the recorded digests are read and verified, the files to index are chosen, and
the index is written beside the symbol file. Mismatches are reported and do not stop anything; the
index is written last, so a failure leaves the file system as it was.

- `Job`, `LinkOptions`: what is asked for.
- `fileChecksums`: the digests that a symbol file records.
- `indexableFiles`: the recorded files that exist.
- `cutRoot?`, `relativeToRoot`: a path without the root in front.
- `rawIndexContext`, `indexContext`: the entries of an index.
- `link`: the whole task.
-/

namespace SourceServer

/-- One symbol file to index (`SymbolFileJob`). -/
structure Job where
  pdb : Path
  /-- The files that the build compiled; without them every recorded file is indexed. -/
  compilables : Option (List Path)
  /-- What a source listing tool printed; it replaces reading the symbol file. -/
  listing : Option String

/-- The job for a symbol file alone. -/
def Job.ofPdb (pdb : Path) : Job := ⟨pdb, none, none⟩

/-- What all symbol files of a run have in common. -/
structure LinkOptions where
  /-- The directory that entries are relative to. -/
  root : Path
  powershell : Bool
  skipVerify : Bool
  lineEnding : Index.LineEnding

/-- What linking has done. -/
structure LinkOutcome where
  index : Path
  indexedFiles : Nat
  mismatches : Mismatches

/-- The index of a symbol file stands beside it (`srcsrv_path_for`). -/
def indexPath (pdb : Path) : Path :=
  ⟨pdb.text ++ ".srcsrv"⟩

/-! ## Recorded files -/

/-- The files that a listing tool names, one on a line (`parse_srctool_listing`); lines that name no
file are dropped. -/
def listingRecords (fs : FileSystem) (listing : String) : Logged (List ChecksumRecord) :=
  let lines := ((Lines.lines listing).map Unicode.trim).filter (· ≠ "")
  let resolved := lines.map (Capitalization.file fs)
  { value :=
      resolved.filterMap fun
        | .ok path => some ⟨path.text, none⟩
        | .error _ => none
    events :=
      resolved.flatMap fun
        | .ok _ => []
        | .error cause => Event.ofUnresolved cause }

/-- The records of a symbol file, from the listing if there is one. -/
def fileRecords (fs : FileSystem) (job : Job) : Task Failure (List ChecksumRecord) :=
  match job.listing with
  | some listing => ExceptT.lift (listingRecords fs listing)
  | none => do
    let container ← Task.ofExcept (Pdb.openFile fs job.pdb)
    ChecksumStreams.records container.streamDirectory

/-- The digests that a symbol file records (`extract_file_checksums`). -/
def fileChecksums (fs : FileSystem) (job : Job) : Task Failure ChecksumMap := do
  let records ← fileRecords fs job
  Task.ofExcept ((ChecksumMap.ofRecords records).mapError .conflict)

/-- The recorded files that exist, as the disk spells them and in the order of paths, without
generated markup (`indexable_files`). -/
def indexableFiles (fs : FileSystem) (recorded : ChecksumMap) : Logged (List Path) :=
  let files := (recorded.toList.map Prod.fst).filter fun file => !Verification.isIgnored file
  let resolved := files.map (Capitalization.file fs)
  { value :=
      (resolved.foldl
        (fun (found : Std.TreeSet Path) outcome =>
          match outcome with
          | .ok path => found.insert path
          | .error _ => found)
        ∅).toList
    events :=
      resolved.flatMap fun
        | .ok _ => []
        | .error cause => Event.ofUnresolved cause }

/-- The recorded digests verified against the recorded files themselves
(`verify_recorded_files`). -/
def verifyRecorded (fs : FileSystem) (recorded : ChecksumMap) : Logged Mismatches := do
  let files ← indexableFiles fs recorded
  Verification.report fs recorded (some files)

/-! ## Entries -/

/-- A root without the separators at its end. -/
def trimmedRoot (root : Path) : List Char :=
  (root.text.toList.reverse.dropWhile Remote.isSeparator).reverse

/-- A text that goes on where a name has ended: with a separator, or not at all. -/
def isBordered : List Char → Bool
  | [] => true
  | c :: _ => Remote.isSeparator c

/-- A path without the root in front, whose letters may differ in ASCII case. The root has to end
where a name ends; a path outside the root is kept. The path is cut behind as many bytes as the root
has; `none` stands for a cut inside a character. -/
def cutRoot? (path : String) (root : Path) : Option String :=
  if root.text = "" then some path
  else
    let root := String.ofList (trimmedRoot root)
    match Cut.before? path.toList root.utf8ByteSize with
    | none => some path
    | some front =>
      if Ascii.equalIgnoringCase (String.ofList front) root then
        match Cut.behind? path.toList root.utf8ByteSize with
        | none => none
        | some rest => some (if isBordered rest then String.ofList rest else path)
      else some path

/-- No cut falls inside a character: there is a front to compare only where the path can be cut. -/
theorem isSome_cutRoot? (path : String) (root : Path) : (cutRoot? path root).isSome = true := by
  rw [cutRoot?]
  split
  · rfl
  · dsimp only [Cut.before?, Cut.behind?]
    cases Cut.split? path.toList (String.ofList (trimmedRoot root)).utf8ByteSize with
    | none => rfl
    | some sides =>
      dsimp only [Option.map_some]
      split <;> rfl

/-- A path without the root in front, or the whole path outside the root (`relative_to_root`). -/
def relativeToRoot (path : String) (root : Path) : String :=
  (cutRoot? path root).get (isSome_cutRoot? path root)

/-- The local and the relative path of an entry. Both are texts: what is not UTF-8 in a path is
replaced before the root is taken off. -/
def rawEntryPaths (remote : Remote) (root : Path) (file : RawText) : String × String :=
  (file.lossy, remote.relativePath (relativeToRoot file.lossy root))

/-- Everything that the index of some files says (`index_context`). -/
def rawIndexContext (remote : Remote) (revision : String) (files : List RawText)
    (options : LinkOptions) (now : Timestamp) : Index.Context :=
  { revision
    template := remote.template
    paths := files.map (rawEntryPaths remote options.root)
    retrieval := .ofTemplate remote.template options.powershell
    dialect := remote.dialect
    metadata := remote.metadata
    timestamp := now
    lineEnding := options.lineEnding }

/-- The local and the relative path of an entry, for a path that is a text. -/
def entryPaths (remote : Remote) (root file : Path) : String × String :=
  rawEntryPaths remote root file.raw

/-- Everything that the index of some files says, for paths that are texts. -/
def indexContext (remote : Remote) (revision : String) (files : List Path) (options : LinkOptions)
    (now : Timestamp) : Index.Context :=
  rawIndexContext remote revision (files.map Path.raw) options now

theorem indexContext_eq (remote : Remote) (revision : String) (files : List Path)
    (options : LinkOptions) (now : Timestamp) :
    indexContext remote revision files options now
      = { revision
          template := remote.template
          paths := files.map (entryPaths remote options.root)
          retrieval := .ofTemplate remote.template options.powershell
          dialect := remote.dialect
          metadata := remote.metadata
          timestamp := now
          lineEnding := options.lineEnding } := by
  rw [indexContext, rawIndexContext, List.map_map]
  rfl

@[simp] theorem paths_indexContext (remote : Remote) (revision : String) (files : List Path)
    (options : LinkOptions) (now : Timestamp) :
    (indexContext remote revision files options now).paths
      = files.map (entryPaths remote options.root) := by
  rw [indexContext_eq]

/-! ## The task -/

/-- The files to index: those that the build compiled, otherwise the recorded files that exist. -/
def filesToIndex (fs : FileSystem) (job : Job) (recorded : ChecksumMap) : Logged (List Path) :=
  match job.compilables with
  | some files => pure files
  | none => indexableFiles fs recorded

/-- The mismatches among the recorded digests, unless nothing is to be verified. -/
def verifiedAgainst (fs : FileSystem) (options : LinkOptions) (recorded : ChecksumMap)
    (files : List Path) : Logged Mismatches :=
  if options.skipVerify then pure ∅
  else do
    Logged.log [.verifying]
    Verification.report fs recorded (some files)

/-- The files to index and the mismatches, from the recorded digests (`checked_local_paths`). -/
def checkedFiles (fs : FileSystem) (job : Job) (options : LinkOptions) :
    Task Failure (List Path × Mismatches) := do
  let recorded ← fileChecksums fs job
  Task.log [.references job.pdb recorded.size]
  let files ← ExceptT.lift (filesToIndex fs job recorded)
  let mismatches ← ExceptT.lift (verifiedAgainst fs options recorded files)
  pure (files, mismatches)

/-- The files to index and the mismatches. With given files and nothing to verify the symbol file
is not read. -/
def chosenFiles (fs : FileSystem) (job : Job) (options : LinkOptions) :
    Task Failure (List Path × Mismatches) :=
  match job.compilables, options.skipVerify with
  | some files, true => pure (files, ∅)
  | _, _ => checkedFiles fs job options

/-- An index about to be written. -/
structure LinkPlan where
  text : String
  outcome : LinkOutcome

/-- Everything up to writing: nothing is changed here. -/
def linkPlan (fs : FileSystem) (job : Job) (remote : Remote) (revision : String)
    (options : LinkOptions) (now : Timestamp) : Task Failure LinkPlan := do
  Task.log [.handling job.pdb]
  let _ ← Task.ofExcept ((fs.node job.pdb).mapError (.io job.pdb))
  let (files, mismatches) ← chosenFiles fs job options
  Task.log (mismatches.toList.map fun (file, checksum) => .mismatch file checksum)
  let context := indexContext remote revision files options now
  let text ← Task.ofExcept ((Index.render context).mapError .index)
  pure ⟨text, ⟨indexPath job.pdb, context.paths.length, mismatches⟩⟩

/-- Links one symbol file (`link_symbol_file`): the file system afterwards, and how the task
ended. -/
def link (fs : FileSystem) (job : Job) (remote : Remote) (revision : String)
    (options : LinkOptions) (now : Timestamp) : Logged (FileSystem × Except Failure LinkOutcome) :=
  let plan := linkPlan fs job remote revision options now
  match plan.result with
  | .error failure => ⟨(fs, .error failure), plan.events⟩
  | .ok { text, outcome } =>
    match fs.write outcome.index text.toUTF8 with
    | .error error => ⟨(fs, .error (.io outcome.index error)), plan.events⟩
    | .ok written => ⟨(written, .ok outcome), plan.events ++ [.createdIndex outcome.index]⟩

end SourceServer
