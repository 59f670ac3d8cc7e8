import SourceServer.Batch
import SourceServer.CommandLine.Arguments
import SourceServer.CommandLine.SymbolFiles
import SourceServer.Settings

/-!
# Commands

What each verb does, prints and reports. Options win over settings; an option can only switch
something on.

- `CommandError`: why a command fails.
- `Report`: what a command prints, and how it ends.
- `Commands.link`, `Commands.linkPdb`, `Commands.checksums`, `Commands.verify`: the verbs.
-/

namespace SourceServer

/-- Why a command fails. -/
inductive CommandError where
  | settings (error : SettingsError)
  | noRemote (url : String) (fault : Remote.Fault)
  | configuration (fault : Remote.Fault)
  | unlistable (directory : Path) (error : IoError)
  | sourceListUnreadable (file : Path) (error : IoError)
  | listingUnreadable (file : Path) (error : IoError)
  | notIndexed (pdb : Path) (failure : Failure)
  | notRead (pdb : Path) (failure : Failure)
  | batchFailed (failed attempted : Nat)
  | filesDiffer (files : Nat) (pdb : Path)
deriving DecidableEq

namespace CommandError

/-- A failure and the causes behind it. -/
def failureChain (failure : Failure) : List String :=
  failure.message :: failure.sources

/-- The wordings of an error and of the causes behind it. -/
def chain : CommandError → List String
  | .settings (.io error) => [error.message]
  | .settings .malformed => ["the settings are not valid TOML"]
  | .noRemote url fault =>
    ("no provider accepts '" ++ url ++ "'") :: failureChain (.configuration fault)
  | .configuration fault => failureChain (.configuration fault)
  | .unlistable directory error => ["listing " ++ directory.text, error.message]
  | .sourceListUnreadable file error => ["reading source list " ++ file.text, error.message]
  | .listingUnreadable file error => ["reading listing " ++ file.text, error.message]
  | .notIndexed pdb failure => ("indexing " ++ pdb.text) :: failureChain failure
  | .notRead pdb failure => ("reading " ++ pdb.text) :: failureChain failure
  | .batchFailed failed attempted =>
    [toString failed ++ " of " ++ toString attempted ++ " pdb(s) failed"]
  | .filesDiffer files pdb => [toString files ++ " source file(s) do not match " ++ pdb.text]

/-- Whether the reader of a symbol file broke down and took the program with it. -/
def isBreakdown : CommandError → Bool
  | .notIndexed _ .breakdown | .notRead _ .breakdown => true
  | _ => false

end CommandError

/-- What a command prints, and how it ends. -/
structure Report where
  lines : List String
  error : Option CommandError

/-- A command that prints lines and succeeds. -/
def Report.ofLines (lines : List String) : Report := ⟨lines, none⟩

/-- A command that fails before it prints anything. -/
def Report.ofError (error : CommandError) : Report := ⟨[], some error⟩

namespace Commands

/-! ## Options and settings -/

/-- The remote of the address that the user gives (`select_provider`). Backslashes are for plain web
servers only. -/
def selectRemote (arguments : LinkArguments) : Task CommandError Remote := do
  let remote ← Task.ofExcept ((Remote.detect arguments.url).mapError (.noRemote arguments.url))
  if arguments.backslashes then
    match remote.service with
    | .customUrl _ =>
      Task.ofExcept ((Remote.customUrl arguments.url true).mapError .configuration)
    | _ =>
      Task.log [.backslashesIgnored remote.name arguments.url]
      return remote
  else return remote

/-- The revision that the user gives (`revision`). -/
def selectRevision (arguments : LinkArguments) : Except CommandError String :=
  (Revision.ofText arguments.commit).mapError .configuration

/-- The current directory as a path. -/
def currentDirectory (fs : FileSystem) : Path :=
  ⟨"/" ++ "/".intercalate fs.current⟩

/-- What all symbol files of a run have in common (`link_options`). -/
def linkOptions (fs : FileSystem) (settings : Settings) (arguments : LinkArguments) : LinkOptions :=
  { root := arguments.baseDirectory.getD (currentDirectory fs)
    powershell := arguments.powershell || settings.powershell
    skipVerify := arguments.skipVerify || settings.skipVerify
    lineEnding := if arguments.lf then .lf else settings.lineEnding.getD .crlf }

/-- Whether failures do not count (`errors_as_warnings`). -/
def errorsAsWarnings (settings : Settings) (arguments : LinkArguments) : Bool :=
  arguments.errorsAsWarnings || settings.errorsAsWarnings

/-- The paths of a list of sources, one on a line, taken from a base directory
(`read_source_list`). -/
def sourcePaths (base : Path) (text : String) : List Path :=
  (((Lines.lines text).map Unicode.trim).filter (· ≠ "")).map fun line => base.join ⟨line⟩

/-! ## Many symbol files -/

/-- The line on how many of the symbol files were indexed. -/
def headline (succeeded attempted : Nat) : String :=
  "All pdbs are done. " ++ toString succeeded ++ " of " ++ toString attempted ++ " succeeded"

/-- The line on a symbol file that failed. It shows the path as text, and what is said about the
failure as it is. -/
def failedLine (failed : RawText × String) : String :=
  "  FAILED " ++ failed.1.lossy ++ ": " ++ failed.2

/-- The lines on a batch (`report`). -/
def batchLines (summary : Batch.Summary) : List String :=
  headline summary.succeeded summary.attempted
    :: summary.failed.map fun (pdb, error) => failedLine (pdb.raw, error)

/-- The report on a batch (`report`): it fails unless all symbol files succeeded or failures do not
count. -/
def batchReport (summary : Batch.Summary) (errorsAsWarnings : Bool) : Report :=
  { lines := batchLines summary
    error :=
      if summary.isSuccess || errorsAsWarnings then none
      else some (.batchFailed summary.failed.length summary.attempted) }

/-- What is settled before a batch begins. -/
structure BatchPlan where
  remote : Remote
  revision : String
  options : LinkOptions
  pdbs : List Path

/-- Settles what a batch needs. -/
def batchPlan (fs : FileSystem) (settings : Settings) (directory : Path)
    (arguments : LinkArguments) : Task CommandError BatchPlan := do
  let remote ← selectRemote arguments
  let revision ← Task.ofExcept (selectRevision arguments)
  let pdbs ← Task.ofExcept
    ((SymbolFiles.find fs directory).mapError fun (unlisted, error) => .unlistable unlisted error)
  return ⟨remote, revision, linkOptions fs settings arguments, pdbs⟩

/-- Indexes every symbol file below a directory (`run_link`). What the runtime says of a breakdown is
`panic`. -/
def link (fs : FileSystem) (settings : Settings) (now : Timestamp) (directory : Path)
    (arguments : LinkArguments) (jobs : Option Nat) (panic : Job → String) :
    Logged (FileSystem × Report) := do
  match ← (batchPlan fs settings directory arguments).run with
  | .error error => return (fs, .ofError error)
  | .ok plan =>
    if plan.pdbs.isEmpty then
      return (fs, .ofLines ["No pdb files found under " ++ directory.text ++ "."])
    Logged.log [.linking plan.pdbs.length plan.remote.name plan.revision]
    let (fs, summary) ←
      Batch.link fs (plan.pdbs.map Job.ofPdb) plan.remote plan.revision plan.options
        (jobs.getD settings.jobs) now panic
    return (fs, batchReport summary (errorsAsWarnings settings arguments))

/-! ## One symbol file -/

/-- What is settled before one symbol file is indexed. -/
structure LinkRequest where
  remote : Remote
  revision : String
  options : LinkOptions
  job : Job

/-- The job for a symbol file with a list of its sources and a saved listing, if they are given. -/
def givenJob (fs : FileSystem) (root pdb : Path) (sources listing : Option Path) :
    Except CommandError Job := do
  let compilables ← sources.mapM fun file => do
    let text ← (fs.readText file).mapError (.sourceListUnreadable file)
    return sourcePaths root text
  let listing ← listing.mapM fun file => (fs.readText file).mapError (.listingUnreadable file)
  return ⟨pdb, compilables, listing⟩

/-- Settles what one symbol file needs. -/
def linkRequest (fs : FileSystem) (settings : Settings) (pdb : Path) (arguments : LinkArguments)
    (sources listing : Option Path) : Task CommandError LinkRequest := do
  let remote ← selectRemote arguments
  let revision ← Task.ofExcept (selectRevision arguments)
  let options := linkOptions fs settings arguments
  let job ← Task.ofExcept (givenJob fs options.root pdb sources listing)
  return ⟨remote, revision, options, job⟩

/-- The lines on a symbol file that was indexed. -/
def outcomeLines (outcome : LinkOutcome) : List String :=
  ("Indexed " ++ toString outcome.indexedFiles ++ " file(s) into " ++ outcome.index.text)
    :: outcome.mismatches.toList.map fun (file, checksum) =>
      "  MISSING " ++ checksum ++ "  " ++ file.text

/-- Indexes one symbol file (`run_link_pdb`). A failure that does not count is printed only; a
breakdown counts always. -/
def linkPdb (fs : FileSystem) (settings : Settings) (now : Timestamp) (pdb : Path)
    (arguments : LinkArguments) (sources listing : Option Path) :
    Logged (FileSystem × Report) := do
  match ← (linkRequest fs settings pdb arguments sources listing).run with
  | .error error => return (fs, .ofError error)
  | .ok request =>
    let (fs, outcome) ←
      SourceServer.link fs request.job request.remote request.revision request.options now
    match outcome with
    | .ok outcome => return (fs, .ofLines (outcomeLines outcome))
    | .error failure =>
      if errorsAsWarnings settings arguments ∧ failure ≠ .breakdown then
        Logged.log [.notIndexed pdb failure.message]
        return (fs, .ofLines ["WARNING " ++ pdb.text ++ ": " ++ failure.message])
      else return (fs, .ofError (.notIndexed pdb failure))

/-! ## Looking -/

/-- The line on a recorded file. -/
def checksumLine (file : String × Option String) : String :=
  file.2.getD "-" ++ "  " ++ file.1

/-- Prints the files and digests that a symbol file records (`run_checksums`). -/
def checksums (fs : FileSystem) (pdb : Path) : Logged Report := do
  match ← (fileChecksums fs (.ofPdb pdb)).run with
  | .error failure => return .ofError (.notRead pdb failure)
  | .ok recorded =>
    if recorded.isEmpty then return .ofLines ["No source checksums in " ++ pdb.text ++ "."]
    else return .ofLines (recorded.toList.map checksumLine)

/-- The width of the column of digests. -/
def digestWidth : Nat := 34

/-- A row of the table of files that differ. -/
def mismatchLine (checksum file : String) : String :=
  checksum ++ String.ofList (List.replicate (digestWidth - checksum.length) ' ') ++ " " ++ file

/-- The recorded files that no candidate matches; without sources the recorded files themselves are
the candidates. -/
def mismatches (fs : FileSystem) (recorded : ChecksumMap) (sources : List Path) :
    Logged Mismatches :=
  if sources.isEmpty then verifyRecorded fs recorded
  else Verification.report fs recorded (some sources)

/-- Compares what a symbol file records with files (`run_verify`). -/
def verify (fs : FileSystem) (pdb : Path) (sources : List Path) : Logged Report := do
  match ← (fileChecksums fs (.ofPdb pdb)).run with
  | .error failure => return .ofError (.notRead pdb failure)
  | .ok recorded =>
    let missing ← mismatches fs recorded sources
    if missing.isEmpty then
      return .ofLines ["All " ++ toString recorded.size ++ " source file(s) match."]
    else
      return {
        lines :=
          mismatchLine "EXPECTED MD5" "FILE"
            :: missing.toList.map fun (file, checksum) => mismatchLine checksum file.text
        error := some (.filesDiffer missing.size pdb) }

/-- Does what a command asks for. -/
def run (fs : FileSystem) (settings : Settings) (now : Timestamp) (panic : Job → String) :
    Command → Logged (FileSystem × Report)
  | .link directory arguments jobs => link fs settings now directory arguments jobs panic
  | .linkPdb pdb arguments sources listing =>
    linkPdb fs settings now pdb arguments sources listing
  | .checksums pdb => do return (fs, ← checksums fs pdb)
  | .verify pdb sources => do return (fs, ← verify fs pdb sources)

end Commands

end SourceServer
