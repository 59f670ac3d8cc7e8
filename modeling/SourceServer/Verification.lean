import SourceServer.Digest.Md5
import SourceServer.Log

/-!
# Verification

The digests that a symbol file records are compared with the files on disk. A digest is verified
when any candidate has it, whatever the candidate is called; the others are reported under the
spelling that the disk gives to their paths.

- `CandidateDigests`, `CandidateDigests.add`: the digests of the candidates that can be read.
- `Verdict`: what becomes of one recorded file.
- `Mismatches`: the report, by path.
- `Verification.report`: the report of a whole map.
-/

namespace SourceServer

/-- The digest of a file (`md5_path`). -/
def fileDigest (fs : FileSystem) (path : Path) : Except Failure String :=
  match fs.read path with
  | .error error => .error (.io path error)
  | .ok content => .ok (Md5.hex content)

/-- The digests of candidates that can be read (`FileChecksumIndex`). -/
structure CandidateDigests where
  /-- The first candidate with a digest. -/
  byDigest : Std.TreeMap String Path
  /-- How many candidates could be read; candidates with the same digest count each. -/
  hashed : Nat

namespace CandidateDigests

/-- No candidate at all. -/
def empty : CandidateDigests := ⟨∅, 0⟩

/-- One more candidate hashed; one that cannot be read is left out. -/
def add (fs : FileSystem) (d : CandidateDigests) (file : Path) : CandidateDigests :=
  match fileDigest fs file with
  | .ok digest => ⟨d.byDigest.insertIfNew digest file, d.hashed + 1⟩
  | .error _ => d

/-- Hashes candidates in their order (`FileChecksumIndex::build`). -/
def ofFiles (fs : FileSystem) (files : List Path) : CandidateDigests :=
  files.foldl (add fs) empty

/-- What hashing candidates logs: those that cannot be read. -/
def unreadable (fs : FileSystem) (files : List Path) : List Event :=
  files.filterMap fun file =>
    match fileDigest fs file with
    | .ok _ => none
    | .error failure => some (.unreadableCandidate failure)

/-- The first candidate with a digest, which may be written in either case
(`file_with_checksum`). -/
def file? (d : CandidateDigests) (checksum : String) : Option Path :=
  d.byDigest[Ascii.lower checksum]?

/-- The number of candidates that could be read (`len`). -/
def size (d : CandidateDigests) : Nat :=
  d.hashed

/-- Whether no candidate could be read (`is_empty`). -/
def isEmpty (d : CandidateDigests) : Bool :=
  d.hashed == 0

end CandidateDigests

/-- What becomes of one recorded file. -/
inductive Verdict where
  /-- No digest is recorded, so there is nothing to verify. -/
  | unrecorded
  | verified (candidate : Path)
  /-- Generated markup never has the content that was compiled. -/
  | ignored
  | unresolved (cause : Unresolved)
  | mismatch (path : Path) (checksum : String)

/-- Files whose recorded digest no candidate has, by their path on disk (`MissingFiles`). -/
abbrev Mismatches := Std.TreeMap Path String

namespace Verification

/-- The ending of generated markup (`IGNORED_EXTENSION`). -/
def ignoredEnding : String := ".xaml"

/-- Generated markup, which is neither reported nor indexed (`is_ignored`). -/
def isIgnored (file : String) : Bool :=
  Ascii.endsWithIgnoringCase file ignoredEnding

/-- What becomes of a recorded file. Without candidates nothing can be verified. -/
def verdict (fs : FileSystem) (candidates : Option CandidateDigests) (file : String) :
    Option String → Verdict
  | none => .unrecorded
  | some checksum =>
    match candidates.bind (·.file? checksum) with
    | some candidate => .verified candidate
    | none =>
      if isIgnored file then .ignored
      else
        match Capitalization.file fs file with
        | .error cause => .unresolved cause
        | .ok path => .mismatch path (Ascii.lower checksum)

/-- What a verdict on a file logs. -/
def events (file : String) : Verdict → List Event
  | .verified candidate => [.verified file candidate]
  | .unresolved cause => Event.ofUnresolved cause ++ [.droppedFromReport file]
  | _ => []

/-- The report with one more verdict. -/
def addVerdict (report : Mismatches) : Verdict → Mismatches
  | .mismatch path checksum => report.insert path checksum
  | _ => report

/-- The verdicts on all recorded files. -/
def verdicts (fs : FileSystem) (recorded : ChecksumMap) (candidates : Option CandidateDigests) :
    List (String × Verdict) :=
  recorded.toList.map fun (file, checksum) => (file, verdict fs candidates file checksum)

/-- The report of a map against a set of candidate files, or against none (`verify_checksums`). -/
def report (fs : FileSystem) (recorded : ChecksumMap) (candidates : Option (List Path)) :
    Logged Mismatches :=
  let verdicts := verdicts fs recorded (candidates.map (CandidateDigests.ofFiles fs))
  { value := (verdicts.map Prod.snd).foldl addVerdict ∅
    events :=
      (candidates.map (CandidateDigests.unreadable fs)).getD []
        ++ verdicts.flatMap fun (file, verdict) => events file verdict }

end Verification

end SourceServer
