import SourceServer.CommandLine.Commands
import SourceServer.Proofs.Checksum.Gathering
import SourceServer.Proofs.Checksum.Streams
import SourceServer.Proofs.Link.Effect
import SourceServer.Proofs.Link.StreamOrder
import SourceServer.Proofs.Pdb.OneStream
import SourceServer.Proofs.Verification.Report

/-!
# What it means that all files match

The verb succeeds when the report is empty. A record leaves the report when a candidate has its
digest, when it is generated markup, and also when its path is not found on disk, for a path that
nobody can locate is not reported. So success says of every record that is found on disk, and only
of those, that its content is still there.

- `Verification.isEmpty_report_iff`: when a report is empty.
- `Commands.candidates`, `Commands.Reproduced`: the files that are looked at, and the digests they
  have.
- `Commands.AllClear`, `Commands.verify_succeeds_iff`: when the verb succeeds.
-/

namespace SourceServer

/-! ## Empty reports -/

theorem Md5.equalIgnoringCase_hex_iff {content : ByteArray} {d : Digest} :
    Ascii.equalIgnoringCase (Md5.hex content) d.hex = true ↔ Md5.hex content = d.hex := by
  rw [Ascii.equalIgnoringCase_iff, Md5.hex, Digest.hex, Hex.lower_encode, Hex.lower_encode]

namespace Verification

variable {fs : FileSystem} {recorded : ChecksumMap} {candidates : Option (List Path)}

/-- A report is empty when no record is unmatched. -/
theorem isEmpty_report_iff :
    (report fs recorded candidates).value.isEmpty = true
      ↔ ∀ file checksum path, (file, some checksum) ∈ recorded.toList →
        ¬ Unmatched fs candidates file checksum path := by
  constructor
  · intro hempty file checksum path hrecord hunmatched
    obtain ⟨other, second, -, -, hheld⟩ := exists_unmatched hrecord hunmatched
    rw [Std.TreeMap.getElem?_of_isEmpty hempty] at hheld
    cases hheld
  · intro hnone
    rw [Std.TreeMap.isEmpty_iff_forall_not_mem]
    intro path hpath
    rw [Std.TreeMap.mem_iff_isSome_getElem?] at hpath
    rcases getElem?_foldl_cases
        ((verdicts fs recorded (candidates.map (CandidateDigests.ofFiles fs))).map Prod.snd) ∅ path
      with ⟨hsame, -⟩ | ⟨found, digest, hmem, -, -⟩
    · rw [report, hsame, Std.TreeMap.getElem?_emptyc] at hpath
      cases hpath
    · obtain ⟨file, checksum, hrecord, hunmatched, -⟩ := mem_verdicts_iff.mp hmem
      exact hnone file checksum found hrecord hunmatched

end Verification

namespace Commands

open Verification (isIgnored Unmatched)
open ChecksumMap (firstPath? firstDigest?)

variable {fs : FileSystem} {pdb : Path} {sources files : List Path} {recorded : ChecksumMap}
  {records : List ChecksumRecord}

/-- The files that a verification looks at: the given sources, otherwise the recorded files that are
found on disk. -/
def candidates (fs : FileSystem) (recorded : ChecksumMap) (sources : List Path) : List Path :=
  if sources.isEmpty then (indexableFiles fs recorded).value else sources

/-- Some file that can be read has a digest. -/
def Reproduced (fs : FileSystem) (files : List Path) (d : Digest) : Prop :=
  ∃ file ∈ files, ∃ content, fs.read file = .ok content ∧ Md5.hex content = d.hex

/-- Every digest is reproduced that is recorded of a file which is no generated markup and which is
found on disk, as its first record spells it. -/
def AllClear (fs : FileSystem) (records : List ChecksumRecord) (files : List Path) : Prop :=
  ∀ r ∈ records, ∀ d, r.digest = some d → isIgnored r.path = false →
    ∀ first q, firstPath? records r.key = some first → Capitalization.file fs first = .ok q →
      Reproduced fs files d

theorem value_mismatches :
    (mismatches fs recorded sources).value
      = (Verification.report fs recorded (some (candidates fs recorded sources))).value := by
  rw [mismatches, candidates]
  split <;> rfl

theorem not_reproduced_iff {d : Digest} :
    ¬ Reproduced fs files d
      ↔ ∀ file ∈ files, ∀ content, fs.read file = .ok content →
        Ascii.equalIgnoringCase (Md5.hex content) d.hex = false := by
  simp only [Reproduced, ← Md5.equalIgnoringCase_hex_iff]
  simp

/-- What is unmatched is a record of a file found on disk, and its digest is not reproduced. -/
theorem unmatched_iff {file : String} {d : Digest} {path : Path} :
    Unmatched fs (some files) file d.hex path
      ↔ ¬ Reproduced fs files d ∧ isIgnored file = false
        ∧ Capitalization.file fs file = .ok path := by
  rw [not_reproduced_iff]
  constructor
  · intro h
    exact ⟨h.unverified files rfl, h.not_ignored, h.resolved⟩
  · rintro ⟨hfiles, hignored, hresolved⟩
    refine ⟨?_, hignored, hresolved⟩
    rintro _ ⟨⟩
    exact hfiles

theorem isEmpty_report_iff_allClear (h : ChecksumMap.ofRecords records = .ok recorded) :
    (Verification.report fs recorded (some files)).value.isEmpty = true
      ↔ AllClear fs records files := by
  obtain ⟨hgathers, hconsistent⟩ := ChecksumMap.gathers_of_ofRecords h
  rw [Verification.isEmpty_report_iff]
  constructor
  · intro hnone r hr d hd hignored first q hfirst hresolved
    by_contra hnot
    have hlower : Unicode.lower first = Unicode.lower r.path := ChecksumMap.lower_firstPath? hfirst
    have hrecord : (first, some d.hex) ∈ recorded.toList := by
      refine hgathers.mem_toList_iff.mpr ⟨r.key, hfirst, ?_⟩
      rw [hconsistent.firstDigest?_eq hr hd]
      rfl
    refine hnone first d.hex q hrecord (unmatched_iff.mpr ⟨hnot, ?_, hresolved⟩)
    rw [Verification.isIgnored_eq_of_lower_eq hlower]
    exact hignored
  · intro hclear file checksum path hrecord hunmatched
    obtain ⟨key, hfirst, hdigest⟩ := hgathers.mem_toList_iff.mp hrecord
    rw [Option.map_eq_some_iff] at hdigest
    obtain ⟨d, hdigest, rfl⟩ := hdigest
    obtain ⟨r, hr, rfl, hd⟩ := ChecksumMap.mem_of_firstDigest? hdigest
    obtain ⟨hnot, hignored, hresolved⟩ := unmatched_iff.mp hunmatched
    have hlower : Unicode.lower file = Unicode.lower r.path := ChecksumMap.lower_firstPath? hfirst
    rw [Verification.isIgnored_eq_of_lower_eq hlower] at hignored
    exact hnot (hclear r hr d hd hignored file path hfirst hresolved)

/-! ## The verb -/

theorem verify_value :
    (verify fs pdb sources).value
      = match (fileChecksums fs (.ofPdb pdb)).result with
        | .error failure => .ofError (.notRead pdb failure)
        | .ok recorded =>
          let missing := (mismatches fs recorded sources).value
          if missing.isEmpty then
            .ofLines ["All " ++ toString recorded.size ++ " source file(s) match."]
          else
            ⟨mismatchLine "EXPECTED MD5" "FILE"
                :: missing.toList.map fun (file, checksum) => mismatchLine checksum file.text,
              some (.filesDiffer missing.size pdb)⟩ := by
  rw [verify, Logged.value_bind, Task.result]
  cases ((fileChecksums fs (.ofPdb pdb)).run).value with
  | error failure => rfl
  | ok recorded =>
    show Logged.value (do
      let missing ← mismatches fs recorded sources
      if missing.isEmpty then _ else _) = _
    rw [Logged.value_bind]
    dsimp only
    split <;> rfl

/-- The verb succeeds when there are records, no two of them contradict each other, and all is
clear. -/
theorem error_verify_eq_none_iff :
    (verify fs pdb sources).value.error = none
      ↔ ∃ records recorded, (fileRecords fs (.ofPdb pdb)).result = .ok records
        ∧ ChecksumMap.ofRecords records = .ok recorded
        ∧ AllClear fs records (candidates fs recorded sources) := by
  rw [verify_value]
  cases hrecorded : (fileChecksums fs (.ofPdb pdb)).result with
  | error failure =>
    refine iff_of_false (by simp [Report.ofError]) ?_
    rintro ⟨records, recorded, hrecords, hmap, -⟩
    rw [fileChecksums_eq_ok.mpr ⟨records, hrecords, hmap⟩] at hrecorded
    cases hrecorded
  | ok recorded =>
    obtain ⟨records, hrecords, hmap⟩ := fileChecksums_eq_ok.mp hrecorded
    have hempty : (mismatches fs recorded sources).value.isEmpty = true
        ↔ AllClear fs records (candidates fs recorded sources) := by
      rw [value_mismatches, isEmpty_report_iff_allClear hmap]
    dsimp only
    split
    · rename_i hnone
      exact iff_of_true rfl ⟨records, recorded, hrecords, hmap, hempty.mp hnone⟩
    · rename_i hsome
      refine iff_of_false (by simp) ?_
      rintro ⟨records', recorded', hrecords', hmap', hclear⟩
      obtain rfl : records' = records := Except.ok.inj (hrecords'.symm.trans hrecords)
      obtain rfl : recorded' = recorded := Except.ok.inj (hmap'.symm.trans hmap)
      exact hsome (hempty.mpr hclear)

/-- **What success of the verb says.** The verb succeeds exactly when the symbol file can be read, its
records do not contradict each other, and every digest of a file that is no generated markup and that
is found on disk is the digest of some candidate that can be read. The spelling that is looked up is
that of the first record of a file; without entries that agree up to case it may be any. -/
theorem verify_succeeds_iff (fs : FileSystem) (pdb : Path) (sources : List Path) :
    ((verify fs pdb sources).value.error = none
        ↔ ∃ records recorded, (fileRecords fs (.ofPdb pdb)).result = .ok records
          ∧ ChecksumMap.ofRecords records = .ok recorded
          ∧ AllClear fs records (candidates fs recorded sources))
      ∧ ∀ records recorded, (fileRecords fs (.ofPdb pdb)).result = .ok records →
        ChecksumMap.ofRecords records = .ok recorded →
        (verify fs pdb sources).value.error = none → fs.NoCaseTwins →
        ∀ r ∈ records, ∀ d q, r.digest = some d → isIgnored r.path = false →
          Capitalization.file fs r.path = .ok q →
          Reproduced fs (candidates fs recorded sources) d := by
  refine ⟨error_verify_eq_none_iff, ?_⟩
  intro records recorded hrecords hmap hsuccess htwins r hr d q hd hignored hresolved
  obtain ⟨records', recorded', hrecords', hmap', hclear⟩ := error_verify_eq_none_iff.mp hsuccess
  obtain rfl : records' = records := Except.ok.inj (hrecords'.symm.trans hrecords)
  obtain rfl : recorded' = recorded := Except.ok.inj (hmap'.symm.trans hmap)
  -- the first spelling is resolved as well, for it agrees with this one up to case
  obtain ⟨first, hfirst⟩ := ChecksumMap.exists_firstPath? hr
  have hlower : Unicode.lower first = Unicode.lower r.path := ChecksumMap.lower_firstPath? hfirst
  exact hclear r hr d hd hignored first q hfirst
    (Capitalization.file_of_lower_eq htwins hlower hresolved)

/-! ## Files that are not found -/

/-- Without files that are found there is nothing to index. -/
theorem value_indexableFiles_eq_nil
    (h : ∀ file ∈ recorded.toList, ∃ cause, Capitalization.file fs file.1 = .error cause) :
    (indexableFiles fs recorded).value = [] := by
  have hfold : recorded.toList.foldl (addIndexable fs) ∅ = ∅ := by
    generalize recorded.toList = entries at h
    induction entries with
    | nil => rfl
    | cons file rest ih =>
      rw [List.forall_mem_cons] at h
      obtain ⟨⟨cause, hcause⟩, hrest⟩ := h
      have hstep : addIndexable fs ∅ file = ∅ := by
        rw [addIndexable, hcause]
        exact ite_self _
      rw [List.foldl_cons, hstep, ih hrest]
  rw [indexableFiles_value, hfold]
  rfl

/-- Success would mean that all digests are reproduced, except for those of generated markup. -/
def NeverFalselyClear (fs : FileSystem) (pdb : Path) (sources : List Path) : Prop :=
  (verify fs pdb sources).value.error = none →
    ∀ records recorded, (fileRecords fs (.ofPdb pdb)).result = .ok records →
      ChecksumMap.ofRecords records = .ok recorded →
      ∀ r ∈ records, ∀ d, r.digest = some d → isIgnored r.path = false →
        Reproduced fs (candidates fs recorded sources) d

/-- A symbol file that records `gone.cs`. -/
def goneFile : Pdb.OneStream where
  name := Utf8.encode "/src/files/gone.cs"
  content := List.replicate 72 0 ++ List.replicate 16 1
  zero_notMem := by decide +kernel
  name_le := by decide +kernel
  content_le := by decide

/-- The digest that it records. -/
def goneDigest : Digest :=
  ⟨List.replicate 16 1, rfl⟩

/-- A directory that holds the symbol file and no source file. -/
def goneSystem : FileSystem :=
  ⟨.directory [("a.pdb", .file goneFile.file)], []⟩

theorem fileRecords_goneSystem :
    (fileRecords goneSystem (.ofPdb ⟨"a.pdb"⟩)).result = .ok [⟨"gone.cs", some goneDigest⟩] := by
  have hnode : ∀ content, FileSystem.node ⟨.directory [("a.pdb", .file content)], []⟩ ⟨"a.pdb"⟩
      = .ok (.file content) := fun _ => rfl
  have hopen : Pdb.openFile goneSystem ⟨"a.pdb"⟩ = .ok goneFile.container := by
    rw [Pdb.openFile, goneSystem, hnode]
    show (Pdb.Container.ofBytes goneFile.file).mapError _ = _
    rw [Pdb.OneStream.ofBytes_file]
    rfl
  have hname : Utf8.decodeLossy goneFile.name = "/src/files/gone.cs" := by decide +kernel
  have hpath : ChecksumStreams.markedPath? "/src/files/gone.cs" = some "gone.cs" := by
    decide +kernel
  have hread : goneFile.container.streamDirectory.read "/src/files/gone.cs"
      = .ok goneFile.content := by
    rw [Pdb.OneStream.read_streamDirectory]
    exact if_pos rfl
  have hrecord : ChecksumStreams.recordIn? goneFile.container.streamDirectory "/src/files/gone.cs"
      = some ⟨"gone.cs", some goneDigest⟩ := by
    rw [ChecksumStreams.recordIn?, hpath, hread]
    rfl
  have hlisting : (Job.ofPdb ⟨"a.pdb"⟩).listing = none := rfl
  rw [fileRecords_of_openFile hlisting hopen]
  refine ChecksumStreams.records_eq_ok.mpr ⟨_, goneFile.names_streamDirectory, ?_, ?_⟩
  · rw [hname, List.forall_mem_singleton]
    exact fun _ => ⟨_, hread⟩
  · rw [hname, List.filterMap_cons, hrecord]
    rfl

/-- A recorded file that is gone: it is dropped from the report, and nothing is left to report. -/
theorem not_neverFalselyClear : ¬ NeverFalselyClear goneSystem ⟨"a.pdb"⟩ [] := by
  intro h
  obtain ⟨recorded, hmap⟩ : ∃ recorded,
      ChecksumMap.ofRecords [⟨"gone.cs", some goneDigest⟩] = .ok recorded := ⟨_, rfl⟩
  have hfile : Capitalization.file goneSystem "gone.cs" = .error (.noMatch "gone.cs" ⟨"."⟩) := by
    decide +kernel
  have hclear : AllClear goneSystem [⟨"gone.cs", some goneDigest⟩]
      (candidates goneSystem recorded []) := by
    intro r hr d _ _ first q hfirst hresolved
    obtain rfl := List.mem_singleton.mp hr
    obtain rfl : "gone.cs" = first := Option.some.inj hfirst
    rw [hfile] at hresolved
    cases hresolved
  have hsuccess := error_verify_eq_none_iff.mpr ⟨_, recorded, fileRecords_goneSystem, hmap, hclear⟩
  obtain ⟨file, hcandidate, -⟩ := h hsuccess _ recorded fileRecords_goneSystem hmap _
    (List.mem_singleton_self _) goneDigest rfl (by decide +kernel)
  have hnone : (indexableFiles goneSystem recorded).value = [] := by
    refine value_indexableFiles_eq_nil fun file hrecorded => ⟨.noMatch "gone.cs" ⟨"."⟩, ?_⟩
    have hname := ChecksumMap.forall_mem_toList (P := fun path => path = "gone.cs") (by simp) hmap
    rw [hname file hrecorded, hfile]
  rw [candidates, hnone] at hcandidate
  cases hcandidate

end Commands

end SourceServer
