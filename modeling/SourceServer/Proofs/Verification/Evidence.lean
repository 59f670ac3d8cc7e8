import SourceServer.Proofs.Verification.Report
import SourceServer.Proofs.Verification.Spelling

/-!
# What an entry of a report rests on

A report accuses the files on disk, so each of its entries has to rest on a record. A digest that
some candidate has is no ground for one, whatever the candidate is called: without its record the
report would be the same.

- `ChecksumMap.erase`: a map without one of its files.
- `Verification.report_erase`: files that are not reported add nothing.
- `Verification.report_justified`: the record behind every entry.
-/

namespace SourceServer

/-- A map without one of its files. -/
def ChecksumMap.erase (m : ChecksumMap) (path : String) : ChecksumMap :=
  ⟨m.entries.erase (Unicode.lower path)⟩

/-- The other files stay as they are, in their order. -/
theorem ChecksumMap.toList_entries_erase (m : ChecksumMap) (path : String) :
    (m.erase path).entries.toList
      = m.entries.toList.filter fun entry => entry.1 != Unicode.lower path := by
  rw [← Std.TreeMap.toList_filter (f := fun key _ => key != Unicode.lower path)]
  apply Std.TreeMap.Equiv.toList_eq
  apply Std.TreeMap.Equiv.of_forall_constGet?_eq
  intro key
  rw [erase, Std.TreeMap.getElem?_erase, Std.TreeMap.getElem?_filter']
  by_cases h : Unicode.lower path = key
  · have hdropped : (key != Unicode.lower path) = false := bne_eq_false_iff_eq.mpr h.symm
    rw [if_pos (Std.compare_eq_iff_eq.mpr h), hdropped]
    cases m.entries[key]? <;> rfl
  · have hkept : (key != Unicode.lower path) = true := bne_iff_ne.mpr (Ne.symm h)
    rw [if_neg (mt Std.compare_eq_iff_eq.mp h), hkept]
    cases m.entries[key]? <;> rfl

namespace Verification

variable {fs : FileSystem} {recorded : ChecksumMap} {candidates : Option (List Path)}
  {file : String}

/-- A file that is not reported adds nothing to the report. -/
theorem report_erase {entry : ChecksumEntry}
    (hentry : recorded.entries[Unicode.lower file]? = some entry)
    (hverdict : ∀ path checksum, verdict fs (candidates.map (CandidateDigests.ofFiles fs))
      entry.path entry.checksum ≠ .mismatch path checksum) :
    (report fs (recorded.erase file) candidates).value = (report fs recorded candidates).value := by
  rw [report_value, report_value, ChecksumMap.toList, ChecksumMap.toList,
    ChecksumMap.toList_entries_erase, List.foldl_map, List.foldl_map, List.foldl_filter]
  refine List.foldl_ext _ _ _ fun found held hheld => ?_
  obtain ⟨key, other⟩ := held
  dsimp only
  by_cases hkey : key = Unicode.lower file
  · -- the file that is left out
    obtain rfl : other = entry := by
      rw [Std.TreeMap.mem_toList_iff_getElem?_eq_some, hkey, hentry] at hheld
      exact (Option.some.inj hheld).symm
    rw [if_neg (by simp [hkey]), addFile]
    cases hfound : verdict fs (candidates.map (CandidateDigests.ofFiles fs)) other.path
        other.checksum with
    | mismatch path checksum => exact absurd hfound (hverdict path checksum)
    | unrecorded => rfl
    | verified candidate => rfl
    | ignored => rfl
    | unresolved cause => rfl
  · rw [if_pos (by simp [hkey])]

/-- A file is not reported when a candidate has its digest, whatever the candidate is called. -/
theorem verdict_ne_mismatch {files : List Path} {candidate : Path} {content : ByteArray}
    {checksum : String} (hcandidate : candidate ∈ files) (hread : fs.read candidate = .ok content)
    (hdigest : Ascii.equalIgnoringCase (Md5.hex content) checksum = true) (path : Path)
    (digest : String) :
    verdict fs ((some files).map (CandidateDigests.ofFiles fs)) file (some checksum)
      ≠ .mismatch path digest := by
  intro h
  have hother := (verdict_eq_mismatch_iff.mp h).1.unverified files rfl candidate hcandidate content
    hread
  rw [hother] at hdigest
  cases hdigest

/-- A digest that a candidate does not have up to case is not its digest. -/
theorem Unmatched.hex_ne {checksum : String} {path : Path}
    (h : Unmatched fs candidates file checksum path) {files : List Path}
    (hfiles : candidates = some files) {candidate : Path} (hcandidate : candidate ∈ files)
    {content : ByteArray} (hread : fs.read candidate = .ok content) :
    Md5.hex content ≠ Ascii.lower checksum := by
  intro heq
  have hdiffer := h.unverified files hfiles candidate hcandidate content hread
  rw [Bool.eq_false_iff, Ne, Ascii.equalIgnoringCase_iff, Md5.hex, Hex.lower_encode] at hdiffer
  exact hdiffer heq

/-- **No entry of a report is a false alarm.** It rests on a record with this digest up to case,
whose path is found on disk as the reported one and does not end like generated markup, and no
candidate that can be read has the digest. A record whose digest some candidate has adds nothing,
whatever the candidate is called: the report is the same without it. -/
theorem report_justified (fs : FileSystem) (recorded : ChecksumMap)
    (candidates : Option (List Path)) :
    (∀ path digest, (path, digest) ∈ (report fs recorded candidates).value.toList →
      ∃ file checksum, (file, some checksum) ∈ recorded.toList ∧ digest = Ascii.lower checksum
        ∧ Capitalization.file fs file = .ok path ∧ isIgnored file = false
        ∧ ∀ files, candidates = some files → ∀ candidate ∈ files, ∀ content,
          fs.read candidate = .ok content → Md5.hex content ≠ digest)
      ∧ ∀ files, candidates = some files → ∀ file checksum,
        recorded.get? file = some (some checksum) → ∀ candidate ∈ files, ∀ content,
          fs.read candidate = .ok content →
          Ascii.equalIgnoringCase (Md5.hex content) checksum = true →
            (report fs (recorded.erase file) candidates).value
              = (report fs recorded candidates).value := by
  constructor
  · intro path digest hentry
    obtain ⟨file, checksum, hrecord, hunmatched, rfl⟩ := unmatched_of_mem_report hentry
    refine ⟨file, checksum, hrecord, rfl, hunmatched.resolved, hunmatched.not_ignored, ?_⟩
    intro files hfiles candidate hcandidate content hread
    exact hunmatched.hex_ne hfiles hcandidate hread
  · rintro files rfl file checksum hknown candidate hcandidate content hread hdigest
    rw [ChecksumMap.get?, Option.map_eq_some_iff] at hknown
    obtain ⟨entry, hentry, hchecksum⟩ := hknown
    refine report_erase hentry ?_
    rw [hchecksum]
    exact verdict_ne_mismatch hcandidate hread hdigest

end Verification

end SourceServer
