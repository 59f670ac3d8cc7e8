import SourceServer.Proofs.Verification.Report
import SourceServer.Proofs.Verification.Spelling

/-!
# Candidates

What a report owes to its candidates is the set of digests that can be read from them. Their order,
repetitions of them and candidates that cannot be read have no influence, and more candidates can
only verify more records.

- `Verification.FilesAmong`: the files of one list are in another one.
- `Verification.Unmatched.of_filesAmong`: with fewer candidates a record stays unmatched.
- `Verification.addVerdict_congr`: a report tells mismatches and nothing else.
- `Verification.report_candidates`: how reports depend on candidates.
-/

namespace SourceServer

namespace Verification

variable {fs : FileSystem} {recorded : ChecksumMap} {candidates : Option (List Path)}
  {first second : List Path} {file checksum : String} {path : Path}

/-- Every file of the first list that can be read is in the second one, if under another path. -/
def FilesAmong (fs : FileSystem) (first second : List Path) : Prop :=
  ∀ candidate ∈ first, ∀ content, fs.read candidate = .ok content →
    ∃ other ∈ second, fs.read other = .ok content

theorem filesAmong_of_subset (h : first ⊆ second) : FilesAmong fs first second :=
  fun candidate hcandidate _ hread => ⟨candidate, h hcandidate, hread⟩

/-! ## Unmatched records -/

/-- A record that no candidate reproduces is not reproduced by fewer of them. -/
theorem Unmatched.of_filesAmong (hfiles : FilesAmong fs first second)
    (h : Unmatched fs (some second) file checksum path) :
    Unmatched fs (some first) file checksum path := by
  refine ⟨?_, h.not_ignored, h.resolved⟩
  rintro _ ⟨⟩ candidate hcandidate content hread
  obtain ⟨other, hother, hread'⟩ := hfiles candidate hcandidate content hread
  exact h.unverified second rfl other hother content hread'

/-- Without candidates every record stays unmatched that would with some. -/
theorem Unmatched.of_none (h : Unmatched fs candidates file checksum path) :
    Unmatched fs none file checksum path :=
  ⟨nofun, h.not_ignored, h.resolved⟩

/-! ## Reports -/

/-- Only mismatches are reported. -/
theorem addVerdict_congr {verdict other : Verdict}
    (h : ∀ path digest, verdict = .mismatch path digest ↔ other = .mismatch path digest)
    (report : Mismatches) : addVerdict report verdict = addVerdict report other := by
  by_cases hmismatch : ∃ path digest, verdict = .mismatch path digest
  · obtain ⟨path, digest, rfl⟩ := hmismatch
    rw [(h path digest).mp rfl]
  · have hother : ∀ path digest, other ≠ .mismatch path digest :=
      fun path digest heq => hmismatch ⟨path, digest, (h path digest).mpr heq⟩
    have hkept : ∀ {v : Verdict}, (∀ path digest, v ≠ .mismatch path digest) →
        addVerdict report v = report := by
      intro v hv
      cases v with
      | mismatch path digest => exact absurd rfl (hv path digest)
      | unrecorded => rfl
      | verified candidate => rfl
      | ignored => rfl
      | unresolved cause => rfl
    rw [hkept fun path digest heq => hmismatch ⟨path, digest, heq⟩, hkept hother]

/-- Lists of the same files lead to the same report. -/
theorem report_value_of_filesAmong (hfirst : FilesAmong fs first second)
    (hsecond : FilesAmong fs second first) :
    (report fs recorded (some first)).value = (report fs recorded (some second)).value := by
  rw [report_value, report_value]
  congr 1
  funext report record
  obtain ⟨file, checksum⟩ := record
  refine addVerdict_congr (fun path digest => ?_) report
  cases checksum with
  | none => exact iff_of_false nofun nofun
  | some checksum =>
    rw [verdict_eq_mismatch_iff, verdict_eq_mismatch_iff]
    exact and_congr_left' ⟨Unmatched.of_filesAmong hsecond, Unmatched.of_filesAmong hfirst⟩

theorem keys_report_subset {other : Option (List Path)}
    (h : ∀ file checksum path, Unmatched fs candidates file checksum path →
      Unmatched fs other file checksum path) :
    (report fs recorded candidates).value.keys ⊆ (report fs recorded other).value.keys := by
  intro path hpath
  obtain ⟨file, checksum, hrecord, hunmatched⟩ := mem_keys_report_iff.mp hpath
  exact mem_keys_report_iff.mpr ⟨file, checksum, hrecord, h file checksum path hunmatched⟩

/-- **How a report depends on the candidates.** Lists of the same files lead to the same report, in
whatever order and however often they name them. With more files no path is reported that was not
before, and every path that is reported with some candidates is reported without any. -/
theorem report_candidates (fs : FileSystem) (recorded : ChecksumMap) :
    (∀ first second, FilesAmong fs first second → FilesAmong fs second first →
        (report fs recorded (some first)).value = (report fs recorded (some second)).value)
      ∧ (∀ first second, FilesAmong fs first second →
        (report fs recorded (some second)).value.keys
          ⊆ (report fs recorded (some first)).value.keys)
      ∧ (∀ candidates, (report fs recorded candidates).value.keys
        ⊆ (report fs recorded none).value.keys)
      ∧ ∀ first second, first ⊆ second → FilesAmong fs first second := by
  refine ⟨fun first second => report_value_of_filesAmong, fun first second hfiles => ?_,
    fun candidates => ?_, fun first second => filesAmong_of_subset⟩
  · exact keys_report_subset fun _ _ _ => Unmatched.of_filesAmong hfiles
  · exact keys_report_subset fun _ _ _ => Unmatched.of_none

end Verification

end SourceServer
