import SourceServer.Proofs.Capitalization.Spelling
import SourceServer.Proofs.Checksum.Map
import SourceServer.Proofs.Path.Order
import SourceServer.Proofs.Path.Tidy
import SourceServer.Proofs.Text.Hex
import SourceServer.Proofs.Verification.Digests

/-!
# What the report of a verification holds

A record whose digest no candidate has is reported under its path on disk, and the report has room
for one digest of a path. Records are told apart by the lower case of their texts, and a path has
many texts: two records that differ by a doubled slash only are two files for the map and one for
the report, so the digest of one of them is lost. Every digest is reported exactly when such records
agree, in particular when all recorded paths are tidy.

- `Verification.Unmatched`: a record that no candidate reproduces.
- `Verification.getElem?_foldl_cases`, `Verification.unmatched_of_mem_report`: what the report holds
  for a path.
- `Verification.mem_keys_report_iff`: the paths that are reported.
- `Verification.ReportsAll`, `Verification.report_unmatched`: when every record is reported.
-/

namespace SourceServer

/-! ## Verdicts -/

theorem CandidateDigests.file?_eq_none_iff {fs : FileSystem} {files : List Path}
    {checksum : String} :
    (CandidateDigests.ofFiles fs files).file? checksum = none
      ↔ ∀ candidate ∈ files, ∀ content, fs.read candidate = .ok content →
        Ascii.equalIgnoringCase (Md5.hex content) checksum = false := by
  have hdiffer : ∀ content : ByteArray, Ascii.equalIgnoringCase (Md5.hex content) checksum = false
      ↔ Md5.hex content ≠ Ascii.lower checksum := by
    intro content
    rw [Bool.eq_false_iff, Ne, Ascii.equalIgnoringCase_iff, Md5.hex, Hex.lower_encode]
  simp only [hdiffer, CandidateDigests.file?_ofFiles_eq_none_iff]

namespace Verification

variable {fs : FileSystem} {recorded : ChecksumMap} {candidates : Option (List Path)}
  {file checksum : String} {path : Path}

/-- A record that no candidate reproduces: no candidate that can be read has its digest up to case,
it is no generated markup, and its path is found on disk. -/
structure Unmatched (fs : FileSystem) (candidates : Option (List Path)) (file checksum : String)
    (path : Path) : Prop where
  unverified : ∀ files, candidates = some files → ∀ candidate ∈ files, ∀ content,
    fs.read candidate = .ok content → Ascii.equalIgnoringCase (Md5.hex content) checksum = false
  not_ignored : isIgnored file = false
  resolved : Capitalization.file fs file = .ok path

theorem verdict_eq_mismatch_iff {digest : String} :
    verdict fs (candidates.map (CandidateDigests.ofFiles fs)) file (some checksum)
        = .mismatch path digest
      ↔ Unmatched fs candidates file checksum path ∧ digest = Ascii.lower checksum := by
  have hunverified : (candidates.map (CandidateDigests.ofFiles fs)).bind (·.file? checksum) = none
      ↔ ∀ files, candidates = some files → ∀ candidate ∈ files, ∀ content,
        fs.read candidate = .ok content →
          Ascii.equalIgnoringCase (Md5.hex content) checksum = false := by
    cases candidates with
    | none => simp
    | some files => simp [CandidateDigests.file?_eq_none_iff]
  rw [verdict]
  -- a record is reported when it takes none of the three ways out before
  cases hmatch : (candidates.map (CandidateDigests.ofFiles fs)).bind (·.file? checksum) with
  | some candidate =>
    refine iff_of_false (by simp) fun h => ?_
    rw [hunverified.mpr h.1.unverified] at hmatch
    cases hmatch
  | none =>
    rw [hunverified] at hmatch
    cases hignored : isIgnored file with
    | true =>
      refine iff_of_false (by simp) fun h => ?_
      rw [h.1.not_ignored] at hignored
      cases hignored
    | false =>
      cases hresolved : Capitalization.file fs file with
      | error cause =>
        refine iff_of_false (by simp) fun h => ?_
        rw [h.1.resolved] at hresolved
        cases hresolved
      | ok found =>
        show Verdict.mismatch found (Ascii.lower checksum) = .mismatch path digest ↔ _
        rw [Verdict.mismatch.injEq]
        constructor
        · rintro ⟨rfl, rfl⟩
          exact ⟨⟨hmatch, hignored, hresolved⟩, rfl⟩
        · rintro ⟨h, rfl⟩
          exact ⟨Except.ok.inj (hresolved.symm.trans h.resolved), rfl⟩

/-! ## The report -/

theorem getElem?_insert (report : Mismatches) (other : Path) (digest : String) (path : Path) :
    (report.insert other digest)[path]?
      = if other.components = path.components then some digest else report[path]? := by
  rw [Std.TreeMap.getElem?_insert]
  by_cases h : other.components = path.components
  · rw [if_pos h, if_pos (Path.compare_eq_iff.mpr h)]
  · rw [if_neg h, if_neg (Path.compare_eq_iff.not.mpr h)]

/-- For each path, a report holds the digest of one of the verdicts that were added for it, or what
it held before if there are none. -/
theorem getElem?_foldl_cases (verdicts : List Verdict) (report : Mismatches) (path : Path) :
    ((verdicts.foldl addVerdict report)[path]? = report[path]?
        ∧ ∀ other digest, .mismatch other digest ∈ verdicts → other.components ≠ path.components)
      ∨ ∃ other digest, .mismatch other digest ∈ verdicts ∧ other.components = path.components
        ∧ (verdicts.foldl addVerdict report)[path]? = some digest := by
  induction verdicts generalizing report with
  | nil => exact .inl ⟨rfl, by simp⟩
  | cons verdict rest ih =>
    rw [List.foldl_cons]
    rcases ih (addVerdict report verdict) with ⟨hsame, hnone⟩ | ⟨other, digest, hmem, hpath, hheld⟩
    · -- nothing behind is about the path, so it is up to the first verdict
      have hfirst : (∃ other digest, verdict = .mismatch other digest
          ∧ other.components = path.components ∧ (addVerdict report verdict)[path]? = some digest)
          ∨ (addVerdict report verdict)[path]? = report[path]?
            ∧ ∀ other digest, verdict = .mismatch other digest →
              other.components ≠ path.components := by
        cases verdict with
        | mismatch other digest =>
          rw [addVerdict, getElem?_insert]
          by_cases hpath : other.components = path.components
          · exact .inl ⟨other, digest, rfl, hpath, if_pos hpath⟩
          · refine .inr ⟨if_neg hpath, ?_⟩
            rintro _ _ ⟨⟩
            exact hpath
        | unrecorded => exact .inr ⟨rfl, by simp⟩
        | verified candidate => exact .inr ⟨rfl, by simp⟩
        | ignored => exact .inr ⟨rfl, by simp⟩
        | unresolved cause => exact .inr ⟨rfl, by simp⟩
      rcases hfirst with ⟨other, digest, rfl, hpath, hheld⟩ | ⟨hbefore, hother⟩
      · exact .inr ⟨other, digest, List.mem_cons_self, hpath, hsame.trans hheld⟩
      · refine .inl ⟨hsame.trans hbefore, fun other digest hmem => ?_⟩
        rcases List.mem_cons.mp hmem with heq | hmem
        · exact hother other digest heq.symm
        · exact hnone other digest hmem
    · exact .inr ⟨other, digest, List.mem_cons_of_mem verdict hmem, hpath, hheld⟩

/-- Every entry of a report is that of a verdict, under the path that the verdict is about. -/
theorem mem_toList_foldl {verdicts : List Verdict} {report : Mismatches} {digest : String}
    (h : (path, digest) ∈ (verdicts.foldl addVerdict report).toList) :
    (path, digest) ∈ report.toList ∨ .mismatch path digest ∈ verdicts := by
  induction verdicts generalizing report with
  | nil => exact .inl h
  | cons verdict rest ih =>
    rw [List.foldl_cons] at h
    rcases ih h with hfirst | hrest
    · cases verdict with
      | mismatch other found =>
        rw [addVerdict, Std.TreeMap.mem_toList_iff_getKey?_eq_some_and_getElem?_eq_some,
          Std.TreeMap.getKey?_insert, Std.TreeMap.getElem?_insert] at hfirst
        split at hfirst
        · obtain ⟨rfl, rfl⟩ : other = path ∧ found = digest := by simpa using hfirst
          exact .inr List.mem_cons_self
        · exact .inl (Std.TreeMap.mem_toList_iff_getKey?_eq_some_and_getElem?_eq_some.mpr hfirst)
      | unrecorded => exact .inl hfirst
      | verified candidate => exact .inl hfirst
      | ignored => exact .inl hfirst
      | unresolved cause => exact .inl hfirst
    · exact .inr (List.mem_cons_of_mem verdict hrest)

theorem mem_verdicts_iff {digest : String} :
    .mismatch path digest
        ∈ (verdicts fs recorded (candidates.map (CandidateDigests.ofFiles fs))).map Prod.snd
      ↔ ∃ file checksum, (file, some checksum) ∈ recorded.toList
        ∧ Unmatched fs candidates file checksum path ∧ digest = Ascii.lower checksum := by
  simp only [verdicts, List.mem_map]
  constructor
  · rintro ⟨_, ⟨⟨file, checksum?⟩, hfile, rfl⟩, hverdict⟩
    cases checksum? with
    | none => cases hverdict
    | some checksum => exact ⟨file, checksum, hfile, verdict_eq_mismatch_iff.mp hverdict⟩
  · rintro ⟨file, checksum, hfile, hverdict⟩
    exact ⟨_, ⟨(file, some checksum), hfile, rfl⟩, verdict_eq_mismatch_iff.mpr hverdict⟩

/-- A path that is reported is reported with the digest of an unmatched record, and the path of
every unmatched record is reported. -/
theorem exists_unmatched (hrecord : (file, some checksum) ∈ recorded.toList)
    (h : Unmatched fs candidates file checksum path) :
    ∃ other second, (other, some second) ∈ recorded.toList
      ∧ Unmatched fs candidates other second path
      ∧ (report fs recorded candidates).value[path]? = some (Ascii.lower second) := by
  rcases getElem?_foldl_cases
      ((verdicts fs recorded (candidates.map (CandidateDigests.ofFiles fs))).map Prod.snd) ∅ path
    with ⟨-, hnone⟩ | ⟨found, digest, hmem, hpath, hheld⟩
  · have hmem := mem_verdicts_iff.mpr ⟨file, checksum, hrecord, h, rfl⟩
    exact absurd rfl (hnone path (Ascii.lower checksum) hmem)
  · obtain ⟨other, second, hother, hunmatched, rfl⟩ := mem_verdicts_iff.mp hmem
    -- the report goes by components, and a file on disk has one text for them
    have hsame : found = path :=
      Capitalization.eq_of_components_eq hunmatched.resolved h.resolved hpath
    exact ⟨other, second, hother, hsame ▸ hunmatched, hheld⟩

/-- Every entry of the report is that of an unmatched record. -/
theorem unmatched_of_mem_report {digest : String}
    (h : (path, digest) ∈ (report fs recorded candidates).value.toList) :
    ∃ file checksum, (file, some checksum) ∈ recorded.toList
      ∧ Unmatched fs candidates file checksum path ∧ digest = Ascii.lower checksum := by
  rcases mem_toList_foldl h with hempty | hverdict
  · simp at hempty
  · exact mem_verdicts_iff.mp hverdict

/-- The reported paths are those of the unmatched records. -/
theorem mem_keys_report_iff :
    path ∈ (report fs recorded candidates).value.keys
      ↔ ∃ file checksum, (file, some checksum) ∈ recorded.toList
        ∧ Unmatched fs candidates file checksum path := by
  have hheld : ∀ {key digest}, (key, digest) ∈ (report fs recorded candidates).value.toList →
      ∃ file checksum, (file, some checksum) ∈ recorded.toList
        ∧ Unmatched fs candidates file checksum key := by
    intro key digest hentry
    obtain ⟨file, checksum, hrecord, hunmatched, -⟩ := unmatched_of_mem_report hentry
    exact ⟨file, checksum, hrecord, hunmatched⟩
  rw [← Std.TreeMap.map_fst_toList_eq_keys, List.mem_map]
  constructor
  · rintro ⟨⟨key, digest⟩, hentry, rfl⟩
    exact hheld hentry
  · rintro ⟨file, checksum, hrecord, hunmatched⟩
    obtain ⟨_, _, -, -, hreported⟩ := exists_unmatched hrecord hunmatched
    obtain ⟨key, hkey, hentry⟩ :=
      Std.TreeMap.getElem?_eq_some_iff_exists_compare_eq_eq_and_mem_toList.mp hreported
    -- the path is reported up to components, and a file on disk has one text for them
    obtain ⟨_, _, -, hunmatched'⟩ := hheld hentry
    have hsame : path = key := Capitalization.eq_of_components_eq hunmatched.resolved
      hunmatched'.resolved (Path.compare_eq_iff.mp hkey)
    exact ⟨_, hentry, hsame.symm⟩

/-! ## Whether every record is reported -/

/-- Every record that no candidate reproduces is reported with its digest. -/
def ReportsAll (fs : FileSystem) (recorded : ChecksumMap) (candidates : Option (List Path)) :
    Prop :=
  ∀ file checksum path, (file, some checksum) ∈ recorded.toList →
    Unmatched fs candidates file checksum path →
      (report fs recorded candidates).value[path]? = some (Ascii.lower checksum)

/-- Unmatched records of one path have one digest. -/
def Unambiguous (fs : FileSystem) (recorded : ChecksumMap) (candidates : Option (List Path)) :
    Prop :=
  ∀ file checksum other second path, (file, some checksum) ∈ recorded.toList →
    (other, some second) ∈ recorded.toList → Unmatched fs candidates file checksum path →
      Unmatched fs candidates other second path → Ascii.equalIgnoringCase checksum second = true

theorem reportsAll_iff :
    ReportsAll fs recorded candidates ↔ Unambiguous fs recorded candidates := by
  constructor
  · intro h file checksum other second path hrecord hother hunmatched hunmatched'
    have hfirst := h file checksum path hrecord hunmatched
    have hsecond := h other second path hother hunmatched'
    rw [hfirst, Option.some.injEq] at hsecond
    exact Ascii.equalIgnoringCase_iff.mpr hsecond
  · intro h file checksum path hrecord hunmatched
    obtain ⟨other, second, hother, hunmatched', hheld⟩ := exists_unmatched hrecord hunmatched
    have hagree := h file checksum other second path hrecord hother hunmatched hunmatched'
    rw [hheld, Ascii.equalIgnoringCase_iff.mp hagree]

/-- Tidy texts that are resolved to the same path agree up to case. -/
theorem lower_eq_of_resolved {other : String} (hfile : Path.IsTidy ⟨file⟩)
    (hother : Path.IsTidy ⟨other⟩) (h : Capitalization.file fs file = .ok path)
    (h' : Capitalization.file fs other = .ok path) : Unicode.lower file = Unicode.lower other := by
  have hplain : Path.IsPlain ⟨file⟩ := (Capitalization.file_eq_ok_iff.mp h).1
  have hplain' : Path.IsPlain ⟨other⟩ := (Capitalization.file_eq_ok_iff.mp h').1
  have hlower : (Path.components ⟨file⟩).map Component.lower
      = (Path.components ⟨other⟩).map Component.lower := by
    rw [← (Capitalization.resolves_of_file h).lower_components,
      ← (Capitalization.resolves_of_file h').lower_components]
  exact Path.lower_eq_of_isTidy hplain' hplain hother hfile (Path.isAbsolute_eq_of_lower_eq hlower)
    (Path.map_lower_names_of_lower_eq hplain hplain' hlower)

theorem unambiguous_of_isTidy (hkeyed : recorded.Keyed)
    (htidy : ∀ record ∈ recorded.toList, Path.IsTidy ⟨record.1⟩) :
    Unambiguous fs recorded candidates := by
  intro file checksum other second path hrecord hother hunmatched hunmatched'
  have hlower := lower_eq_of_resolved (htidy _ hrecord) (htidy _ hother) hunmatched.resolved
    hunmatched'.resolved
  have hsame := hkeyed.eq_of_lower_eq hrecord hother hlower
  rw [Prod.mk.injEq, Option.some.injEq] at hsame
  exact Ascii.equalIgnoringCase_iff.mpr (congrArg Ascii.lower hsame.2)

/-- **What is reported of unmatched records.** Every record that no candidate reproduces is reported
with its digest exactly when those of one path agree. They do when all recorded paths are tidy.
Otherwise a digest can be lost, but the path is reported with that of another such record. -/
theorem report_unmatched (fs : FileSystem) (recorded : ChecksumMap)
    (candidates : Option (List Path)) :
    (ReportsAll fs recorded candidates ↔ Unambiguous fs recorded candidates)
      ∧ (recorded.Keyed → (∀ record ∈ recorded.toList, Path.IsTidy ⟨record.1⟩) →
        ReportsAll fs recorded candidates)
      ∧ ∀ file checksum path, (file, some checksum) ∈ recorded.toList →
        Unmatched fs candidates file checksum path →
          ∃ other second, (other, some second) ∈ recorded.toList
            ∧ Unmatched fs candidates other second path
            ∧ (report fs recorded candidates).value[path]? = some (Ascii.lower second) := by
  refine ⟨reportsAll_iff, fun hkeyed htidy => ?_, fun file checksum path hrecord h => ?_⟩
  · exact reportsAll_iff.mpr (unambiguous_of_isTidy hkeyed htidy)
  · exact exists_unmatched hrecord h

/-- Two texts of one path with different digests: there is one place for both in the report. -/
theorem not_reportsAll :
    ∃ recorded,
      ChecksumMap.ofRecords
          [⟨"a//b.cs", some ⟨List.replicate 16 0, rfl⟩⟩,
            ⟨"a/b.cs", some ⟨List.replicate 16 0x11, rfl⟩⟩] = .ok recorded
        ∧ ¬ ReportsAll ⟨.directory [("a", .directory [("b.cs", .file .empty)])], []⟩ recorded none
    := by
  refine ⟨_, rfl, fun h => ?_⟩
  have hunmatched : ∀ file ∈ ["a//b.cs", "a/b.cs"], ∀ checksum,
      Unmatched ⟨.directory [("a", .directory [("b.cs", .file .empty)])], []⟩ none file checksum
        ⟨"a/b.cs"⟩ := by
    have hfound : ∀ file ∈ ["a//b.cs", "a/b.cs"], isIgnored file = false
        ∧ Capitalization.file ⟨.directory [("a", .directory [("b.cs", .file .empty)])], []⟩ file
          = .ok ⟨"a/b.cs"⟩ := by
      decide +kernel
    intro file hfile checksum
    exact ⟨by simp, (hfound file hfile).1, (hfound file hfile).2⟩
  have hagree := reportsAll_iff.mp h "a//b.cs" (Hex.encode (List.replicate 16 0)) "a/b.cs"
    (Hex.encode (List.replicate 16 0x11)) ⟨"a/b.cs"⟩ (by decide +kernel) (by decide +kernel)
    (hunmatched _ (by simp) _) (hunmatched _ (by simp) _)
  exact absurd hagree (by decide +kernel)

end Verification

end SourceServer
