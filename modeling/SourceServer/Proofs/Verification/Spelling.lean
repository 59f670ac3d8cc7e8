import Mathlib.Data.List.Forall2
import SourceServer.Link
import SourceServer.Proofs.Capitalization.CaseInsensitive
import SourceServer.Proofs.Checksum.Gathering
import SourceServer.Proofs.Path.Order
import SourceServer.Proofs.Unicode.Endings

/-!
# Whatever a file is called first

A map of records keeps the spelling of a path that came first. Where no directory has two entries
that agree up to case, this spelling decides nothing: whatever is looked up, passed over or reported
depends on the lower case of a path and on its digest.

- `ChecksumMap.foldl_toList_eq`: going through the files of two maps that know the same.
- `Verification.isIgnored_eq_of_lower_eq`: generated markup in every spelling.
- `mem_foldl_addIndexable_iff`, `mem_indexableFiles_iff`: the files to index.
- `indexableFiles_value_eq`, `Verification.report_value_eq`, `verifyRecorded_value_eq`: what maps
  that know the same lead to.
-/

namespace SourceServer

variable {fs : FileSystem} {m n : ChecksumMap} {a b : String × Option String} {path : Path}

/-- Going through the files of a map, with no regard to their spelling. -/
theorem ChecksumMap.foldl_toList_eq {β : Type} {f : β → String × Option String → β}
    (hknown : m.known = n.known)
    (hf : ∀ found a b, Unicode.lower a.1 = Unicode.lower b.1 → a.2 = b.2 → f found a = f found b)
    (found : β) : m.toList.foldl f found = n.toList.foldl f found := by
  have hpairs : List.Forall₂ (fun a b => Unicode.lower a.1 = Unicode.lower b.1 ∧ a.2 = b.2)
      m.toList n.toList := by
    rw [known, known, ← List.forall₂_eq_eq_eq, List.forall₂_map_left_iff,
      List.forall₂_map_right_iff] at hknown
    exact hknown.imp fun a b hab => Prod.mk.inj hab
  refine List.rel_foldl (P := Eq) ?_ rfl hpairs
  rintro found _ rfl a b ⟨hlower, hchecksum⟩
  exact hf found a b hlower hchecksum

/-- Whether a file is generated markup does not depend on its spelling. -/
theorem Verification.isIgnored_eq_of_lower_eq {file other : String}
    (hlower : Unicode.lower file = Unicode.lower other) : isIgnored file = isIgnored other :=
  Unicode.endsWithIgnoringCase_eq_of_lower_eq hlower (by decide)

/-- The files to index with one more recorded file. -/
def addIndexable (fs : FileSystem) (found : Std.TreeSet Path) (file : String × Option String) :
    Std.TreeSet Path :=
  if Verification.isIgnored file.1 then found
  else
    match Capitalization.file fs file.1 with
    | .ok path => found.insert path
    | .error _ => found

theorem indexableFiles_value :
    (indexableFiles fs m).value = (m.toList.foldl (addIndexable fs) ∅).toList := by
  simp only [indexableFiles, List.foldl_map, List.foldl_filter]
  congr 2
  funext found file
  rw [addIndexable]
  cases Verification.isIgnored file.1 <;> rfl

/-- One more recorded file is in the set when it is no markup and is found on disk. -/
theorem mem_addIndexable_iff {found : Std.TreeSet Path} {file : String × Option String} :
    path ∈ addIndexable fs found file
      ↔ path ∈ found ∨ (Verification.isIgnored file.1 = false
        ∧ ∃ q, Capitalization.file fs file.1 = .ok q ∧ q.components = path.components) := by
  rw [addIndexable]
  cases Verification.isIgnored file.1 with
  | true => simp
  | false =>
    cases Capitalization.file fs file.1 with
    | error cause => simp
    | ok q =>
      show path ∈ found.insert q ↔ _
      rw [Std.TreeSet.mem_insert, Path.compare_eq_iff, or_comm]
      simp

theorem mem_foldl_addIndexable_iff {files : List (String × Option String)}
    {found : Std.TreeSet Path} :
    path ∈ files.foldl (addIndexable fs) found
      ↔ path ∈ found ∨ ∃ file ∈ files, Verification.isIgnored file.1 = false
        ∧ ∃ q, Capitalization.file fs file.1 = .ok q ∧ q.components = path.components := by
  induction files generalizing found with
  | nil => simp
  | cons file rest ih =>
    rw [List.foldl_cons, ih, mem_addIndexable_iff]
    simp only [List.exists_mem_cons_iff, or_assoc]

theorem mem_toList_addIndexable {found : Std.TreeSet Path} {file : String × Option String}
    (h : path ∈ (addIndexable fs found file).toList) :
    path ∈ found.toList ∨ (Verification.isIgnored file.1 = false
      ∧ Capitalization.file fs file.1 = .ok path) := by
  rw [addIndexable] at h
  cases hignored : Verification.isIgnored file.1 with
  | true => exact .inl (by simpa [hignored] using h)
  | false =>
    cases hresolved : Capitalization.file fs file.1 with
    | error cause => exact .inl (by simpa [hignored, hresolved] using h)
    | ok q =>
      have h : path ∈ (found.insert q).toList := by simpa [hignored, hresolved] using h
      rcases Path.mem_toList_insert h with rfl | hfound
      · exact .inr ⟨rfl, rfl⟩
      · exact .inl hfound

theorem mem_toList_foldl_addIndexable {files : List (String × Option String)}
    {found : Std.TreeSet Path} (h : path ∈ (files.foldl (addIndexable fs) found).toList) :
    path ∈ found.toList ∨ ∃ file ∈ files, Verification.isIgnored file.1 = false
      ∧ Capitalization.file fs file.1 = .ok path := by
  induction files generalizing found with
  | nil => exact .inl h
  | cons file rest ih =>
    rw [List.foldl_cons] at h
    rcases ih h with hfound | ⟨other, hother, hfile⟩
    · rcases mem_toList_addIndexable hfound with hfound | hfile
      · exact .inl hfound
      · exact .inr ⟨file, List.mem_cons_self, hfile⟩
    · exact .inr ⟨other, List.mem_cons_of_mem file hother, hfile⟩

/-- The files to index are the recorded files that do not end like markup and are found on disk, as
the disk spells them. -/
theorem mem_indexableFiles_iff :
    path ∈ (indexableFiles fs m).value
      ↔ ∃ file ∈ m.toList, Verification.isIgnored file.1 = false
        ∧ Capitalization.file fs file.1 = .ok path := by
  rw [indexableFiles_value]
  have hheld : ∀ q, q ∈ (m.toList.foldl (addIndexable fs) ∅).toList →
      ∃ file ∈ m.toList, Verification.isIgnored file.1 = false
        ∧ Capitalization.file fs file.1 = .ok q := by
    intro q hq
    rcases mem_toList_foldl_addIndexable hq with hempty | hfile
    · exact absurd (Std.TreeSet.mem_of_mem_toList hempty) Std.TreeSet.not_mem_emptyc
    · exact hfile
  refine ⟨hheld path, fun ⟨file, hfile, hignored, hresolved⟩ => ?_⟩
  have hmem : path ∈ m.toList.foldl (addIndexable fs) ∅ :=
    mem_foldl_addIndexable_iff.mpr (.inr ⟨file, hfile, hignored, path, hresolved, rfl⟩)
  obtain ⟨q, hq, hcomponents⟩ := Path.mem_iff_exists_mem_toList.mp hmem
  -- the set goes by components, and a file on disk has one text for them
  obtain ⟨_, -, -, hresolved'⟩ := hheld q hq
  rwa [← Capitalization.eq_of_components_eq hresolved' hresolved hcomponents]

/-- The outcome of looking up a file, as far as it does not depend on the spelling. -/
theorem addIndexable_eq (hfs : fs.NoCaseTwins) (found : Std.TreeSet Path)
    (hlower : Unicode.lower a.1 = Unicode.lower b.1) :
    addIndexable fs found a = addIndexable fs found b := by
  rw [addIndexable, addIndexable, Verification.isIgnored_eq_of_lower_eq hlower]
  split
  · rfl
  · rcases Capitalization.file_cases_of_lower_eq hfs hlower with ⟨path, ha, hb⟩ | ⟨_, _, ha, hb⟩
    · rw [ha, hb]
    · rw [ha, hb]

/-- Maps that know the same lead to the same files to index. -/
theorem indexableFiles_value_eq (hfs : fs.NoCaseTwins) (hknown : m.known = n.known) :
    (indexableFiles fs m).value = (indexableFiles fs n).value := by
  rw [indexableFiles_value, indexableFiles_value,
    ChecksumMap.foldl_toList_eq hknown fun found a b hlower _ => addIndexable_eq hfs found hlower]

namespace Verification

/-- The report with the verdict on one more recorded file. -/
def addFile (fs : FileSystem) (candidates : Option CandidateDigests) (report : Mismatches)
    (file : String × Option String) : Mismatches :=
  addVerdict report (verdict fs candidates file.1 file.2)

theorem report_value {candidates : Option (List Path)} :
    (report fs m candidates).value
      = m.toList.foldl (addFile fs (candidates.map (CandidateDigests.ofFiles fs))) ∅ := by
  rw [report, verdicts, List.map_map, List.foldl_map]
  rfl

/-- What a report has on a file does not depend on its spelling. -/
theorem addFile_eq (hfs : fs.NoCaseTwins) (candidates : Option CandidateDigests)
    (report : Mismatches) (hlower : Unicode.lower a.1 = Unicode.lower b.1)
    (hchecksum : a.2 = b.2) : addFile fs candidates report a = addFile fs candidates report b := by
  rw [addFile, addFile, hchecksum]
  cases b.2 with
  | none => rfl
  | some checksum =>
    rw [verdict, verdict, isIgnored_eq_of_lower_eq hlower]
    split
    · rfl
    · split
      · rfl
      · rcases Capitalization.file_cases_of_lower_eq hfs hlower with ⟨path, ha, hb⟩ | ⟨_, _, ha, hb⟩
        · rw [ha, hb]
        · rw [ha, hb]
          rfl

/-- Maps that know the same are reported alike. -/
theorem report_value_eq (hfs : fs.NoCaseTwins) (hknown : m.known = n.known)
    (candidates : Option (List Path)) :
    (report fs m candidates).value = (report fs n candidates).value := by
  rw [report_value, report_value]
  exact ChecksumMap.foldl_toList_eq hknown
    (fun report _ _ hlower hchecksum => addFile_eq hfs _ report hlower hchecksum) ∅

end Verification

theorem verifyRecorded_value_eq (hfs : fs.NoCaseTwins) (hknown : m.known = n.known) :
    (verifyRecorded fs m).value = (verifyRecorded fs n).value := by
  rw [verifyRecorded, verifyRecorded, Logged.value_bind, Logged.value_bind,
    indexableFiles_value_eq hfs hknown, Verification.report_value_eq hfs hknown]

end SourceServer
