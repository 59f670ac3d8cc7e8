import SourceServer.Proofs.Path.FileName
import SourceServer.Proofs.Verification.Report
import SourceServer.Proofs.Verification.Spelling

/-!
# Generated markup

Generated markup is to be kept out of reports and indexes, and it is known by the end of the recorded
text. What is reported and indexed is the path on disk. Its file name is that of the recorded text up
to case, but a text may go on behind its file name: with a slash at its end it names markup and does
not end like markup, so the file is not passed over.

- `Path.NamesMarkup`: a path whose file name is that of generated markup.
- `namesMarkup_iff_of_file`: markup keeps its name when it is found.
- `ReportsNoMarkup`, `IndexesNoMarkup`, `markup_excluded_iff`: when markup is kept out.
-/

namespace SourceServer

open Verification (isIgnored Unmatched)

/-- The file name of a path is that of generated markup. -/
def Path.NamesMarkup (p : Path) : Prop :=
  ∃ name, p.fileName? = some name ∧ isIgnored name = true

namespace Path

variable {p q : Path}

/-- Paths that agree up to case name markup together. -/
theorem NamesMarkup.of_lower_eq
    (hlower : q.components.map Component.lower = p.components.map Component.lower)
    (h : p.NamesMarkup) : q.NamesMarkup := by
  obtain ⟨name, hname, hmarkup⟩ := h
  rw [fileName?_eq_some_iff] at hname
  have hlast := congrArg List.getLast? hlower
  rw [List.getLast?_map, List.getLast?_map, hname, Option.map_some, Option.map_eq_some_iff] at hlast
  obtain ⟨last, hlast, hsame⟩ := hlast
  cases last with
  | name other =>
    refine ⟨other, fileName?_eq_some_iff.mpr hlast, ?_⟩
    rw [Verification.isIgnored_eq_of_lower_eq (Component.name.inj hsame)]
    exact hmarkup
  | root => cases hsame
  | here => cases hsame
  | up => cases hsame

/-- The end of a file name is one of the text, if the text ends with the file name. -/
theorem EndsInName.isIgnored (hp : p.EndsInName) (h : p.NamesMarkup) :
    isIgnored p.text = true := by
  obtain ⟨name, hname, hmarkup⟩ := h
  have hsuffix := (hp.suffix hname).map Ascii.lowerChar
  rw [Verification.isIgnored, Ascii.endsWithIgnoringCase, List.isSuffixOf_iff_suffix] at hmarkup ⊢
  exact hmarkup.trans hsuffix

end Path

variable {fs : FileSystem} {recorded : ChecksumMap} {candidates : Option (List Path)}
  {file : String} {path : Path}

/-- A file that is found is markup when its recorded text names markup. -/
theorem namesMarkup_iff_of_file (h : Capitalization.file fs file = .ok path) :
    path.NamesMarkup ↔ Path.NamesMarkup ⟨file⟩ := by
  have hlower := (Capitalization.resolves_of_file h).lower_components
  exact ⟨fun hpath => hpath.of_lower_eq hlower.symm, fun hfile => hfile.of_lower_eq hlower⟩

/-! ## When markup is kept out -/

/-- No path in a report names markup. -/
def ReportsNoMarkup (fs : FileSystem) (recorded : ChecksumMap) (candidates : Option (List Path)) :
    Prop :=
  ∀ entry ∈ (Verification.report fs recorded candidates).value.toList, ¬ entry.1.NamesMarkup

/-- No file to index names markup. -/
def IndexesNoMarkup (fs : FileSystem) (recorded : ChecksumMap) : Prop :=
  ∀ path ∈ (indexableFiles fs recorded).value, ¬ path.NamesMarkup

theorem reportsNoMarkup_iff :
    ReportsNoMarkup fs recorded candidates
      ↔ ∀ file checksum path, (file, some checksum) ∈ recorded.toList →
        Unmatched fs candidates file checksum path → ¬ Path.NamesMarkup ⟨file⟩ := by
  have hkeys : ReportsNoMarkup fs recorded candidates
      ↔ ∀ path ∈ (Verification.report fs recorded candidates).value.keys, ¬ path.NamesMarkup := by
    rw [ReportsNoMarkup, ← Std.TreeMap.map_fst_toList_eq_keys, List.forall_mem_map]
  rw [hkeys]
  constructor
  · intro h file checksum path hrecord hunmatched hfile
    exact h path (Verification.mem_keys_report_iff.mpr ⟨file, checksum, hrecord, hunmatched⟩)
      ((namesMarkup_iff_of_file hunmatched.resolved).mpr hfile)
  · intro h path hpath hmarkup
    obtain ⟨file, checksum, hrecord, hunmatched⟩ := Verification.mem_keys_report_iff.mp hpath
    exact h file checksum path hrecord hunmatched
      ((namesMarkup_iff_of_file hunmatched.resolved).mp hmarkup)

theorem indexesNoMarkup_iff :
    IndexesNoMarkup fs recorded
      ↔ ∀ file checksum path, (file, checksum) ∈ recorded.toList → isIgnored file = false →
        Capitalization.file fs file = .ok path → ¬ Path.NamesMarkup ⟨file⟩ := by
  constructor
  · intro h file checksum path hrecord hignored hresolved hfile
    exact h path (mem_indexableFiles_iff.mpr ⟨_, hrecord, hignored, hresolved⟩)
      ((namesMarkup_iff_of_file hresolved).mpr hfile)
  · intro h path hpath hmarkup
    obtain ⟨⟨file, checksum⟩, hrecord, hignored, hresolved⟩ := mem_indexableFiles_iff.mp hpath
    exact h file checksum path hrecord hignored hresolved
      ((namesMarkup_iff_of_file hresolved).mp hmarkup)

/-- **When generated markup is kept out.** No markup is reported exactly when no unmatched record
names markup, and none is indexed exactly when no recorded file does that is found on disk and does
not end like markup. Both are so when every recorded text ends with a name. -/
theorem markup_excluded_iff (fs : FileSystem) (recorded : ChecksumMap)
    (candidates : Option (List Path)) :
    (ReportsNoMarkup fs recorded candidates
        ↔ ∀ file checksum path, (file, some checksum) ∈ recorded.toList →
          Unmatched fs candidates file checksum path → ¬ Path.NamesMarkup ⟨file⟩)
      ∧ (IndexesNoMarkup fs recorded
        ↔ ∀ file checksum path, (file, checksum) ∈ recorded.toList → isIgnored file = false →
          Capitalization.file fs file = .ok path → ¬ Path.NamesMarkup ⟨file⟩)
      ∧ ((∀ file ∈ recorded.toList, Path.EndsInName ⟨file.1⟩) →
        ReportsNoMarkup fs recorded candidates ∧ IndexesNoMarkup fs recorded) := by
  refine ⟨reportsNoMarkup_iff, indexesNoMarkup_iff, fun hnames => ?_⟩
  have hmarkup : ∀ file checksum, (file, checksum) ∈ recorded.toList → isIgnored file = false →
      ¬ Path.NamesMarkup ⟨file⟩ := by
    intro file checksum hrecord hignored hfile
    rw [(hnames (file, checksum) hrecord).isIgnored hfile] at hignored
    cases hignored
  constructor
  · rw [reportsNoMarkup_iff]
    intro file checksum path hrecord hunmatched
    exact hmarkup file _ hrecord hunmatched.not_ignored
  · rw [indexesNoMarkup_iff]
    intro file checksum path hrecord hignored _
    exact hmarkup file checksum hrecord hignored

/-- A recorded text with a slash behind its file name: the markup on disk is reported and indexed. -/
theorem not_markup_excluded :
    ∃ recorded,
      ChecksumMap.ofRecords [⟨"View.xaml/", some ⟨List.replicate 16 0, rfl⟩⟩] = .ok recorded
        ∧ ¬ ReportsNoMarkup ⟨.directory [("View.xaml", .file .empty)], []⟩ recorded none
        ∧ ¬ IndexesNoMarkup ⟨.directory [("View.xaml", .file .empty)], []⟩ recorded := by
  have hmarkup : Path.NamesMarkup ⟨"View.xaml"⟩ := ⟨"View.xaml", by decide +kernel⟩
  refine ⟨_, rfl, fun h => ?_, fun h => ?_⟩
  · exact h (⟨"View.xaml"⟩, Hex.encode (List.replicate 16 0)) (by decide +kernel) hmarkup
  · exact h ⟨"View.xaml"⟩ (by decide +kernel) hmarkup

end SourceServer
