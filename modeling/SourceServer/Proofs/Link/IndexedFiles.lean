import SourceServer.Proofs.Link.Advisory
import SourceServer.Proofs.Verification.Report
import SourceServer.Proofs.Verification.Spelling

/-!
# Indexed files and reported files

Without given files, an index names the recorded files that are found on disk, each once and in the
order of paths. The report goes through the same records by itself and passes the same files over,
so it never names a file that the index leaves out.

- `Verification.isIgnored_iff`: the end of generated markup, spelled out.
- `indexableFiles_pairwise`, `keys_report_subset_indexableFiles`: the two lists for one map.
- `exists_chosen_of_link`: what a link that succeeds has chosen, rendered and written.
- `indexableFiles_cover`: the files of a map, its report, and the index that is written.
-/

namespace SourceServer

variable {fs after : FileSystem} {recorded : ChecksumMap} {job : Job} {remote : Remote}
  {revision : String} {options : LinkOptions} {now : Timestamp} {outcome : LinkOutcome}

/-! ## The files of a map -/

theorem Verification.isIgnored_iff {file : String} :
    isIgnored file = true ↔ ".xaml".toList <:+ (Ascii.lower file).toList := by
  have hending : ignoredEnding.toList.map Ascii.lowerChar = ".xaml".toList := by decide
  rw [isIgnored, Ascii.endsWithIgnoringCase, List.isSuffixOf_iff_suffix, hending,
    Ascii.toList_lower]

/-- The files to index stand in the order of paths, so no two are the same path. -/
theorem indexableFiles_pairwise (fs : FileSystem) (recorded : ChecksumMap) :
    (indexableFiles fs recorded).value.Pairwise
      fun p q => compare p.components q.components = .lt := by
  rw [indexableFiles_value]
  show List.Pairwise (fun p q : Path => compare p q = .lt) _
  exact Std.TreeSet.ordered_toList

theorem nodup_indexableFiles (fs : FileSystem) (recorded : ChecksumMap) :
    (indexableFiles fs recorded).value.Nodup := by
  refine (indexableFiles_pairwise fs recorded).imp fun {p q} hlt hsame => ?_
  rw [hsame, Std.ReflOrd.compare_self] at hlt
  cases hlt

/-- Whatever the candidates are, only files to index are reported: a record that is reported is no
markup and is found on disk, so its file is to be indexed. -/
theorem keys_report_subset_indexableFiles (fs : FileSystem) (recorded : ChecksumMap)
    (candidates : Option (List Path)) :
    (Verification.report fs recorded candidates).value.keys
      ⊆ (indexableFiles fs recorded).value := by
  intro path hpath
  obtain ⟨file, checksum, hrecord, hunmatched⟩ := Verification.mem_keys_report_iff.mp hpath
  exact mem_indexableFiles_iff.mpr
    ⟨(file, some checksum), hrecord, hunmatched.not_ignored, hunmatched.resolved⟩

/-- Verifying a map against its own files is a report with these as candidates. -/
theorem verifyRecorded_value (fs : FileSystem) (recorded : ChecksumMap) :
    (verifyRecorded fs recorded).value
      = (Verification.report fs recorded (some (indexableFiles fs recorded).value)).value := by
  rw [verifyRecorded, Logged.value_bind]

/-! ## The files of an index -/

/-- A link that succeeds has chosen files, rendered their index, and written it; the mismatches that
it reports are those that came with the files. -/
theorem exists_chosen_of_link
    (h : (link fs job remote revision options now).value = (after, .ok outcome)) :
    ∃ files text, (chosenFiles fs job options).result = .ok (files, outcome.mismatches)
      ∧ Index.render (indexContext remote revision files options now) = .ok text
      ∧ after.read (indexPath job.pdb) = .ok text.toUTF8 := by
  rw [link_value_eq_carryOut, carryOut_eq_ok] at h
  obtain ⟨text, hplan, hwrite⟩ := h
  rw [result_linkPlan] at hplan
  cases hnode : fs.node job.pdb with
  | error error =>
    rw [hnode] at hplan
    cases hplan
  | ok node =>
    cases hchosen : (chosenFiles fs job options).result with
    | error failure =>
      rw [hnode, hchosen] at hplan
      cases hplan
    | ok chosen =>
      obtain ⟨files, mismatches⟩ := chosen
      rw [hnode, hchosen] at hplan
      obtain ⟨_, hrender, hsame⟩ := planOf_eq_ok.mp hplan
      obtain ⟨rfl, rfl⟩ := LinkPlan.mk.inj hsame
      exact ⟨files, text, rfl, hrender, FileSystem.read_of_write hwrite⟩

/-- Without given files the recorded ones are chosen, and verified against themselves. -/
theorem chosenFiles_of_none {files : List Path} {mismatches : Mismatches}
    (hnone : job.compilables = none)
    (h : (chosenFiles fs job options).result = .ok (files, mismatches)) :
    ∃ recorded, (fileChecksums fs job).result = .ok recorded
      ∧ files = (indexableFiles fs recorded).value
      ∧ mismatches = if options.skipVerify then ∅ else (verifyRecorded fs recorded).value := by
  cases hskip : options.skipVerify with
  | true =>
    rw [result_chosenFiles_skipping hskip, prescribedFiles, hnone] at h
    cases hrecorded : (fileChecksums fs job).result with
    | error failure => rw [hrecorded] at h; cases h
    | ok recorded =>
      rw [hrecorded] at h
      obtain ⟨rfl, rfl⟩ := Prod.mk.inj (Except.ok.inj h)
      exact ⟨recorded, rfl, rfl, rfl⟩
  | false =>
    rw [result_chosenFiles_verifying hskip] at h
    cases hrecorded : (fileChecksums fs job).result with
    | error failure => rw [hrecorded] at h; cases h
    | ok recorded =>
      simp only [hrecorded, filesToIndex, hnone] at h
      obtain ⟨rfl, rfl⟩ := Prod.mk.inj (Except.ok.inj h)
      exact ⟨recorded, rfl, rfl, (verifyRecorded_value fs recorded).symm⟩

/-- **What is reported is indexed.** The files to index are the recorded files that do not end like
generated markup and are found on disk, as the disk spells them, strictly in the order of paths.
Every path that verifying the map against these files reports is one of them. So, where a symbol
file is linked without given files, everything that is reported has its entry in the index. -/
theorem indexableFiles_cover (fs : FileSystem) (recorded : ChecksumMap) :
    (indexableFiles fs recorded).value.Pairwise
        (fun p q => compare p.components q.components = .lt)
      ∧ (indexableFiles fs recorded).value.Nodup
      ∧ (∀ path, path ∈ (indexableFiles fs recorded).value
        ↔ ∃ file checksum, (file, checksum) ∈ recorded.toList
          ∧ ¬ ".xaml".toList <:+ (Ascii.lower file).toList
          ∧ Capitalization.file fs file = .ok path)
      ∧ (verifyRecorded fs recorded).value.keys ⊆ (indexableFiles fs recorded).value
      ∧ ∀ job remote revision options now after outcome, job.compilables = none →
        (link fs job remote revision options now).value = (after, .ok outcome) →
          ∃ found head, (fileChecksums fs job).result = .ok found
            ∧ after.read (indexPath job.pdb) = .ok (Index.textOf options.lineEnding
              (head ++ [Index.entriesHeader]
                ++ (indexableFiles fs found).value.map
                  (fun file => Index.entry remote.dialect (entryPaths remote options.root file))
                ++ [Index.terminator])).toUTF8
            ∧ outcome.mismatches
              = (if options.skipVerify then ∅ else (verifyRecorded fs found).value)
            ∧ outcome.mismatches.keys ⊆ (indexableFiles fs found).value := by
  have hreported : ∀ recorded,
      (verifyRecorded fs recorded).value.keys ⊆ (indexableFiles fs recorded).value := by
    intro recorded
    rw [verifyRecorded_value]
    exact keys_report_subset_indexableFiles fs recorded _
  refine ⟨indexableFiles_pairwise fs recorded, nodup_indexableFiles fs recorded, fun path => ?_,
    hreported recorded, fun job remote revision options now after outcome hnone hlink => ?_⟩
  · simp only [mem_indexableFiles_iff, ← Verification.isIgnored_iff, Bool.not_eq_true, Prod.exists]
  · obtain ⟨files, text, hchosen, hrender, hread⟩ := exists_chosen_of_link hlink
    obtain ⟨found, hfound, rfl, hmismatches⟩ := chosenFiles_of_none hnone hchosen
    obtain ⟨lines, hlines, htext⟩ := Index.render_eq_ok.mp hrender
    obtain ⟨head, -, rfl⟩ := Index.lines_eq_ok hlines
    refine ⟨found, head, hfound, ?_, hmismatches, ?_⟩
    · rw [hread, htext, Index.layout, paths_indexContext, List.map_map]
      rfl
    · rw [hmismatches]
      cases options.skipVerify with
      | true => exact List.nil_subset _
      | false => exact hreported found

/-- A slash comes before every character of a name, and all texts of a path are one file. -/
example :
    (ChecksumMap.ofRecords [⟨"a-b", none⟩, ⟨"a//b", none⟩, ⟨"A/b", none⟩, ⟨"a.XAML", none⟩]).map
        (fun recorded => (indexableFiles
          ⟨.directory [("a", .directory [("b", .file .empty)]), ("a-b", .file .empty),
            ("a.XAML", .file .empty)], []⟩ recorded).value)
      = .ok [⟨"a/b"⟩, ⟨"a-b"⟩] := by
  decide +kernel

end SourceServer
