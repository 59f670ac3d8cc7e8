import SourceServer.Proofs.Checksum.Streams
import SourceServer.Proofs.FileSystem.Entries
import SourceServer.Proofs.Verification.Spelling

/-!
# The order of streams

The streams of a symbol file have no order that means anything. It decides which spelling of a path
a map of records keeps, and where no directory has two entries that agree up to case, it decides
nothing else.

- `StreamDirectory.checksums`: what a stream directory records.
- `checksums_cases`: what the same streams in another order record.
- `LeadAlike`, `streamOrder_irrelevant`: what they lead to.
-/

namespace SourceServer

/-- What a stream directory records: its records, gathered. -/
def StreamDirectory.checksums (streams : StreamDirectory Failure) : Except Failure ChecksumMap := do
  let records ← (ChecksumStreams.records streams).result
  (ChecksumMap.ofRecords records).mapError .conflict

/-! ## The same streams in another order -/

variable {fs : FileSystem} {first second : StreamDirectory Failure}

/-- The same streams are refused together or lead to maps that know the same. -/
theorem checksums_cases (h : SameStreams first second) :
    (∃ conflict conflict', first.checksums = .error (.conflict conflict)
        ∧ second.checksums = .error (.conflict conflict'))
      ∨ ∃ m n, first.checksums = .ok m ∧ second.checksums = .ok n ∧ n.known = m.known := by
  obtain ⟨before, after, hbefore, hafter, hperm⟩ := ChecksumStreams.records_perm h
  have hfirst : first.checksums = (ChecksumMap.ofRecords before).mapError .conflict := by
    rw [StreamDirectory.checksums, hbefore]
    rfl
  have hsecond : second.checksums = (ChecksumMap.ofRecords after).mapError .conflict := by
    rw [StreamDirectory.checksums, hafter]
    rfl
  rw [hfirst, hsecond]
  have hboth : (∃ n, ChecksumMap.ofRecords after = .ok n) ↔ ∃ m, ChecksumMap.ofRecords before = .ok m
      := by
    rw [ChecksumMap.exists_ofRecords_iff, ChecksumMap.exists_ofRecords_iff,
      ChecksumMap.consistent_perm hperm]
  cases hm : ChecksumMap.ofRecords before with
  | ok m =>
    obtain ⟨n, hn⟩ := hboth.mpr ⟨m, hm⟩
    obtain ⟨hgathers, hconsistent⟩ := ChecksumMap.gathers_of_ofRecords hm
    obtain ⟨hgathers', -⟩ := ChecksumMap.gathers_of_ofRecords hn
    rw [hn]
    exact .inr ⟨m, n, rfl, rfl, hgathers.known_perm hperm hconsistent hgathers'⟩
  | error conflict =>
    cases hn : ChecksumMap.ofRecords after with
    | ok n =>
      obtain ⟨m, hm'⟩ := hboth.mp ⟨n, hn⟩
      rw [hm] at hm'
      cases hm'
    | error conflict' => exact .inl ⟨conflict, conflict', rfl, rfl⟩

/-- Two symbol files that are both refused for a contradiction, or that both lead to the same files to
index, the same mismatches and the same indexes. -/
inductive LeadAlike (fs : FileSystem) : Except Failure ChecksumMap → Except Failure ChecksumMap → Prop
  | refused (conflict conflict' : ChecksumConflict) :
      LeadAlike fs (.error (.conflict conflict)) (.error (.conflict conflict'))
  | mapped {m n : ChecksumMap}
      (hfiles : (indexableFiles fs n).value = (indexableFiles fs m).value)
      (hmismatches : (verifyRecorded fs n).value = (verifyRecorded fs m).value)
      (hindex : ∀ remote revision options now,
        Index.render (indexContext remote revision (indexableFiles fs n).value options now)
          = Index.render (indexContext remote revision (indexableFiles fs m).value options now)) :
      LeadAlike fs (.ok m) (.ok n)

/-- **The order of the streams has no influence.** In a file system where no directory has two
entries that agree up to case, two directories that list the same readable streams lead to the
same. -/
theorem streamOrder_irrelevant (hfs : fs.NoCaseTwins) (h : SameStreams first second) :
    LeadAlike fs first.checksums second.checksums := by
  rcases checksums_cases h with
    ⟨conflict, conflict', hfirst, hsecond⟩ | ⟨m, n, hfirst, hsecond, hknown⟩
  · rw [hfirst, hsecond]
    exact .refused conflict conflict'
  · have hfiles := indexableFiles_value_eq hfs hknown
    rw [hfirst, hsecond]
    refine .mapped hfiles (verifyRecorded_value_eq hfs hknown) fun remote revision options now => ?_
    rw [hfiles]

/-- Two spellings of one path, with a sigma at the end of a word: each order keeps another one. -/
theorem streamOrder_irrelevant_sigma :
    ∃ (fs : FileSystem) (first second : StreamDirectory Failure), fs.NoCaseTwins
      ∧ SameStreams first second
      ∧ first.checksums.toOption.map ChecksumMap.toList
        ≠ second.checksums.toOption.map ChecksumMap.toList
      ∧ LeadAlike fs first.checksums second.checksums := by
  let fs : FileSystem :=
    ⟨.directory [("w", .directory [("Οδος", .directory [("b.cs", .file .empty)])])], ["w"]⟩
  let first : StreamDirectory Failure :=
    ⟨.ok ["/src/files/ΟΔΟΣ/b.cs", "/src/files/οδος/B.CS"], fun _ => .ok (List.replicate 88 0)⟩
  let second : StreamDirectory Failure :=
    ⟨.ok ["/src/files/οδος/B.CS", "/src/files/ΟΔΟΣ/b.cs"], fun _ => .ok (List.replicate 88 0)⟩
  have htwins : fs.NoCaseTwins := FileSystem.noCaseTwins_of_directories (by decide +kernel)
  have hsame : SameStreams first second :=
    { listed := ⟨_, _, rfl, rfl, List.Perm.swap _ _ _⟩
      read := fun _ _ _ _ => ⟨_, rfl, rfl⟩ }
  have hkept : first.checksums.toOption.map ChecksumMap.toList
      ≠ second.checksums.toOption.map ChecksumMap.toList := by
    decide +kernel
  exact ⟨fs, first, second, htwins, hsame, hkept, streamOrder_irrelevant htwins hsame⟩

end SourceServer
