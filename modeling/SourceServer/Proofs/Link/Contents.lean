import SourceServer.Proofs.Checksum.Gathering
import SourceServer.Proofs.FileSystem.Outline
import SourceServer.Proofs.Link.Advisory
import SourceServer.Proofs.Link.Apart

/-!
# Linking without a look at contents

A listing stands in for the symbol file, and given files with nothing to verify leave nothing to
ask it. Candidates are still hashed when a listing is verified, and the symbol file may be among
them, but a listing records no digests that a hash could be compared with. So the plan of such a job
is that of a file system with empty files, and contents have no way into an index or a report.

- `Job.NeedsNoContent`: the jobs that ask no file for its content.
- `ChecksumMap.Unverifiable`, `unverifiable_of_listing`: listings record no digests.
- `linkPlan_outline`: such a job has the same plan over empty files.
- `link_ignores_contents`: linking over two file systems that differ in one content.
-/

namespace SourceServer

/-- The jobs that ask no file for its content: those with a listing, and those with given files and
nothing to verify. -/
def Job.NeedsNoContent (job : Job) (options : LinkOptions) : Prop :=
  job.listing.isSome ∨ (job.compilables.isSome ∧ options.skipVerify = true)

/-- No file of a map has a digest. -/
def ChecksumMap.Unverifiable (m : ChecksumMap) : Prop :=
  ∀ file ∈ m.toList, file.2 = none

variable {fs : FileSystem} {job : Job} {remote : Remote} {revision : String}
  {options : LinkOptions} {now : Timestamp}

/-! ## Listings -/

theorem digest_of_listing (fs : FileSystem) (listing : String) :
    ∀ record ∈ (listingRecords fs listing).value, record.digest = none := by
  intro record hrecord
  obtain ⟨outcome, -, heq⟩ := List.mem_filterMap.mp hrecord
  cases outcome with
  | error cause => cases heq
  | ok path =>
    rw [← Option.some.inj heq]

namespace ChecksumMap

/-- Records without digests are gathered, whatever their paths are, and nothing can be verified
against them. -/
theorem ofRecords_of_digest_eq_none {records : List ChecksumRecord}
    (h : ∀ r ∈ records, r.digest = none) :
    ∃ m, ofRecords records = .ok m ∧ m.Unverifiable := by
  have hconsistent : Consistent records := by
    rw [consistent_iff]
    rintro ⟨a, ha, b, -, -, d, e, hd, -⟩
    rw [h a ha] at hd
    cases hd
  obtain ⟨m, hm⟩ := exists_ofRecords_iff.mpr hconsistent
  refine ⟨m, hm, ?_⟩
  rintro ⟨file, checksum⟩ hfile
  obtain ⟨key, -, hdigest⟩ := (gathers_of_ofRecords hm).1.mem_toList_iff.mp hfile
  have hnone : firstDigest? records key = none := by
    rw [firstDigest?_eq_none]
    intro r hr _
    exact h r hr
  rw [hnone] at hdigest
  exact hdigest.symm

end ChecksumMap

/-- With a listing there is always something recorded, and never a digest. -/
theorem unverifiable_of_listing (fs : FileSystem) (hlisting : job.listing.isSome) :
    ∃ recorded, (fileChecksums fs job).result = .ok recorded ∧ recorded.Unverifiable := by
  obtain ⟨listing, hlisting⟩ := Option.isSome_iff_exists.mp hlisting
  obtain ⟨recorded, hrecorded, hunverifiable⟩ :=
    ChecksumMap.ofRecords_of_digest_eq_none (digest_of_listing fs listing)
  have hrecords : (fileRecords fs job).result = .ok (listingRecords fs listing).value := by
    rw [fileRecords, hlisting]
    exact Task.result_lift _
  exact ⟨recorded, fileChecksums_eq_ok.mpr ⟨_, hrecords, hrecorded⟩, hunverifiable⟩

/-! ## Reports without digests -/

namespace CandidateDigests

/-- A candidate that cannot be read cannot be read in the outline either, for the same reason. -/
theorem unreadable_outline (fs : FileSystem) (files : List Path) :
    unreadable fs.outline files = unreadable fs files := by
  refine List.filterMap_congr fun file _ => ?_
  rw [fileDigest, fileDigest, FileSystem.read_outline]
  cases fs.read file <;> rfl

end CandidateDigests

namespace Verification

/-- Without digests, all that verification does is to complain of candidates. -/
theorem report_of_unverifiable {recorded : ChecksumMap} (h : recorded.Unverifiable)
    (fs : FileSystem) (files : List Path) :
    report fs recorded (some files) = ⟨∅, CandidateDigests.unreadable fs files⟩ := by
  have hverdicts : ∀ candidates, verdicts fs recorded candidates
      = recorded.toList.map fun file => (file.1, .unrecorded) := by
    intro candidates
    refine List.map_congr_left fun file hfile => ?_
    show (file.1, verdict fs candidates file.1 file.2) = (file.1, .unrecorded)
    rw [h file hfile, verdict]
  have hnothing : ∀ files : List (String × Option String),
      (files.map fun _ => Verdict.unrecorded).foldl addVerdict ∅ = ∅ := by
    intro files
    induction files with
    | nil => rfl
    | cons file rest ih => exact ih
  rw [report, hverdicts]
  simp only [List.map_map, Function.comp_def, hnothing, List.flatMap_map, events]
  simp

end Verification

/-! ## The plan over empty files -/

theorem listingRecords_outline (fs : FileSystem) (listing : String) :
    listingRecords fs.outline listing = listingRecords fs listing := by
  rw [listingRecords, listingRecords, Capitalization.file_outline]

theorem fileChecksums_outline (hlisting : job.listing.isSome) :
    fileChecksums fs.outline job = fileChecksums fs job := by
  obtain ⟨listing, hlisting⟩ := Option.isSome_iff_exists.mp hlisting
  rw [fileChecksums, fileChecksums, fileRecords, fileRecords, hlisting]
  dsimp only
  rw [listingRecords_outline]

theorem filesToIndex_outline (fs : FileSystem) (job : Job) (recorded : ChecksumMap) :
    filesToIndex fs.outline job recorded = filesToIndex fs job recorded := by
  rw [filesToIndex, filesToIndex, indexableFiles, indexableFiles, Capitalization.file_outline]

theorem verifiedAgainst_outline {recorded : ChecksumMap} (h : recorded.Unverifiable)
    (fs : FileSystem) (options : LinkOptions) (files : List Path) :
    verifiedAgainst fs.outline options recorded files
      = verifiedAgainst fs options recorded files := by
  rw [verifiedAgainst, verifiedAgainst, Verification.report_of_unverifiable h,
    Verification.report_of_unverifiable h, CandidateDigests.unreadable_outline]

/-- The same files are chosen, with the same complaints. -/
theorem chosenFiles_outline (h : job.NeedsNoContent options) :
    chosenFiles fs.outline job options = chosenFiles fs job options := by
  have hchecked : job.listing.isSome →
      checkedFiles fs.outline job options = checkedFiles fs job options := by
    intro hlisting
    obtain ⟨recorded, hrecorded, hunverifiable⟩ := unverifiable_of_listing fs hlisting
    rw [checkedFiles, checkedFiles, fileChecksums_outline hlisting]
    refine Task.bind_congr fun found hfound => ?_
    obtain rfl : recorded = found := Except.ok.inj (hrecorded.symm.trans hfound)
    simp only [filesToIndex_outline, verifiedAgainst_outline hunverifiable]
  rcases h with hlisting | ⟨hcompilables, hskip⟩
  · rw [chosenFiles, chosenFiles, hchecked hlisting]
  · obtain ⟨files, hcompilables⟩ := Option.isSome_iff_exists.mp hcompilables
    rw [chosenFiles, chosenFiles, hcompilables, hskip]

/-- Nothing is reported. -/
theorem mismatches_of_chosenFiles (h : job.NeedsNoContent options) {files : List Path}
    {mismatches : Mismatches} (hchosen : (chosenFiles fs job options).result
      = .ok (files, mismatches)) : mismatches = ∅ := by
  cases hskip : options.skipVerify with
  | true =>
    rw [result_chosenFiles_skipping hskip] at hchosen
    cases hfiles : prescribedFiles fs job with
    | error failure =>
      rw [hfiles] at hchosen
      cases hchosen
    | ok prescribed =>
      rw [hfiles] at hchosen
      exact (Prod.mk.inj (Except.ok.inj hchosen)).2.symm
  | false =>
    have hlisting : job.listing.isSome := by
      rcases h with hlisting | ⟨-, hother⟩
      · exact hlisting
      · rw [hother] at hskip
        cases hskip
    obtain ⟨recorded, hrecorded, hunverifiable⟩ := unverifiable_of_listing fs hlisting
    rw [result_chosenFiles_verifying hskip, hrecorded] at hchosen
    have hreport := (Prod.mk.inj (Except.ok.inj hchosen)).2
    rw [← hreport, Verification.report_of_unverifiable hunverifiable]

/-- A job that needs no content has the same plan over empty files. -/
theorem linkPlan_outline (h : job.NeedsNoContent options) :
    linkPlan fs.outline job remote revision options now
      = linkPlan fs job remote revision options now := by
  have hnode : ((fs.outline.node job.pdb).mapError (Failure.io job.pdb)).map (fun _ => ())
      = ((fs.node job.pdb).mapError (Failure.io job.pdb)).map fun _ => () := by
    rw [FileSystem.node_outline]
    cases fs.node job.pdb <;> rfl
  rw [linkPlan, linkPlan, chosenFiles_outline h]
  exact Task.bind_congr fun _ _ => Task.ofExcept_bind_const hnode

/-! ## Two runs -/

theorem mismatches_of_linkPlan (h : job.NeedsNoContent options) {plan : LinkPlan}
    (hplan : (linkPlan fs job remote revision options now).result = .ok plan) :
    plan.outcome.mismatches = ∅ := by
  rw [result_linkPlan] at hplan
  cases hnode : fs.node job.pdb with
  | error error =>
    rw [hnode] at hplan
    cases hplan
  | ok node =>
    cases hchosen : (chosenFiles fs job options).result with
    | error failure =>
      rw [hnode, hchosen] at hplan
      cases hplan
    | ok chosen =>
      obtain ⟨files, mismatches⟩ := chosen
      obtain rfl := mismatches_of_chosenFiles h hchosen
      rw [hnode, hchosen] at hplan
      simp only [planOf] at hplan
      cases hrender : Index.render (indexContext remote revision files options now) with
      | error fault =>
        rw [hrender] at hplan
        cases hplan
      | ok text =>
        rw [hrender] at hplan
        rw [← Except.ok.inj hplan]

/-- What is logged is what the plan logs, and the index if there is one. -/
theorem link_events (fs : FileSystem) (job : Job) (remote : Remote) (revision : String)
    (options : LinkOptions) (now : Timestamp) :
    (link fs job remote revision options now).events
      = (linkPlan fs job remote revision options now).events
        ++ match (link fs job remote revision options now).value.2 with
          | .error _ => []
          | .ok outcome => [.createdIndex outcome.index] := by
  rw [link]
  cases (linkPlan fs job remote revision options now).result with
  | error failure => simp
  | ok plan =>
    dsimp only
    cases fs.write plan.outcome.index plan.text.toUTF8 <;> simp

/-- One plan carried out over two file systems that differ in one content. -/
theorem carryOut_of_differAt {place : List String} {before after : FileSystem}
    (h : FileSystem.DifferAt place before after) (plan : Except Failure LinkPlan) :
    (carryOut after plan).2 = (carryOut before plan).2
      ∧ FileSystem.DifferAt place (carryOut before plan).1 (carryOut after plan).1
      ∧ ∀ outcome, (carryOut before plan).2 = .ok outcome →
        ∃ text, plan = .ok ⟨text, outcome⟩
          ∧ (carryOut before plan).1.read outcome.index = .ok text.toUTF8
          ∧ (carryOut after plan).1.read outcome.index = .ok text.toUTF8 := by
  cases plan with
  | error failure => exact ⟨rfl, h, by simp [carryOut]⟩
  | ok plan =>
    obtain ⟨text, outcome⟩ := plan
    rw [carryOut, carryOut]
    rcases h.write_cases outcome.index text.toUTF8
      with ⟨error, hbefore, hafter⟩ | ⟨written, written', hbefore, hafter, hwritten⟩
    · rw [hbefore, hafter]
      exact ⟨rfl, h, by simp⟩
    · rw [hbefore, hafter]
      refine ⟨rfl, hwritten, ?_⟩
      rintro _ ⟨⟩
      exact ⟨text, rfl, FileSystem.read_of_write hbefore, FileSystem.read_of_write hafter⟩

/-- **Contents stay out of the index and of the report.** When two file systems differ in the
content of one file, such as the symbol file, a job with a listing, or with given files and nothing
to verify, ends alike in both and logs the same. Where it succeeds, the same index stands at the
same place and nothing is reported; there is no other difference afterwards. With a listing the same
files are recorded, and always without digests. -/
theorem link_ignores_contents {place : List String} {before after : FileSystem}
    (h : FileSystem.DifferAt place before after) (hjob : job.NeedsNoContent options)
    (remote : Remote) (revision : String) (now : Timestamp) :
    let first := link before job remote revision options now
    let second := link after job remote revision options now
    second.value.2 = first.value.2
      ∧ second.events = first.events
      ∧ FileSystem.DifferAt place first.value.1 second.value.1
      ∧ (∀ outcome, first.value.2 = .ok outcome →
        outcome.mismatches = ∅
          ∧ ∃ index, first.value.1.read outcome.index = .ok index
            ∧ second.value.1.read outcome.index = .ok index)
      ∧ (job.listing.isSome →
        ∃ recorded, (fileChecksums before job).result = .ok recorded
          ∧ (fileChecksums after job).result = .ok recorded ∧ recorded.Unverifiable) := by
  intro first second
  have hplan : linkPlan after job remote revision options now
      = linkPlan before job remote revision options now := by
    rw [← linkPlan_outline hjob, h.outline_eq, linkPlan_outline hjob]
  have hfirst : first.value = _ := link_value_eq_carryOut
  have hsecond : second.value = _ := link_value_eq_carryOut
  rw [hplan] at hsecond
  obtain ⟨hresult, hdiffer, hwritten⟩ :=
    carryOut_of_differAt h (linkPlan before job remote revision options now).result
  rw [← hfirst, ← hsecond] at hresult hdiffer hwritten
  refine ⟨hresult, ?events, hdiffer, ?success, ?listing⟩
  case events =>
    have hlogged : second.events = _ := link_events after job remote revision options now
    rw [hplan] at hlogged
    rw [hlogged, hresult]
    exact (link_events before job remote revision options now).symm
  case success =>
    intro outcome houtcome
    obtain ⟨text, hmade, hindex, hindex'⟩ := hwritten outcome houtcome
    exact ⟨mismatches_of_linkPlan hjob hmade, text.toUTF8, hindex, hindex'⟩
  case listing =>
    intro hlisting
    obtain ⟨recorded, hrecorded, hunverifiable⟩ := unverifiable_of_listing before hlisting
    refine ⟨recorded, hrecorded, ?_, hunverifiable⟩
    rw [← fileChecksums_outline hlisting, h.outline_eq, fileChecksums_outline hlisting, hrecorded]

/-- A symbol file that is a candidate itself and is named by the listing, with two contents: it is
hashed in both runs, which index it alike and report nothing. -/
theorem link_ignores_contents_of_candidate :
    ∃ (before after : FileSystem) (job : Job) (options : LinkOptions) (remote : Remote)
      (now : Timestamp) (outcome : LinkOutcome),
      FileSystem.DifferAt ["a.pdb"] before after ∧ before.read job.pdb ≠ after.read job.pdb
        ∧ job.compilables = some [job.pdb] ∧ options.skipVerify = false
        ∧ job.NeedsNoContent options
        ∧ (link before job remote "deadbeef" options now).value.2 = .ok outcome
        ∧ (link after job remote "deadbeef" options now).value.2 = .ok outcome
        ∧ outcome.mismatches = ∅ := by
  let before : FileSystem := ⟨.directory [("a.pdb", .file ⟨#[1]⟩)], []⟩
  let after : FileSystem := { before with root := before.root.put ["a.pdb"] (.file ⟨#[2]⟩) }
  let job : Job := ⟨⟨"a.pdb"⟩, some [⟨"a.pdb"⟩], some "a.pdb\nmain.cs\n"⟩
  let options : LinkOptions := ⟨⟨""⟩, false, false, .lf⟩
  let remote : Remote := ⟨.gitDaemon, "git://h/\x7b0\x7d/%var2%"⟩
  let now : Timestamp := ⟨2024, 3, 5, 14, 7, 9⟩
  have hdiffer : FileSystem.DifferAt ["a.pdb"] before after := FileSystem.DifferAt.of_put rfl _
  have hjob : job.NeedsNoContent options := .inl rfl
  obtain ⟨hsame, -, -, hsuccess, -⟩ := link_ignores_contents hdiffer hjob remote "deadbeef" now
  have hlinked : (link before job remote "deadbeef" options now).value.2.toOption.isSome = true := by
    decide +kernel
  cases houtcome : (link before job remote "deadbeef" options now).value.2 with
  | error failure =>
    rw [houtcome] at hlinked
    cases hlinked
  | ok outcome =>
    refine ⟨before, after, job, options, remote, now, outcome, hdiffer, by decide +kernel, rfl, rfl,
      hjob, houtcome, ?_, (hsuccess outcome houtcome).1⟩
    rw [hsame, houtcome]

end SourceServer
