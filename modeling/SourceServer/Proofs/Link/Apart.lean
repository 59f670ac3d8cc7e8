import Mathlib.Data.List.Basic
import SourceServer.Proofs.Capitalization.Apart
import SourceServer.Proofs.Checksum.Map
import SourceServer.Proofs.Link.Effect
import SourceServer.Proofs.Verification.Spelling

/-!
# Linking next to outputs

A job reads its symbol file, the files it was given, and the files that are recorded. When none of
these paths passes an output, everything up to writing is the same whatever outputs lie around: the
plan, its failure, and what is logged on the way.

- `readPaths`: the paths that a job reads.
- `Verification.report_eq`, `indexableFiles_eq`, `fileChecksums_eq`: the parts of linking.
- `linkPlan_eq`: the plan of a job.
-/

namespace SourceServer

open FileSystem (Apart SameBut)

/-- The paths that are recorded for a job: those that the listing names, otherwise those that the
symbol file records. -/
def recordedPaths (fs : FileSystem) (job : Job) : List Path :=
  match job.listing with
  | some listing =>
    (((Lines.lines listing).map Unicode.trim).filter (· ≠ "")).map fun line => ⟨line⟩
  | none =>
    match (fileRecords fs job).result with
    | .ok records => records.map fun record => ⟨record.path⟩
    | .error _ => []

/-- The paths that a job reads. -/
def readPaths (fs : FileSystem) (job : Job) : List Path :=
  job.pdb :: job.compilables.getD [] ++ recordedPaths fs job

namespace Task

variable {ε α β : Type}

/-- Two tasks that go on alike from wherever the first part succeeds. -/
theorem bind_congr {t : Task ε α} {f g : α → Task ε β}
    (h : ∀ a, t.result = .ok a → f a = g a) : t >>= f = t >>= g := by
  have hcont : ExceptT.bindCont f t.run.value = ExceptT.bindCont g t.run.value := by
    cases hvalue : t.run.value with
    | error e => rfl
    | ok a => exact h a hvalue
  show Logged.mk (ExceptT.bindCont f t.run.value).value
      (t.run.events ++ (ExceptT.bindCont f t.run.value).events)
    = Logged.mk (ExceptT.bindCont g t.run.value).value
      (t.run.events ++ (ExceptT.bindCont g t.run.value).events)
  rw [hcont]

/-- A check whose result is not used goes on alike when it fails alike. -/
theorem ofExcept_bind_const {α' : Type} {x : Except ε α} {y : Except ε α'} {next : Task ε β}
    (h : x.map (fun _ => ()) = y.map fun _ => ()) :
    (ofExcept x >>= fun _ => next) = ofExcept y >>= fun _ => next := by
  cases x with
  | error e =>
    cases y with
    | error e' => rw [Except.error.inj h]; rfl
    | ok b => cases h
  | ok a =>
    cases y with
    | error e => cases h
    | ok b => rfl

end Task

section Apart

variable {outputs : String → Bool} {before after : FileSystem}

/-! ## Hashing -/

theorem fileDigest_eq (h : SameBut outputs before after) {path : Path}
    (hpath : Apart outputs path) : fileDigest after path = fileDigest before path := by
  rw [fileDigest, fileDigest, h.read_eq hpath]

namespace CandidateDigests

theorem ofFiles_eq (h : SameBut outputs before after) {files : List Path}
    (hfiles : ∀ file ∈ files, Apart outputs file) : ofFiles after files = ofFiles before files := by
  rw [ofFiles, ofFiles]
  refine List.foldl_ext _ _ _ fun digests file hfile => ?_
  rw [add, add, fileDigest_eq h (hfiles file hfile)]

theorem unreadable_eq (h : SameBut outputs before after) {files : List Path}
    (hfiles : ∀ file ∈ files, Apart outputs file) :
    unreadable after files = unreadable before files := by
  rw [unreadable, unreadable]
  refine List.filterMap_congr fun file hfile => ?_
  rw [fileDigest_eq h (hfiles file hfile)]

end CandidateDigests

namespace Verification

theorem verdict_eq (h : SameBut outputs before after) (hcase : OutputsUpToCase outputs)
    (candidates : Option CandidateDigests) {file : String} (hfile : Apart outputs ⟨file⟩)
    (checksum : Option String) :
    verdict after candidates file checksum = verdict before candidates file checksum := by
  cases checksum with
  | none => rfl
  | some checksum => simp only [verdict, (Capitalization.file_eq h hcase hfile).1]

/-- Verification reads the candidates and spells the recorded files. -/
theorem report_eq (h : SameBut outputs before after) (hcase : OutputsUpToCase outputs)
    {recorded : ChecksumMap} (hrecorded : ∀ file ∈ recorded.toList, Apart outputs ⟨file.1⟩)
    {files : List Path} (hfiles : ∀ file ∈ files, Apart outputs file) :
    report after recorded (some files) = report before recorded (some files) := by
  have hverdicts : ∀ candidates,
      verdicts after recorded candidates = verdicts before recorded candidates := by
    intro candidates
    refine List.map_congr_left fun file hfile => ?_
    exact congrArg (Prod.mk file.1) (verdict_eq h hcase candidates (hrecorded file hfile) file.2)
  simp only [report, Option.map_some, CandidateDigests.ofFiles_eq h hfiles,
    CandidateDigests.unreadable_eq h hfiles, hverdicts]

end Verification

/-! ## Recorded files -/

theorem resolved_eq (h : SameBut outputs before after) (hcase : OutputsUpToCase outputs)
    {texts : List String} (htexts : ∀ text ∈ texts, Apart outputs ⟨text⟩) :
    texts.map (Capitalization.file after) = texts.map (Capitalization.file before)
      ∧ ∀ path, .ok path ∈ texts.map (Capitalization.file before) → Apart outputs path := by
  constructor
  · exact List.map_congr_left fun text htext =>
      (Capitalization.file_eq h hcase (htexts text htext)).1
  · intro path hpath
    obtain ⟨text, htext, hfile⟩ := List.mem_map.mp hpath
    exact (Capitalization.file_eq h hcase (htexts text htext)).2 path hfile

/-- A listing names the same files, and these pass no output. -/
theorem listingRecords_eq (h : SameBut outputs before after) (hcase : OutputsUpToCase outputs)
    {listing : String}
    (hlines : ∀ line ∈ ((Lines.lines listing).map Unicode.trim).filter (· ≠ ""),
      Apart outputs ⟨line⟩) :
    listingRecords after listing = listingRecords before listing
      ∧ ∀ record ∈ (listingRecords before listing).value, Apart outputs ⟨record.path⟩ := by
  obtain ⟨hresolved, hapart⟩ := resolved_eq h hcase hlines
  constructor
  · simp only [listingRecords, hresolved]
  · intro record hrecord
    obtain ⟨outcome, houtcome, heq⟩ := List.mem_filterMap.mp hrecord
    cases outcome with
    | error cause => cases heq
    | ok path =>
      rw [← Option.some.inj heq]
      exact hapart path houtcome

/-- The same recorded files exist, and their spellings pass no output. -/
theorem indexableFiles_eq (h : SameBut outputs before after)
    (hcase : OutputsUpToCase outputs) {recorded : ChecksumMap}
    (hrecorded : ∀ file ∈ recorded.toList, Apart outputs ⟨file.1⟩) :
    indexableFiles after recorded = indexableFiles before recorded
      ∧ ∀ file ∈ (indexableFiles before recorded).value, Apart outputs file := by
  have htexts : ∀ text ∈ (recorded.toList.map Prod.fst).filter
      (fun file => !Verification.isIgnored file), Apart outputs ⟨text⟩ := by
    intro text htext
    obtain ⟨file, hfile, rfl⟩ := List.mem_map.mp (List.mem_filter.mp htext).1
    exact hrecorded file hfile
  constructor
  · simp only [indexableFiles, (resolved_eq h hcase htexts).1]
  · intro path hpath
    obtain ⟨file, hfile, -, hresolved⟩ := mem_indexableFiles_iff.mp hpath
    exact (Capitalization.file_eq h hcase (hrecorded file hfile)).2 path hresolved

theorem openFile_eq (h : SameBut outputs before after) {p : Path} (hp : Apart outputs p) :
    Pdb.openFile after p = Pdb.openFile before p := by
  have hopen : ∀ fs : FileSystem, Pdb.openFile fs p = match fs.item p with
      | .error error => .error (.io p error)
      | .ok .directory => .error (.pdb .opening (.io .isDirectory))
      | .ok (.file content) => (Pdb.Container.ofBytes content).mapError (.pdb .opening) := by
    intro fs
    rw [Pdb.openFile, FileSystem.item]
    cases fs.node p with
    | error error => rfl
    | ok node => cases node <;> rfl
  rw [hopen, hopen, h.item_eq hp]

/-- The same records are found, and their paths pass no output. -/
theorem fileRecords_eq (h : SameBut outputs before after) (hcase : OutputsUpToCase outputs)
    {job : Job} (hjob : ∀ p ∈ readPaths before job, Apart outputs p) :
    fileRecords after job = fileRecords before job
      ∧ ∀ records, (fileRecords before job).result = .ok records →
        ∀ record ∈ records, Apart outputs ⟨record.path⟩ := by
  rw [readPaths, List.forall_mem_append, List.forall_mem_cons] at hjob
  obtain ⟨⟨hpdb, -⟩, hrecorded⟩ := hjob
  cases hlisting : job.listing with
  | some listing =>
    rw [recordedPaths, hlisting] at hrecorded
    obtain ⟨heq, hapart⟩ := listingRecords_eq h hcase (List.forall_mem_map.mp hrecorded)
    simp only [fileRecords, hlisting, heq, Task.result_lift, Except.ok.injEq, true_and]
    rintro records rfl
    exact hapart
  | none =>
    constructor
    · simp only [fileRecords, hlisting, openFile_eq h hpdb]
    · intro records hrecords
      rw [recordedPaths, hlisting] at hrecorded
      simp only [hrecords] at hrecorded
      exact List.forall_mem_map.mp hrecorded

/-- The same checksums are found, and their paths pass no output. -/
theorem fileChecksums_eq (h : SameBut outputs before after) (hcase : OutputsUpToCase outputs)
    {job : Job} (hjob : ∀ p ∈ readPaths before job, Apart outputs p) :
    fileChecksums after job = fileChecksums before job
      ∧ ∀ recorded, (fileChecksums before job).result = .ok recorded →
        ∀ file ∈ recorded.toList, Apart outputs ⟨file.1⟩ := by
  obtain ⟨heq, hapart⟩ := fileRecords_eq h hcase hjob
  constructor
  · rw [fileChecksums, fileChecksums, heq]
  · intro recorded hrecorded
    obtain ⟨records, hrecords, hmap⟩ := fileChecksums_eq_ok.mp hrecorded
    exact ChecksumMap.forall_mem_toList (P := fun path => Apart outputs ⟨path⟩)
      (hapart records hrecords) hmap

/-! ## The plan -/

theorem filesToIndex_eq (h : SameBut outputs before after) (hcase : OutputsUpToCase outputs)
    {job : Job} (hjob : ∀ p ∈ readPaths before job, Apart outputs p) {recorded : ChecksumMap}
    (hrecorded : ∀ file ∈ recorded.toList, Apart outputs ⟨file.1⟩) :
    filesToIndex after job recorded = filesToIndex before job recorded
      ∧ ∀ file ∈ (filesToIndex before job recorded).value, Apart outputs file := by
  rw [filesToIndex, filesToIndex]
  cases hcompilables : job.compilables with
  | none => exact indexableFiles_eq h hcase hrecorded
  | some files =>
    refine ⟨rfl, fun file hfile => hjob file ?_⟩
    rw [readPaths, hcompilables]
    exact List.mem_append_left _ (List.mem_cons_of_mem job.pdb hfile)

theorem checkedFiles_eq (h : SameBut outputs before after) (hcase : OutputsUpToCase outputs)
    {job : Job} (hjob : ∀ p ∈ readPaths before job, Apart outputs p) (options : LinkOptions) :
    checkedFiles after job options = checkedFiles before job options := by
  obtain ⟨hchecksums, hrecorded⟩ := fileChecksums_eq h hcase hjob
  rw [checkedFiles, checkedFiles, hchecksums]
  refine Task.bind_congr fun recorded hresult => ?_
  obtain ⟨hfiles, hapart⟩ := filesToIndex_eq h hcase hjob (hrecorded recorded hresult)
  rw [hfiles]
  -- the files to verify pass no output, which is known only once they are chosen
  refine Task.bind_congr fun _ _ => Task.bind_congr fun files hfile => ?_
  rw [Task.result_lift, Except.ok.injEq] at hfile
  rw [hfile] at hapart
  have hverified : verifiedAgainst after options recorded files
      = verifiedAgainst before options recorded files := by
    rw [verifiedAgainst, verifiedAgainst,
      Verification.report_eq h hcase (hrecorded recorded hresult) hapart]
  rw [hverified]

/-- Everything up to writing is the same. -/
theorem linkPlan_eq (h : SameBut outputs before after) (hcase : OutputsUpToCase outputs)
    {job : Job} (hjob : ∀ p ∈ readPaths before job, Apart outputs p) (remote : Remote)
    (revision : String) (options : LinkOptions) (now : Timestamp) :
    linkPlan after job remote revision options now
      = linkPlan before job remote revision options now := by
  have hchosen : chosenFiles after job options = chosenFiles before job options := by
    rw [chosenFiles, chosenFiles, checkedFiles_eq h hcase hjob]
  have hpdb : Apart outputs job.pdb := hjob job.pdb List.mem_cons_self
  -- the symbol file may be a directory, whose inside can differ, but it is only looked for
  have hnode : ((after.node job.pdb).mapError (Failure.io job.pdb)).map (fun _ => ())
      = ((before.node job.pdb).mapError (Failure.io job.pdb)).map fun _ => () := by
    have hitem := h.item_eq hpdb
    rw [FileSystem.item, FileSystem.item] at hitem
    cases hbefore : before.node job.pdb with
    | error error =>
      cases hafter : after.node job.pdb with
      | error error' =>
        rw [hbefore, hafter] at hitem
        rw [Except.error.inj hitem]
      | ok node => rw [hbefore, hafter] at hitem; cases hitem
    | ok node =>
      cases hafter : after.node job.pdb with
      | error error => rw [hbefore, hafter] at hitem; cases hitem
      | ok node' => rfl
  rw [linkPlan, linkPlan, hchosen]
  exact Task.bind_congr fun _ _ => Task.ofExcept_bind_const hnode

end Apart

end SourceServer
