import SourceServer.Proofs.Link.Effect

/-!
# Verification is advisory

With given files and nothing to verify, linking takes a short cut and never opens the symbol file.
All ways of choosing the files lead to the prescribed ones nevertheless, and the report is only
handed through: neither the index nor its place nor a later failure depends on it. So verification
can keep an index from being written in one way only, by records that cannot be read.

- `result_chosenFiles_skipping`, `result_chosenFiles_verifying`: the files that are chosen.
- `planOf`, `result_linkPlan`: a plan as a function of the files and the report.
- `verifying_value`: linking with verification in terms of linking without.
- `verification_advisory`: what verification has no influence on.
-/

namespace SourceServer

variable {fs : FileSystem} {job : Job} {remote : Remote} {revision : String}
  {options : LinkOptions} {now : Timestamp}

/-! ## The files that are chosen -/

theorem result_checkedFiles (fs : FileSystem) (job : Job) (options : LinkOptions) :
    (checkedFiles fs job options).result
      = (fileChecksums fs job).result.map fun recorded =>
        ((filesToIndex fs job recorded).value,
          (verifiedAgainst fs options recorded (filesToIndex fs job recorded).value).value) := by
  rw [checkedFiles, Task.result_bind]
  cases (fileChecksums fs job).result with
  | error failure => rfl
  | ok recorded =>
    show Task.result (_ >>= _) = _
    simp only [Task.result_bind, Task.result_log, Task.result_lift, Task.result_pure]
    rfl

/-- Once the digests are read, the files to index are prescribed. -/
theorem prescribedFiles_of_fileChecksums {recorded : ChecksumMap}
    (h : (fileChecksums fs job).result = .ok recorded) :
    prescribedFiles fs job = .ok (filesToIndex fs job recorded).value := by
  rw [prescribedFiles, filesToIndex, h]
  cases job.compilables <;> rfl

/-- Without verification the prescribed files are chosen, by the short cut or not. -/
theorem result_chosenFiles_skipping (hskip : options.skipVerify = true) :
    (chosenFiles fs job options).result = (prescribedFiles fs job).map fun files => (files, ∅) := by
  rw [chosenFiles, hskip]
  cases hcompilables : job.compilables with
  | some files =>
    rw [prescribedFiles, hcompilables]
    rfl
  | none =>
    have hempty : ∀ recorded files, (verifiedAgainst fs options recorded files).value = ∅ := by
      intro recorded files
      rw [verifiedAgainst, if_pos hskip]
      rfl
    show (checkedFiles fs job options).result = _
    rw [result_checkedFiles, prescribedFiles, hcompilables]
    cases (fileChecksums fs job).result with
    | error failure => rfl
    | ok recorded => simp only [Except.map, hempty, filesToIndex, hcompilables]

/-- With verification the prescribed files are chosen when the digests can be read. -/
theorem result_chosenFiles_verifying (hverify : options.skipVerify = false) :
    (chosenFiles fs job options).result
      = (fileChecksums fs job).result.map fun recorded =>
        ((filesToIndex fs job recorded).value,
          (Verification.report fs recorded (some (filesToIndex fs job recorded).value)).value) := by
  have hreport : ∀ recorded files, (verifiedAgainst fs options recorded files).value
      = (Verification.report fs recorded (some files)).value := by
    intro recorded files
    rw [verifiedAgainst, if_neg (by simp [hverify])]
    rfl
  have hchecked : chosenFiles fs job options = checkedFiles fs job options := by
    rw [chosenFiles, hverify]
    cases job.compilables <;> rfl
  rw [hchecked, result_checkedFiles]
  simp only [hreport]

/-! ## The plan -/

/-- The plan for some files and a report. -/
def planOf (job : Job) (remote : Remote) (revision : String) (options : LinkOptions)
    (now : Timestamp) (files : List Path) (mismatches : Mismatches) : Except Failure LinkPlan :=
  ((Index.render (indexContext remote revision files options now)).mapError .index).map
    fun text => ⟨text, ⟨indexPath job.pdb, files.length, mismatches⟩⟩

theorem planOf_eq_ok {files : List Path} {mismatches : Mismatches} {plan : LinkPlan} :
    planOf job remote revision options now files mismatches = .ok plan
      ↔ ∃ text, Index.render (indexContext remote revision files options now) = .ok text
        ∧ plan = ⟨text, ⟨indexPath job.pdb, files.length, mismatches⟩⟩ := by
  rw [planOf]
  cases Index.render (indexContext remote revision files options now) <;>
    simp [Except.mapError, Except.map, eq_comm]

theorem result_linkPlan (fs : FileSystem) (job : Job) (remote : Remote) (revision : String)
    (options : LinkOptions) (now : Timestamp) :
    (linkPlan fs job remote revision options now).result
      = match fs.node job.pdb with
        | .error error => .error (.io job.pdb error)
        | .ok _ =>
          match (chosenFiles fs job options).result with
          | .error failure => .error failure
          | .ok (files, mismatches) => planOf job remote revision options now files mismatches := by
  rw [linkPlan]
  simp only [Task.result_bind, Task.result_log, Task.result_ofExcept, Task.result_pure]
  cases fs.node job.pdb with
  | error error => rfl
  | ok node =>
    cases (chosenFiles fs job options).result with
    | error failure => rfl
    | ok chosen =>
      obtain ⟨files, mismatches⟩ := chosen
      show (Except.mapError _ (Index.render (indexContext remote revision files options now)) >>= _)
        = planOf job remote revision options now files mismatches
      rw [planOf]
      cases Index.render (indexContext remote revision files options now) with
      | error fault => rfl
      | ok text =>
        show Except.ok _ = Except.ok _
        simp

/-- How a task ends when its plan is carried out. -/
def carryOut (fs : FileSystem) :
    Except Failure LinkPlan → FileSystem × Except Failure LinkOutcome
  | .error failure => (fs, .error failure)
  | .ok plan =>
    match fs.write plan.outcome.index plan.text.toUTF8 with
    | .error error => (fs, .error (.io plan.outcome.index error))
    | .ok written => (written, .ok plan.outcome)

theorem carryOut_eq_ok {plan : Except Failure LinkPlan} {after : FileSystem}
    {outcome : LinkOutcome} :
    carryOut fs plan = (after, .ok outcome)
      ↔ ∃ text, plan = .ok ⟨text, outcome⟩
        ∧ fs.write outcome.index text.toUTF8 = .ok after := by
  cases plan with
  | error failure => simp [carryOut]
  | ok plan =>
    obtain ⟨text, planned⟩ := plan
    simp only [carryOut, Except.ok.injEq, LinkPlan.mk.injEq]
    constructor
    · intro h
      cases hwrite : fs.write planned.index text.toUTF8 with
      | error error =>
        rw [hwrite] at h
        cases h
      | ok written =>
        rw [hwrite] at h
        cases h
        exact ⟨text, ⟨rfl, rfl⟩, hwrite⟩
    · rintro ⟨_, ⟨rfl, rfl⟩, hwrite⟩
      rw [hwrite]

theorem link_value_eq_carryOut :
    (link fs job remote revision options now).value
      = carryOut fs (linkPlan fs job remote revision options now).result := by
  rw [link_value]
  cases (linkPlan fs job remote revision options now).result <;> rfl

/-- A symbol file whose records cannot be read is not linked. -/
theorem value_link_of_fileRecords (remote : Remote) (revision : String) (options : LinkOptions)
    (now : Timestamp) {node : Node} {failure : Failure}
    (hcompilables : job.compilables = none) (hnode : fs.node job.pdb = .ok node)
    (h : (fileRecords fs job).result = .error failure) :
    (link fs job remote revision options now).value = (fs, .error failure) := by
  have hchecksums : (fileChecksums fs job).result = .error failure := by
    rw [fileChecksums, Task.result_bind, h]
    rfl
  have hchosen : (chosenFiles fs job options).result = .error failure := by
    rw [chosenFiles, hcompilables]
    simp only [result_checkedFiles, hchecksums, Except.map]
  rw [link_value_eq_carryOut, result_linkPlan, hnode, hchosen]
  rfl

/-- A task that fails has changed nothing. -/
theorem carryOut_of_error {plan : Except Failure LinkPlan} {failure : Failure}
    (h : (carryOut fs plan).2 = .error failure) : carryOut fs plan = (fs, .error failure) := by
  cases plan with
  | error cause =>
    obtain rfl : cause = failure := Except.error.inj h
    rfl
  | ok plan =>
    rw [carryOut] at h ⊢
    cases hwrite : fs.write plan.outcome.index plan.text.toUTF8 with
    | error error =>
      rw [hwrite] at h
      exact congrArg (Prod.mk fs) h
    | ok written =>
      rw [hwrite] at h
      cases h

/-- The same end with another report. -/
def withReport (mismatches : Mismatches) (ended : FileSystem × Except Failure LinkOutcome) :
    FileSystem × Except Failure LinkOutcome :=
  (ended.1, ended.2.map fun outcome => { outcome with mismatches })

theorem withReport_of_ok {mismatches : Mismatches} {ended : FileSystem × Except Failure LinkOutcome}
    {outcome : LinkOutcome} (h : ended.2 = .ok outcome) :
    withReport mismatches ended = (ended.1, .ok { outcome with mismatches }) := by
  rw [withReport.eq_def, h]
  rfl

/-- Another report neither makes a task fail nor saves it. -/
theorem withReport_snd_eq_error {mismatches : Mismatches}
    {ended : FileSystem × Except Failure LinkOutcome} {failure : Failure} :
    (withReport mismatches ended).2 = .error failure ↔ ended.2 = .error failure := by
  obtain ⟨after, result⟩ := ended
  cases result <;> simp [withReport, Except.map]

/-- The report is handed through: nothing that is written depends on it. -/
theorem carryOut_planOf (fs : FileSystem) (job : Job) (remote : Remote) (revision : String)
    (options : LinkOptions) (now : Timestamp) (files : List Path)
    (mismatches other : Mismatches) :
    carryOut fs (planOf job remote revision options now files mismatches)
      = withReport mismatches (carryOut fs (planOf job remote revision options now files other))
    := by
  rw [planOf, planOf]
  cases Index.render (indexContext remote revision files options now) with
  | error fault => rfl
  | ok text =>
    simp only [Except.mapError, Except.map, carryOut]
    cases fs.write (indexPath job.pdb) text.toUTF8 <;> rfl

/-! ## With and without verification -/

/-- Once the digests can be read, linking with verification is linking without it, and a report. -/
theorem verifying_value (remote : Remote) (revision : String) (options : LinkOptions)
    (now : Timestamp) {recorded : ChecksumMap} (h : (fileChecksums fs job).result = .ok recorded) :
    (link fs job remote revision { options with skipVerify := false } now).value
      = withReport
        (Verification.report fs recorded (some (filesToIndex fs job recorded).value)).value
        (link fs job remote revision { options with skipVerify := true } now).value := by
  rw [link_value_eq_carryOut, link_value_eq_carryOut, result_linkPlan, result_linkPlan,
    result_chosenFiles_verifying rfl, result_chosenFiles_skipping rfl,
    prescribedFiles_of_fileChecksums h, h]
  cases fs.node job.pdb with
  | error error => rfl
  | ok node => exact carryOut_planOf fs job remote revision options now _ _ _

/-- Digests that cannot be read end linking with verification, unless there is no symbol file. -/
theorem verifying_value_of_error (remote : Remote) (revision : String) (options : LinkOptions)
    (now : Timestamp) {failure : Failure} (h : (fileChecksums fs job).result = .error failure) :
    (link fs job remote revision { options with skipVerify := false } now).value
      = (fs, .error (match fs.node job.pdb with
        | .error error => .io job.pdb error
        | .ok _ => failure)) := by
  rw [link_value_eq_carryOut, result_linkPlan, result_chosenFiles_verifying rfl, h]
  cases fs.node job.pdb <;> rfl

/-- Without verification nothing is reported. -/
theorem withReport_skipping (fs : FileSystem) (job : Job) (remote : Remote) (revision : String)
    (options : LinkOptions) (now : Timestamp) :
    withReport ∅ (link fs job remote revision { options with skipVerify := true } now).value
      = (link fs job remote revision { options with skipVerify := true } now).value := by
  rw [link_value_eq_carryOut, result_linkPlan, result_chosenFiles_skipping rfl]
  cases fs.node job.pdb with
  | error error => rfl
  | ok node =>
    cases prescribedFiles fs job with
    | error failure => rfl
    | ok files => exact (carryOut_planOf fs job remote revision _ now files ∅ ∅).symm

/-- **Verification is advisory.** Where linking with verification succeeds, linking without it
leaves the same file system behind, with the same index at the same place and the same number of
entries, and reports nothing. Where linking without verification succeeds and the digests can be
read, linking with it does the same, whatever it reports. A failure with verification is that of
reading the digests, or linking without verification fails alike. -/
theorem verification_advisory (fs : FileSystem) (job : Job) (remote : Remote) (revision : String)
    (options : LinkOptions) (now : Timestamp) :
    let verifying := (link fs job remote revision { options with skipVerify := false } now).value
    let skipping := (link fs job remote revision { options with skipVerify := true } now).value
    (∀ outcome, verifying.2 = .ok outcome →
        skipping = (verifying.1, .ok { outcome with mismatches := ∅ }))
      ∧ (∀ outcome recorded, skipping.2 = .ok outcome →
        (fileChecksums fs job).result = .ok recorded →
          ∃ files, prescribedFiles fs job = .ok files
            ∧ verifying = (skipping.1, .ok { outcome with
              mismatches := (Verification.report fs recorded (some files)).value }))
      ∧ ∀ failure, verifying.2 = .error failure →
        (fileChecksums fs job).result = .error failure ∨ skipping = (fs, .error failure) := by
  intro verifying skipping
  have hempty : skipping = withReport ∅ skipping :=
    (withReport_skipping fs job remote revision options now).symm
  cases hrecorded : (fileChecksums fs job).result with
  | error cause =>
    have hvalue : verifying = _ := verifying_value_of_error remote revision options now hrecorded
    rw [hvalue]
    refine ⟨by simp, by simp, fun failure hfailure => ?_⟩
    cases hnode : fs.node job.pdb with
    | ok node =>
      rw [hnode] at hfailure
      exact .inl (congrArg Except.error (Except.error.inj hfailure))
    | error error =>
      have hskipping : skipping = (fs, .error (.io job.pdb error)) := by
        show (link fs job remote revision { options with skipVerify := true } now).value = _
        rw [link_value_eq_carryOut, result_linkPlan, hnode]
        rfl
      rw [hnode] at hfailure
      rw [← Except.error.inj hfailure]
      exact .inr hskipping
  | ok recorded =>
    have hvalue : verifying = withReport _ skipping :=
      verifying_value remote revision options now hrecorded
    rw [hvalue]
    refine ⟨fun outcome houtcome => ?_, fun outcome _ houtcome hsame => ?_,
      fun failure hfailure => ?_⟩
    · -- the two outcomes differ in the report only, and that of the second is empty
      cases hskipped : skipping.2 with
      | error cause =>
        rw [withReport_snd_eq_error.mpr hskipped] at houtcome
        cases houtcome
      | ok skipped =>
        rw [withReport_of_ok hskipped] at houtcome ⊢
        rw [← Except.ok.inj houtcome]
        rw [withReport_of_ok hskipped] at hempty
        exact hempty
    · rw [← Except.ok.inj hsame]
      exact ⟨_, prescribedFiles_of_fileChecksums hrecorded, withReport_of_ok houtcome⟩
    · rw [withReport_snd_eq_error] at hfailure
      refine .inr ?_
      have hskipping : skipping = carryOut fs _ := link_value_eq_carryOut
      rw [hskipping] at hfailure ⊢
      exact carryOut_of_error hfailure

end SourceServer
