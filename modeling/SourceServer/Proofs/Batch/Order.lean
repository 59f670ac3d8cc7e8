import SourceServer.Proofs.Batch.InTurn
import SourceServer.Proofs.Checksum.Streams
import SourceServer.Proofs.Link.Advisory
import SourceServer.Proofs.Link.Apart
import SourceServer.Proofs.Pdb.OneStream

/-!
# The order of a batch

Jobs whose outputs are different files, and which read nothing that an output could be mistaken for,
do not notice each other: each ends as it would end alone, and writes what it would write alone. So
it makes no difference in which order they end. What is recorded about their failures is the same
too, unless one of them breaks down.

- `Batch.written?`: what a job writes alone.
- `Batch.Independent`, `Batch.LeftBehind`: jobs that do not notice each other, and what they leave
  behind.
- `Batch.run_eq_inTurn`: every order leaves the same behind.
-/

namespace SourceServer

open FileSystem (Apart StepApart SameBut)

namespace Batch

/-! ## What one job does -/

/-- Where a job writes when it is done, and what. -/
def written? (remote : Remote) (revision : String) (options : LinkOptions) (now : Timestamp)
    (fs : FileSystem) (job : Job) : Option (List String × ByteArray) :=
  match (linkPlan fs job remote revision options now).result,
    fs.filePlace (indexPath job.pdb) with
  | .ok plan, .ok place => some (place, plan.text.toUTF8)
  | _, _ => none

variable {remote : Remote} {revision : String} {options : LinkOptions} {now : Timestamp}
  {fs after : FileSystem} {job : Job}

/-- A job is done by its plan and the place of its index. -/
theorem value_link :
    (SourceServer.link fs job remote revision options now).value
      = match (linkPlan fs job remote revision options now).result,
          fs.filePlace (indexPath job.pdb) with
        | .error failure, _ => (fs, .error failure)
        | .ok _, .error error => (fs, .error (.io (indexPath job.pdb) error))
        | .ok plan, .ok place =>
          ({ fs with root := fs.root.put place (.file plan.text.toUTF8) }, .ok plan.outcome) := by
  rw [link_value]
  cases hplan : (linkPlan fs job remote revision options now).result with
  | error failure => rfl
  | ok plan =>
    obtain ⟨files, mismatches, -, -, houtcome⟩ := linkPlan_eq_ok hplan
    simp only [houtcome, FileSystem.write]
    cases fs.filePlace (indexPath job.pdb) with
    | error error => rfl
    | ok place => simp only [houtcome]

/-- A job that writes nothing leaves the file system as it was. -/
theorem linked_of_written?_eq_none (h : written? remote revision options now fs job = none) :
    linked remote revision options now fs job = fs := by
  rw [linked, value_link]
  rw [written?] at h
  cases hplan : (linkPlan fs job remote revision options now).result with
  | error failure => rfl
  | ok plan =>
    cases hplace : fs.filePlace (indexPath job.pdb) with
    | error error => rfl
    | ok place => simp [hplan, hplace] at h

/-- A job that writes changes the place of its index. -/
theorem wrote_of_written?_eq_some {place : List String} {content : ByteArray}
    (h : written? remote revision options now fs job = some (place, content)) :
    fs.filePlace (indexPath job.pdb) = .ok place
      ∧ fs.Wrote (linked remote revision options now fs job) place content := by
  rw [linked, value_link]
  rw [written?] at h
  cases hplan : (linkPlan fs job remote revision options now).result with
  | error failure => simp [hplan] at h
  | ok plan =>
    cases hplace : fs.filePlace (indexPath job.pdb) with
    | error error => simp [hplan, hplace] at h
    | ok target =>
      simp only [hplan, hplace, Option.some.injEq, Prod.mk.injEq] at h
      obtain ⟨rfl, rfl⟩ := h
      exact ⟨rfl, FileSystem.wrote_of_write hplace (FileSystem.write_eq_ok.mpr ⟨_, hplace, rfl⟩)⟩

/-! ## What one job notices of the others -/

variable {outputs : String → Bool}

/-- A job whose reading passes no output has the same plan and the same place among outputs. -/
theorem plan_and_place_eq (h : SameBut outputs fs after) (hcase : OutputsUpToCase outputs)
    (hjob : ∀ p ∈ readPaths fs job, Apart outputs p) :
    linkPlan after job remote revision options now = linkPlan fs job remote revision options now
      ∧ after.filePlace (indexPath job.pdb) = fs.filePlace (indexPath job.pdb) := by
  refine ⟨linkPlan_eq h hcase hjob remote revision options now, h.filePlace_eq ?_⟩
  obtain ⟨above, name, hsteps, habove, -⟩ := exists_steps_indexPath job.pdb
  rw [hsteps, List.dropLast_concat]
  exact fun step hstep => hjob job.pdb List.mem_cons_self step (habove hstep)

/-- Such a job ends as it would end without the outputs. -/
theorem ending_eq (h : SameBut outputs fs after) (hcase : OutputsUpToCase outputs)
    (hjob : ∀ p ∈ readPaths fs job, Apart outputs p) :
    ending remote revision options now after job = ending remote revision options now fs job := by
  obtain ⟨hplan, hplace⟩ := plan_and_place_eq h hcase hjob
  rw [ending, ending, value_link, value_link, hplan, hplace]
  cases (linkPlan fs job remote revision options now).result with
  | error failure => rfl
  | ok plan => cases fs.filePlace (indexPath job.pdb) <;> rfl

/-- Such a job writes what it would write without the outputs. -/
theorem written?_eq (h : SameBut outputs fs after) (hcase : OutputsUpToCase outputs)
    (hjob : ∀ p ∈ readPaths fs job, Apart outputs p) :
    written? remote revision options now after job
      = written? remote revision options now fs job := by
  obtain ⟨hplan, hplace⟩ := plan_and_place_eq h hcase hjob
  rw [written?, written?, hplan, hplace]

/-! ## What some jobs leave behind -/

/-- The names of outputs up to case. -/
def isOutput (jobs : List Job) (name : String) : Bool :=
  jobs.any fun job =>
    match (indexPath job.pdb).fileName? with
    | some output => Unicode.lower name == Unicode.lower output
    | none => false

theorem isOutput_upToCase (jobs : List Job) : OutputsUpToCase (isOutput jobs) := by
  intro a b h
  simp only [isOutput, h]

theorem isOutput_eq_true {jobs : List Job} {name : String} :
    isOutput jobs name = true ↔ ∃ job ∈ jobs, ∃ output,
      (indexPath job.pdb).fileName? = some output ∧ Unicode.lower name = Unicode.lower output := by
  rw [isOutput, List.any_eq_true]
  refine exists_congr fun job => and_congr_right fun _ => ?_
  cases (indexPath job.pdb).fileName? <;> simp

/-- The outputs of two jobs are different files, as far as they can be written. -/
def DifferentOutputs (fs : FileSystem) (a b : Job) : Prop :=
  ∀ place, fs.filePlace (indexPath a.pdb) = .ok place → fs.filePlace (indexPath b.pdb) ≠ .ok place

theorem DifferentOutputs.symm {fs : FileSystem} {a b : Job} (h : DifferentOutputs fs a b) :
    DifferentOutputs fs b a :=
  fun place hb ha => h place ha hb

/-- Jobs whose outputs are different files, and which read no path with the name of an output. The
current directory is one. -/
structure Independent (fs : FileSystem) (jobs : List Job) : Prop where
  grounded : fs.itemAt? fs.current = some .directory
  apart : ∀ job ∈ jobs, ∀ p ∈ readPaths fs job, Apart (isOutput jobs) p
  different : jobs.Pairwise (DifferentOutputs fs)

/-- What some jobs leave behind, begun among the outputs of others: every job ends as it would end
alone, what one of them writes alone stands at its place, and everything else is as it was. -/
structure LeftBehind (remote : Remote) (revision : String) (options : LinkOptions)
    (now : Timestamp) (fs before : FileSystem) (order : List Job)
    (after : FileSystem × List (Job × Failure)) : Prop where
  current_eq : after.1.current = fs.current
  failed_eq : after.2
    = order.filterMap fun job => cause? job (ending remote revision options now fs job)
  written : ∀ job ∈ order, ∀ place content,
    written? remote revision options now fs job = some (place, content) →
    after.1.itemAt? place = some (.file content)
  untouched : ∀ place,
    (∀ job ∈ order, ∀ content,
      written? remote revision options now fs job ≠ some (place, content)) →
    after.1.itemAt? place = before.itemAt? place

variable {before : FileSystem} {jobs : List Job}

/-- After one more of the jobs the file system still differs in outputs only. -/
theorem sameBut_step (h : Independent fs jobs) (hsame : SameBut (isOutput jobs) fs before)
    (hjob : job ∈ jobs) :
    SameBut (isOutput jobs) fs (linked remote revision options now before job) := by
  cases hwritten : written? remote revision options now before job with
  | none =>
    rw [linked_of_written?_eq_none hwritten]
    exact hsame
  | some written =>
    obtain ⟨place, content⟩ := written
    obtain ⟨hplace, hwrote⟩ := wrote_of_written?_eq_some hwritten
    -- a directory is never overwritten, so the current one is still there
    have hcurrent : before.itemAt? before.current = some .directory := by
      rw [hsame.current_eq]
      exact (hsame.directory_iff fs.current).mpr h.grounded
    obtain ⟨above, name, -, -, hname⟩ := exists_steps_indexPath job.pdb
    exact hsame.trans (hwrote.sameBut hcurrent ((getLast?_indexPlace hplace).trans hname)
      (isOutput_eq_true.mpr ⟨job, hjob, name, hname, rfl⟩))

/-- What a job writes alone it writes among outputs too. -/
theorem itemAt?_step_written (h : Independent fs jobs)
    (hsame : SameBut (isOutput jobs) fs before) (hjob : job ∈ jobs) {place : List String}
    {content : ByteArray}
    (hwritten : written? remote revision options now fs job = some (place, content)) :
    (linked remote revision options now before job).itemAt? place
      = some (.file content) := by
  rw [← written?_eq hsame (isOutput_upToCase jobs) (h.apart job hjob)] at hwritten
  exact (wrote_of_written?_eq_some hwritten).2.itemAt?_self

/-- And it changes nothing else. -/
theorem itemAt?_step_untouched (h : Independent fs jobs)
    (hsame : SameBut (isOutput jobs) fs before) (hjob : job ∈ jobs) {place : List String}
    (hplace : ∀ content, written? remote revision options now fs job ≠ some (place, content)) :
    (linked remote revision options now before job).itemAt? place
      = before.itemAt? place := by
  rw [← written?_eq hsame (isOutput_upToCase jobs) (h.apart job hjob)] at hplace
  cases hwritten : written? remote revision options now before job with
  | none => rw [linked_of_written?_eq_none hwritten]
  | some written =>
    obtain ⟨target, content⟩ := written
    refine (wrote_of_written?_eq_some hwritten).2.itemAt?_other ?_
    rintro rfl
    exact hplace content hwritten

/-- Some of the jobs, one after another in any order. -/
theorem leftBehind_inTurn (h : Independent fs jobs) {order : List Job} (horder : order ⊆ jobs)
    (hdifferent : order.Pairwise (DifferentOutputs fs))
    (hsame : SameBut (isOutput jobs) fs before) :
    LeftBehind remote revision options now fs before order
      (inTurn remote revision options now before order) := by
  -- the file system goes on and stays one that differs from the first in outputs only, which is all
  -- that the other jobs need to know of it
  induction order generalizing before with
  | nil => exact ⟨hsame.current_eq, rfl, by simp, fun _ _ => rfl⟩
  | cons job rest ih =>
    rw [List.cons_subset] at horder
    rw [List.pairwise_cons] at hdifferent
    have hnext : SameBut (isOutput jobs) fs
        (linked remote revision options now before job) :=
      sameBut_step h hsame horder.1
    have hlater := ih horder.2 hdifferent.2 hnext
    have hending : ending remote revision options now before job = _ :=
      ending_eq hsame (isOutput_upToCase jobs) (h.apart job horder.1)
    refine { current_eq := hlater.current_eq, failed_eq := ?_, written := ?_, untouched := ?_ }
    · rw [inTurn, List.filterMap_cons, ← hending, ← hlater.failed_eq]
      cases cause? job (ending remote revision options now before job) <;> rfl
    · intro other hother place content hwritten
      rcases List.mem_cons.mp hother with rfl | hother
      · -- no later job writes there
        rw [inTurn, hlater.untouched place ?_]
        · exact itemAt?_step_written h hsame horder.1 hwritten
        · intro later hmem content' hwritten'
          exact hdifferent.1 later hmem place (wrote_of_written?_eq_some hwritten).1
            (wrote_of_written?_eq_some hwritten').1
      · exact hlater.written other hother place content hwritten
    · intro place hplace
      rw [List.forall_mem_cons] at hplace
      rw [inTurn, hlater.untouched place hplace.2]
      exact itemAt?_step_untouched h hsame horder.1 hplace.1

/-! ## Every order -/

theorem itemAt?_current {fs : FileSystem} (h : fs.isDirectory ⟨"."⟩ = true) :
    fs.itemAt? fs.current = some .directory := by
  rw [FileSystem.isDirectory] at h
  cases hnode : fs.node ⟨"."⟩ with
  | error error => simp [hnode] at h
  | ok node =>
    cases node with
    | file content => simp [hnode, Node.isDirectory] at h
    | directory entries =>
      obtain ⟨place, hwalk, -⟩ := FileSystem.node_eq_directory hnode
      rw [show FileSystem.steps ⟨"."⟩ = ["."] from rfl,
        show fs.origin ⟨"."⟩ = fs.current from rfl, FileSystem.walk_cons] at hwalk
      cases hitem : fs.itemAt? fs.current with
      | none => simp [hitem] at hwalk
      | some item =>
        cases item with
        | file content => simp [hitem] at hwalk
        | directory => rfl

theorem independent_of_reads (hcurrent : fs.isDirectory ⟨"."⟩ = true)
    (houtputs : jobs.Pairwise (DifferentOutputs fs))
    (hreads : ∀ a ∈ jobs, ∀ p ∈ readPaths fs a, ∀ name, .name name ∈ p.components →
      ∀ b ∈ jobs, ∀ output, (indexPath b.pdb).fileName? = some output →
        Unicode.lower name ≠ Unicode.lower output) : Independent fs jobs where
  grounded := itemAt?_current hcurrent
  different := houtputs
  apart job hjob p hp := by
    refine FileSystem.apart_iff.mpr fun name hname => Bool.eq_false_iff.mpr fun houtput => ?_
    obtain ⟨other, hother, output, hfile, hlower⟩ := isOutput_eq_true.mp houtput
    exact hreads job hjob p hp name hname other hother output hfile hlower

/-- The jobs in another order leave the same behind. -/
theorem inTurn_perm (remote : Remote) (revision : String) (options : LinkOptions) (now : Timestamp)
    (h : Independent fs jobs) {order : List Job} (horder : order.Perm jobs) :
    (inTurn remote revision options now fs order).1.current
        = (inTurn remote revision options now fs jobs).1.current
      ∧ (∀ place, (inTurn remote revision options now fs order).1.itemAt? place
        = (inTurn remote revision options now fs jobs).1.itemAt? place)
      ∧ (inTurn remote revision options now fs order).2.Perm
        (inTurn remote revision options now fs jobs).2 := by
  have hsame : SameBut (isOutput jobs) fs fs := .refl h.grounded
  have hdifferent := (horder.pairwise_iff DifferentOutputs.symm).mpr h.different
  have hthere : LeftBehind remote revision options now fs fs order _ :=
    leftBehind_inTurn h horder.subset hdifferent hsame
  have hhere : LeftBehind remote revision options now fs fs jobs _ :=
    leftBehind_inTurn h (List.Subset.refl jobs) h.different hsame
  refine ⟨hthere.current_eq.trans hhere.current_eq.symm, fun place => ?_, ?_⟩
  · -- at a place that a job writes alone, or at one that no job writes
    by_cases hwritten : ∃ job ∈ jobs, ∃ content,
        written? remote revision options now fs job = some (place, content)
    · obtain ⟨job, hjob, content, hcontent⟩ := hwritten
      rw [hthere.written job (horder.mem_iff.mpr hjob) place content hcontent,
        hhere.written job hjob place content hcontent]
    · push Not at hwritten
      rw [hthere.untouched place fun job hjob => hwritten job (horder.mem_iff.mp hjob),
        hhere.untouched place hwritten]
  · rw [hthere.failed_eq, hhere.failed_eq]
    exact horder.filterMap _

/-- A run that has stopped leaves the same behind as the jobs one after another, and records their
failures. -/
theorem Independent.run_eq {said : (Job → String) → Prop} {limit : Nat} {moves : List Move}
    {s : State} (h : Independent fs jobs)
    (hrun : Run limit (IsTask remote revision options now said) (State.initial fs jobs) moves s)
    (hstopped : Stopped limit s) :
    s.fileSystem.current = (inTurn remote revision options now fs jobs).1.current
      ∧ (∀ place, s.fileSystem.itemAt? place
        = (inTurn remote revision options now fs jobs).1.itemAt? place)
      ∧ ∃ recorded, List.Forall₂ (Tells said) (inTurn remote revision options now fs jobs).2 recorded
        ∧ s.summary.failed.Perm recorded := by
  obtain ⟨hpending, hflight⟩ := stopped_iff.mp hstopped
  have horder := (accounts_run hrun).ends_perm hpending hflight
  obtain ⟨hfileSystem, htells⟩ := inTurn_of_run hrun
  obtain ⟨hcurrent, hitems, hfailed⟩ := inTurn_perm remote revision options now h horder
  rw [hfileSystem] at hcurrent hitems
  obtain ⟨recorded, hrecorded, hperm⟩ := List.perm_comp_forall₂ hfailed.symm htells
  exact ⟨hcurrent, hitems, recorded, hrecorded, hperm.symm⟩

/-- Outputs that cannot be written at one place are different files. -/
theorem differentOutputs_of_ne {a b : Job}
    (h : fs.filePlace (indexPath a.pdb) ≠ fs.filePlace (indexPath b.pdb)) :
    DifferentOutputs fs a b :=
  fun _ ha hb => h (ha.trans hb.symm)

/-- Names that are no outputs up to case, as far as they are known. -/
theorem lower_ne_of_all
    (h : ∀ a ∈ jobs, ∀ p ∈ readPaths fs a, ∀ component ∈ p.components, ∀ b ∈ jobs,
      ((indexPath b.pdb).fileName?.all fun output =>
        Unicode.lower component.label != Unicode.lower output) = true) :
    ∀ a ∈ jobs, ∀ p ∈ readPaths fs a, ∀ name, .name name ∈ p.components →
      ∀ b ∈ jobs, ∀ output, (indexPath b.pdb).fileName? = some output →
        Unicode.lower name ≠ Unicode.lower output := by
  intro a ha p hp name hname b hb output houtput heq
  have hdiffer := h a ha p hp (.name name) hname b hb
  rw [houtput] at hdiffer
  simp [Component.label, heq] at hdiffer

/-- The bytes of the file at a place. -/
def bytesAt? (fs : FileSystem) (place : List String) : Option (List UInt8) :=
  match fs.itemAt? place with
  | some (.file content) => some content.data.toList
  | _ => none

theorem itemAt?_of_bytesAt? {place : List String} {content : ByteArray}
    (h : bytesAt? fs place = some content.data.toList) :
    fs.itemAt? place = some (.file content) := by
  rw [bytesAt?] at h
  split at h
  · rename_i found hfound
    rw [hfound, ByteArray.ext (Array.toList_inj.mp (Option.some.inj h))]
  · cases h

/-- **The order of a batch makes no difference** but for what is said about breakdowns. When no two
outputs are the same file, and no job reads a path with the name of an output up to case, then in
whatever order the jobs end, and whatever number of them is in flight, the same stands at every place
afterwards, and the same jobs have failed from the same causes, as when the jobs are linked one after
another. What is recorded about a failure are the words of its cause, and for a breakdown those of the
runtime; so when no job breaks down, the same is recorded. The batch as it is carried out does the
jobs in their order itself. Only the order in which the directories list the outputs may differ. -/
theorem run_eq_inTurn {said : (Job → String) → Prop} {limit : Nat} {moves : List Move} {s : State}
    (hcurrent : fs.isDirectory ⟨"."⟩ = true)
    (houtputs : jobs.Pairwise (DifferentOutputs fs))
    (hreads : ∀ a ∈ jobs, ∀ p ∈ readPaths fs a, ∀ name, .name name ∈ p.components →
      ∀ b ∈ jobs, ∀ output, (indexPath b.pdb).fileName? = some output →
        Unicode.lower name ≠ Unicode.lower output)
    (hrun : Run limit (IsTask remote revision options now said) (State.initial fs jobs) moves s)
    (hstopped : Stopped limit s) :
    s.fileSystem.current = (inTurn remote revision options now fs jobs).1.current
      ∧ (∀ place, s.fileSystem.itemAt? place
        = (inTurn remote revision options now fs jobs).1.itemAt? place)
      ∧ (∃ recorded, s.summary.failed.Perm recorded
        ∧ List.Forall₂ (Tells said) (inTurn remote revision options now fs jobs).2 recorded)
      ∧ ((∀ failed ∈ (inTurn remote revision options now fs jobs).2, failed.2 ≠ .breakdown) →
        s.summary.failed.Perm ((inTurn remote revision options now fs jobs).2.map fun failed =>
          (failed.1.pdb, failed.2.message)))
      ∧ ∀ panic, (Batch.link fs jobs remote revision options limit now panic).value
        = ((inTurn remote revision options now fs jobs).1,
          ⟨jobs.length, (inTurn remote revision options now fs jobs).2.map (told panic)⟩) := by
  have h := independent_of_reads hcurrent houtputs hreads
  obtain ⟨hsame, hitems, recorded, hrecorded, hperm⟩ := h.run_eq hrun hstopped
  refine ⟨hsame, hitems, ⟨recorded, hperm, hrecorded⟩, fun hcauses => ?_, ?_⟩
  · rw [← eq_map_message_of_tells hcauses hrecorded]
    exact hperm
  · exact link_eq_inTurn remote revision options now fs jobs limit

/-- Two symbol files that read the directory into which both write, and one that is missing, all three
at once. -/
theorem run_eq_inTurn_of_three :
    ∃ (fs : FileSystem) (jobs : List Job) (remote : Remote) (options : LinkOptions)
      (now : Timestamp) (moves : List Move) (s : State) (text : String),
      jobs = [⟨⟨"a.pdb"⟩, none, some "A.C"⟩, ⟨⟨"b.pdb"⟩, none, some "a.c"⟩, .ofPdb ⟨"gone.pdb"⟩]
        ∧ options.skipVerify = false
        ∧ Run 3 (IsTask remote "deadbeef" options now fun _ => True) (State.initial fs jobs) moves s
        ∧ Stopped 3 s
        ∧ Index.render (indexContext remote "deadbeef" [⟨"a.c"⟩] options now) = .ok text
        ∧ s.fileSystem.itemAt? ["w", "a.pdb.srcsrv"] = some (.file text.toUTF8)
        ∧ s.fileSystem.itemAt? ["w", "b.pdb.srcsrv"] = some (.file text.toUTF8)
        ∧ s.summary.failed = [(⟨"gone.pdb"⟩,
          "I/O error on gone.pdb: No such file or directory (os error 2)")] := by
  let fs : FileSystem :=
    ⟨.directory [("w", .directory
      [("a.pdb", .file .empty), ("b.pdb", .file .empty), ("a.c", .file ⟨#[0x61]⟩)])], ["w"]⟩
  let jobs : List Job :=
    [⟨⟨"a.pdb"⟩, none, some "A.C"⟩, ⟨⟨"b.pdb"⟩, none, some "a.c"⟩, .ofPdb ⟨"gone.pdb"⟩]
  let remote : Remote := ⟨.gitDaemon, "git://h/\x7b0\x7d/%var2%"⟩
  let options : LinkOptions := ⟨⟨""⟩, false, false, .crlf⟩
  let now : Timestamp := ⟨2024, 3, 5, 14, 7, 9⟩
  let silent : Job → String := fun _ => ""
  obtain ⟨moves, s, hrun, hstopped, -, -⟩ := @exists_run_link remote "deadbeef" options now
    (fun _ => True) silent trivial fs jobs 3
  have houtputs : jobs.Pairwise (DifferentOutputs fs) := by
    have hplaces : jobs.Pairwise fun a b =>
        fs.filePlace (indexPath a.pdb) ≠ fs.filePlace (indexPath b.pdb) := by decide +kernel
    exact hplaces.imp differentOutputs_of_ne
  have hreads := @lower_ne_of_all fs jobs (by decide +kernel)
  obtain ⟨-, hitems, -, hfailed, -⟩ := run_eq_inTurn (by decide) houtputs hreads hrun hstopped
  have hcauses : ∀ failed ∈ (inTurn remote "deadbeef" options now fs jobs).2,
      failed.2 ≠ .breakdown := by decide +kernel
  have htold : ((inTurn remote "deadbeef" options now fs jobs).2.map fun failed =>
      (failed.1.pdb, failed.2.message)) = [(⟨"gone.pdb"⟩,
        "I/O error on gone.pdb: No such file or directory (os error 2)")] := by decide +kernel
  let context : Index.Context := indexContext remote "deadbeef" [⟨"a.c"⟩] options now
  have hok : (Index.render context).isOk = true := by decide +kernel
  have hbytes : ∀ output ∈ ["a.pdb.srcsrv", "b.pdb.srcsrv"],
      bytesAt? (inTurn remote "deadbeef" options now fs jobs).1 ["w", output]
        = (Index.render context).toOption.map fun text => text.toUTF8.data.toList := by
    decide +kernel
  obtain ⟨text, hrender, hwritten⟩ : ∃ text, Index.render context = .ok text
      ∧ ∀ output ∈ ["a.pdb.srcsrv", "b.pdb.srcsrv"],
        (inTurn remote "deadbeef" options now fs jobs).1.itemAt? ["w", output]
          = some (.file text.toUTF8) := by
    cases hrender : Index.render context with
    | error fault =>
      rw [hrender] at hok
      cases hok
    | ok text =>
      refine ⟨text, rfl, fun output houtput => itemAt?_of_bytesAt? ?_⟩
      rw [hbytes output houtput, hrender]
      rfl
  rw [List.forall_mem_cons, List.forall_mem_singleton, ← hitems, ← hitems] at hwritten
  refine ⟨fs, jobs, remote, options, now, moves, s, text, rfl, rfl, hrun, hstopped, hrender,
    hwritten.1, hwritten.2, ?_⟩
  have hperm := hfailed hcauses
  rw [htold] at hperm
  exact List.perm_singleton.mp hperm

/-! ## What the runtime says -/

/-- The same failures are recorded in every order and with every limit. -/
def RecordsAlike (remote : Remote) (revision : String) (options : LinkOptions) (now : Timestamp)
    (said : (Job → String) → Prop) (fs : FileSystem) (jobs : List Job) : Prop :=
  ∀ limit moves s,
    Run limit (IsTask remote revision options now said) (State.initial fs jobs) moves s →
      Stopped limit s →
      ∀ limit' moves' t,
        Run limit' (IsTask remote revision options now said) (State.initial fs jobs) moves' t →
          Stopped limit' t → ∀ failed, failed ∈ s.summary.failed ↔ failed ∈ t.summary.failed

/-- What the runtime says of a task that broke down: its number. Tasks are numbered when they are
taken up, each job before the inner task that links. -/
def numbered (number : Job → Nat) (job : Job) : String :=
  "task " ++ toString (number job) ++ " panicked"

/-- Jobs that fail all alike leave everything as it was. -/
theorem inTurn_of_failing {failure : Failure}
    (h : ∀ job ∈ jobs, (SourceServer.link fs job remote revision options now).value
      = (fs, .error failure)) :
    inTurn remote revision options now fs jobs = (fs, jobs.map fun job => (job, failure)) := by
  induction jobs with
  | nil => rfl
  | cons job rest ih =>
    rw [List.forall_mem_cons] at h
    rw [inTurn, linked, ending, h.1, ih h.2]
    rfl

/-- A directory with two symbol files on which the reader breaks down. -/
def brokenSystem : FileSystem :=
  ⟨.directory [("w", .directory
    [("a.pdb", .file Pdb.brokenName.file), ("b.pdb", .file Pdb.brokenName.file)])], ["w"]⟩

/-- The jobs for them. -/
def brokenJobs : List Job := [.ofPdb ⟨"a.pdb"⟩, .ofPdb ⟨"b.pdb"⟩]

/-- They give nothing but the symbol file. -/
theorem ofPdb_of_mem_brokenJobs : ∀ job ∈ brokenJobs, job = .ofPdb job.pdb := by
  intro job hjob
  simp only [brokenJobs, List.mem_cons, List.not_mem_nil, or_false] at hjob
  rcases hjob with rfl | rfl <;> rfl

theorem node_brokenSystem :
    ∀ job ∈ brokenJobs, brokenSystem.node job.pdb = .ok (.file Pdb.brokenName.file) := by
  have hnode : ∀ content : ByteArray, ∀ job ∈ brokenJobs,
      FileSystem.node ⟨.directory [("w", .directory
        [("a.pdb", .file content), ("b.pdb", .file content)])], ["w"]⟩ job.pdb
          = .ok (.file content) := by
    intro content job hjob
    simp only [brokenJobs, List.mem_cons, List.not_mem_nil, or_false] at hjob
    rcases hjob with rfl | rfl <;> rfl
  exact hnode _

theorem fileRecords_brokenSystem :
    ∀ job ∈ brokenJobs, (fileRecords brokenSystem job).result = .error .breakdown := by
  intro job hjob
  have hlisting : job.listing = none := by
    rw [ofPdb_of_mem_brokenJobs job hjob]
    rfl
  have hopen : Pdb.openFile brokenSystem job.pdb = .ok Pdb.brokenName.container := by
    rw [Pdb.openFile, node_brokenSystem job hjob]
    show (Pdb.Container.ofBytes Pdb.brokenName.file).mapError _ = _
    rw [Pdb.TwoStreams.ofBytes_file]
    rfl
  rw [fileRecords_of_openFile hlisting hopen, ChecksumStreams.records, Task.result_bind,
    Task.result_ofExcept, Pdb.names_brokenName]
  rfl

/-- Both jobs break down, one after the other. -/
theorem inTurn_brokenSystem :
    inTurn remote revision options now brokenSystem brokenJobs
      = (brokenSystem, brokenJobs.map fun job => (job, .breakdown)) := by
  refine inTurn_of_failing fun job hjob => ?_
  have hcompilables : job.compilables = none := by
    rw [ofPdb_of_mem_brokenJobs job hjob]
    rfl
  exact value_link_of_fileRecords remote revision options now hcompilables
    (node_brokenSystem job hjob) (fileRecords_brokenSystem job hjob)

theorem differentOutputs_brokenSystem : brokenJobs.Pairwise (DifferentOutputs brokenSystem) := by
  have hplaces : brokenJobs.Pairwise fun a b =>
      brokenSystem.filePlace (indexPath a.pdb) ≠ brokenSystem.filePlace (indexPath b.pdb) := by
    decide +kernel
  exact hplaces.imp differentOutputs_of_ne

theorem lower_ne_brokenSystem :
    ∀ a ∈ brokenJobs, ∀ p ∈ readPaths brokenSystem a, ∀ name, .name name ∈ p.components →
      ∀ b ∈ brokenJobs, ∀ output, (indexPath b.pdb).fileName? = some output →
        Unicode.lower name ≠ Unicode.lower output := by
  refine lower_ne_of_all fun a ha => ?_
  have hpaths : readPaths brokenSystem a = [a.pdb] := by
    rw [readPaths, recordedPaths, fileRecords_brokenSystem a ha, ofPdb_of_mem_brokenJobs a ha]
    rfl
  have hpdbs : ∀ a ∈ brokenJobs, ∀ component ∈ a.pdb.components, ∀ b ∈ brokenJobs,
      ((indexPath b.pdb).fileName?.all fun output =>
        Unicode.lower component.label != Unicode.lower output) = true := by decide +kernel
  rw [hpaths, List.forall_mem_singleton]
  exact hpdbs a ha

/-- With every limit and with all numbers of tasks there is a run. -/
theorem exists_run_brokenSystem (number : Job → Nat) (limit : Nat) :
    ∃ moves s, Run limit (IsTask remote revision options now fun panic =>
        ∃ number, panic = numbered number) (State.initial brokenSystem brokenJobs) moves s
      ∧ Stopped limit s
      ∧ s.summary.failed = brokenJobs.map fun job => told (numbered number) (job, .breakdown) := by
  obtain ⟨moves, s, hrun, hstopped, -, hlink⟩ :=
    exists_run_link remote revision options now (fun panic => ∃ number, panic = numbered number)
      ⟨number, rfl⟩ brokenSystem brokenJobs limit
  rw [link_eq_inTurn, inTurn_brokenSystem, List.map_map] at hlink
  have hfailed := congrArg (fun done => done.2.failed) hlink
  exact ⟨moves, s, hrun, hstopped, hfailed.symm⟩

/-- One at a time, the first job breaks down as the second task; both at once, as the third. -/
theorem not_recordsAlike :
    brokenSystem.isDirectory ⟨"."⟩ = true
      ∧ brokenJobs.Pairwise (DifferentOutputs brokenSystem)
      ∧ (∀ a ∈ brokenJobs, ∀ p ∈ readPaths brokenSystem a, ∀ name, .name name ∈ p.components →
        ∀ b ∈ brokenJobs, ∀ output, (indexPath b.pdb).fileName? = some output →
          Unicode.lower name ≠ Unicode.lower output)
      ∧ ¬ RecordsAlike ⟨.gitHub "a" "b", "https://raw.githubusercontent.com/a/b/\x7b0\x7d/%var2%"⟩
        "deadbeef" ⟨⟨""⟩, false, false, .crlf⟩ ⟨2024, 3, 5, 14, 7, 9⟩
        (fun panic => ∃ number, panic = numbered number) brokenSystem brokenJobs := by
  refine ⟨by decide, differentOutputs_brokenSystem, lower_ne_brokenSystem, fun halike => ?_⟩
  -- one at a time the inner tasks have even numbers; at once the first two numbers are the jobs
  obtain ⟨moves, s, hrun, hstopped, hone⟩ :=
    exists_run_brokenSystem (fun job => if job.pdb.text = "a.pdb" then 2 else 4) 1
  obtain ⟨moves', t, hrun', hstopped', htwo⟩ :=
    exists_run_brokenSystem (fun job => if job.pdb.text = "a.pdb" then 3 else 4) 2
  have hfirst : ((⟨"a.pdb"⟩, "symbol file task: task 2 panicked") : Path × String)
      ∈ s.summary.failed := by
    rw [hone]
    decide +kernel
  have hmem := (halike 1 moves s hrun hstopped 2 moves' t hrun' hstopped' _).mp hfirst
  rw [htwo] at hmem
  exact absurd hmem (by decide +kernel)

end Batch

end SourceServer
