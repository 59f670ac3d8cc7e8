import SourceServer.Proofs.Batch.Schedule

/-!
# Jobs one after another

Nothing of a job is seen before it ends, so a batch does its jobs one after another, in the order in
which they end. A failure has a cause. What is recorded about it are the words of its cause, and for a
breakdown the words of the runtime, which may say one thing in one order and another thing in another.

- `Batch.linked`, `Batch.ending`: what linking does with a job.
- `Batch.inTurn`: the jobs one after another, with the causes of failures.
- `Batch.told`, `Batch.Tells`: what is recorded about a failure, and what may be.
- `Batch.IsTask`, `Batch.inTurn_of_run`: what a run does.
-/

namespace SourceServer

namespace Batch

variable (remote : Remote) (revision : String) (options : LinkOptions) (now : Timestamp)

/-- The failure of a job, with its cause. -/
def cause? (job : Job) : Except Failure LinkOutcome → Option (Job × Failure)
  | .ok _ => none
  | .error failure => some (job, failure)

/-- How a job ends when it is done. -/
def ending (fs : FileSystem) (job : Job) : Except Failure LinkOutcome :=
  (SourceServer.link fs job remote revision options now).value.2

/-- The file system when a job is done. -/
def linked (fs : FileSystem) (job : Job) : FileSystem :=
  (SourceServer.link fs job remote revision options now).value.1

/-- Some jobs done one after another: the file system afterwards, and the failures by their causes. -/
def inTurn : FileSystem → List Job → FileSystem × List (Job × Failure)
  | fs, [] => (fs, [])
  | fs, job :: rest =>
    let later := inTurn (linked remote revision options now fs job) rest
    (later.1, (cause? job (ending remote revision options now fs job)).toList ++ later.2)

/-- What is recorded about a failure, for what the runtime says of breakdowns. -/
def told (panic : Job → String) (failed : Job × Failure) : Path × String :=
  (failed.1.pdb, wording (panic failed.1) failed.2)

/-- What may be recorded about a failure, for what the runtime may say of breakdowns. -/
def Tells (said : (Job → String) → Prop) (failed : Job × Failure) (recorded : Path × String) : Prop :=
  ∃ panic, said panic ∧ recorded = told panic failed

/-- The tasks of a batch, for what the runtime may say of breakdowns. -/
def IsTask (said : (Job → String) → Prop) (worker : Worker) : Prop :=
  ∃ panic, said panic ∧ worker = task remote revision options now panic

variable {remote revision options now} {fs after : FileSystem} {job : Job}
  {said : (Job → String) → Prop}

/-- What is recorded about a failure other than a breakdown is its wording. -/
theorem told_of_ne_breakdown {failed : Job × Failure} (h : failed.2 ≠ .breakdown)
    (panic : Job → String) : told panic failed = (failed.1.pdb, failed.2.message) := by
  obtain ⟨job, failure⟩ := failed
  cases failure with
  | breakdown => exact absurd rfl h
  | _ => rfl

/-- When it is known what the runtime says, it is known what is recorded. -/
theorem eq_map_of_tells {panic : Job → String} {failed : List (Job × Failure)}
    {recorded : List (Path × String)} (h : List.Forall₂ (Tells (· = panic)) failed recorded) :
    recorded = failed.map (told panic) := by
  induction h with
  | nil => rfl
  | cons hfirst _ ih =>
    obtain ⟨_, rfl, rfl⟩ := hfirst
    rw [ih, List.map_cons]

/-- Without a breakdown it is known what is recorded, whatever the runtime may say. -/
theorem eq_map_message_of_tells {failed : List (Job × Failure)} {recorded : List (Path × String)}
    (hcauses : ∀ failure ∈ failed, failure.2 ≠ .breakdown)
    (h : List.Forall₂ (Tells said) failed recorded) :
    recorded = failed.map fun failure => (failure.1.pdb, failure.2.message) := by
  induction h with
  | nil => rfl
  | cons hfirst _ ih =>
    rw [List.forall_mem_cons] at hcauses
    obtain ⟨panic, -, rfl⟩ := hfirst
    rw [ih hcauses.2, List.map_cons, told_of_ne_breakdown hcauses.1]

/-- A task does its job by linking. -/
theorem value_task (panic : Job → String) :
    (task remote revision options now panic fs job).value
      = (linked remote revision options now fs job,
        (ending remote revision options now fs job).mapError (wording (panic job))) := rfl

/-- A task that fails records this. -/
theorem failure?_task (panic : Job → String) :
    failure? (job, (task remote revision options now panic fs job).value.2)
      = (cause? job (ending remote revision options now fs job)).map (told panic) := by
  rw [value_task]
  cases ending remote revision options now fs job <;> rfl

/-- One more job at the end. -/
theorem inTurn_concat (fs : FileSystem) (order : List Job) (job : Job) :
    inTurn remote revision options now fs (order ++ [job])
      = let before := inTurn remote revision options now fs order
        (linked remote revision options now before.1 job,
          before.2 ++ (cause? job (ending remote revision options now before.1 job)).toList) := by
  induction order generalizing fs with
  | nil => simp [inTurn]
  | cons first rest ih => simp [inTurn, ih]

/-- A run does its jobs one after another, in the order in which they end. -/
theorem inTurn_of_run {limit : Nat} {jobs : List Job} {moves : List Move} {s : State}
    (hrun : Run limit (IsTask remote revision options now said) (State.initial fs jobs) moves s) :
    (inTurn remote revision options now fs ((Move.ends moves).map Prod.fst)).1 = s.fileSystem
      ∧ List.Forall₂ (Tells said)
        (inTurn remote revision options now fs ((Move.ends moves).map Prod.fst)).2
        s.summary.failed := by
  -- taking up a job touches nothing, ending one does it
  induction hrun with
  | nil => exact ⟨rfl, .nil⟩
  | snoc _ hstep ih =>
    cases hstep with
    | start hpending hstart =>
      obtain ⟨job, rest, -, -, rfl⟩ := start?_eq_some hstart
      rw [Move.ends_append_started]
      exact ih
    | @complete _ _ _ job htask hjob hcomplete =>
      obtain ⟨hfileSystem, -, -, -, hfailed⟩ := completeAt?_eq_some hjob hcomplete
      obtain ⟨panic, hsaid, rfl⟩ := htask
      rw [failure?_task] at hfailed
      rw [value_task] at hfileSystem
      rw [Move.ends_append_ended, List.map_append, List.map_singleton, inTurn_concat]
      dsimp only
      rw [ih.1, hfileSystem, hfailed]
      refine ⟨rfl, List.rel_append ih.2 ?_⟩
      cases cause? job (ending remote revision options now _ job) with
      | none => exact .nil
      | some failed => exact .cons ⟨panic, hsaid, rfl⟩ .nil

/-- The order in which a batch is carried out is one of the orders in which its tasks may end. It is
that of the jobs. -/
theorem exists_run_link (remote : Remote) (revision : String) (options : LinkOptions)
    (now : Timestamp) (said : (Job → String) → Prop) {panic : Job → String} (hsaid : said panic)
    (fs : FileSystem) (jobs : List Job) (limit : Nat) :
    ∃ moves s, Run limit (IsTask remote revision options now said) (State.initial fs jobs) moves s
      ∧ Stopped limit s ∧ (Move.ends moves).map Prod.fst = jobs
      ∧ (link fs jobs remote revision options limit now panic).value
        = (s.fileSystem, s.summary) := by
  obtain ⟨moves, hrun, -, horder⟩ := @State.runFor_run limit
    (task remote revision options now panic) (2 * jobs.length) (State.initial fs jobs)
  have hstopped := @State.stopped_runFor limit (task remote revision options now panic) fs jobs
  obtain ⟨hpending, hflight⟩ := stopped_iff.mp hstopped
  rw [hpending, hflight, List.append_nil, List.append_nil] at horder
  have htasks : ∀ worker, worker = task remote revision options now panic →
      IsTask remote revision options now said worker := fun _ h => ⟨panic, hsaid, h⟩
  exact ⟨moves, _, hrun.mono htasks, hstopped, horder, rfl⟩

/-- A batch as it is carried out does its jobs one after another, whatever the limit is. -/
theorem link_eq_inTurn (remote : Remote) (revision : String) (options : LinkOptions)
    (now : Timestamp) (fs : FileSystem) (jobs : List Job) (limit : Nat) (panic : Job → String) :
    (link fs jobs remote revision options limit now panic).value
      = ((inTurn remote revision options now fs jobs).1,
        ⟨jobs.length, (inTurn remote revision options now fs jobs).2.map (told panic)⟩) := by
  obtain ⟨moves, s, hrun, hstopped, horder, hlink⟩ :=
    exists_run_link remote revision options now (· = panic) rfl fs jobs limit
  have haccounts := accounts_run hrun
  have hstarts := haccounts.pending
  rw [(stopped_iff.mp hstopped).1, List.append_nil] at hstarts
  have hattempted : s.summary.attempted = jobs.length := by
    rw [haccounts.attempted, hstarts]
  obtain ⟨hfileSystem, htells⟩ := inTurn_of_run hrun
  rw [horder] at hfileSystem htells
  have hfailed := eq_map_of_tells htells
  rw [hlink, hfileSystem, ← hattempted, ← hfailed]

end Batch

end SourceServer
