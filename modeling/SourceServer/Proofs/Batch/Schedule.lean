import Mathlib.Data.List.Perm.Basic
import SourceServer.Batch

/-!
# Schedules of a batch

A batch moves by taking up the next pending job or by ending any job in flight, and which of them
comes next is left open: a run is any order of moves. What is counted depends on the endings alone.

- `Batch.Step`, `Batch.Run`: a move, and a row of moves.
- `Batch.Accounts`: the invariant that ties the pending jobs, those in flight and the tallies to the
  moves so far.
- `Batch.run_accounts`: the accounts of every run, and of those that cannot go on.
- `Batch.State.runFor_run`: the order in which a batch is carried out is one of the runs.
-/

namespace SourceServer

namespace Batch

/-- How a job ends: with what linking returned, or with what is said about its failure, a breakdown
included. -/
abbrev Ending := Except String LinkOutcome

/-- A move of a batch. -/
inductive Move where
  | started (job : Job)
  | ended (job : Job) (ending : Ending)

namespace Move

/-- The jobs that some moves took up, in their order. -/
def starts (moves : List Move) : List Job :=
  moves.filterMap fun
    | .started job => some job
    | .ended .. => none

/-- The jobs that some moves ended, in their order, each with its ending. -/
def ends (moves : List Move) : List (Job × Ending) :=
  moves.filterMap fun
    | .started _ => none
    | .ended job ending => some (job, ending)

@[simp] theorem starts_append_started (moves : List Move) (job : Job) :
    starts (moves ++ [.started job]) = starts moves ++ [job] := by
  simp [starts]

@[simp] theorem starts_append_ended (moves : List Move) (job : Job) (ending : Ending) :
    starts (moves ++ [.ended job ending]) = starts moves := by
  simp [starts]

@[simp] theorem ends_append_started (moves : List Move) (job : Job) :
    ends (moves ++ [.started job]) = ends moves := by
  simp [ends]

@[simp] theorem ends_append_ended (moves : List Move) (job : Job) (ending : Ending) :
    ends (moves ++ [.ended job ending]) = ends moves ++ [(job, ending)] := by
  simp [ends]

@[simp] theorem ends_started_cons (job : Job) (moves : List Move) :
    ends (.started job :: moves) = ends moves := rfl

@[simp] theorem ends_ended_cons (job : Job) (ending : Ending) (moves : List Move) :
    ends (.ended job ending :: moves) = (job, ending) :: ends moves := rfl

theorem length_starts_add_length_ends (moves : List Move) :
    (starts moves).length + (ends moves).length = moves.length := by
  induction moves with
  | nil => rfl
  | cons move rest ih =>
    cases move with
    | started job =>
      show (job :: starts rest).length + (ends rest).length = rest.length + 1
      rw [List.length_cons, ← ih]
      omega
    | ended job ending =>
      show (starts rest).length + ((job, ending) :: ends rest).length = rest.length + 1
      rw [List.length_cons, ← ih]
      omega

end Move

/-- What a job that ended adds to the failures: nothing when it succeeded. -/
def failure? (ended : Job × Ending) : Option (Path × String) :=
  match ended.2 with
  | .ok _ => none
  | .error text => some (ended.1.pdb, text)

/-- One move of a batch. A job in flight ends in the way of some admitted worker. -/
inductive Step (limit : Nat) (admitted : Worker → Prop) : State → Move → State → Prop
  | start {s next : State} {job : Job} {rest : List Job} (hpending : s.pending = job :: rest)
      (hstart : s.start? limit = some next) : Step limit admitted s (.started job) next
  | complete {s next : State} {worker : Worker} {position : Nat} {job : Job}
      (hadmitted : admitted worker) (hjob : s.inFlight[position]? = some job)
      (hcomplete : s.completeAt? worker position = some next) :
      Step limit admitted s (.ended job (worker s.fileSystem job).value.2) next

/-- A row of moves. -/
inductive Run (limit : Nat) (admitted : Worker → Prop) (s : State) : List Move → State → Prop
  | nil : Run limit admitted s [] s
  | snoc {moves : List Move} {move : Move} {t u : State} (hrun : Run limit admitted s moves t)
      (hstep : Step limit admitted t move u) : Run limit admitted s (moves ++ [move]) u

/-- Jobs may end in any way. -/
def anyWorker : Worker → Prop := fun _ => True

/-- No move is left, whatever the jobs in flight do. -/
def Stopped (limit : Nat) (s : State) : Prop :=
  ∀ move next, ¬ Step limit anyWorker s move next

/-! ## What one move does -/

variable {limit : Nat} {admitted : Worker → Prop}

theorem start?_eq_some {s next : State} (h : s.start? limit = some next) :
    ∃ job rest, s.pending = job :: rest ∧ s.inFlight.length < max 1 limit
      ∧ next = { s with
        pending := rest
        inFlight := s.inFlight ++ [job]
        summary := { s.summary with attempted := s.summary.attempted + 1 } } := by
  rw [State.start?] at h
  cases hpending : s.pending with
  | nil => simp [hpending] at h
  | cons job rest =>
    simp only [hpending] at h
    split at h
    · rename_i hroom
      exact ⟨job, rest, rfl, hroom, (Option.some.inj h).symm⟩
    · cases h

theorem completeAt?_eq_some {worker : Worker} {position : Nat} {s next : State} {job : Job}
    (hjob : s.inFlight[position]? = some job) (h : s.completeAt? worker position = some next) :
    next.fileSystem = (worker s.fileSystem job).value.1 ∧ next.pending = s.pending
      ∧ next.inFlight = s.inFlight.eraseIdx position
      ∧ next.summary.attempted = s.summary.attempted
      ∧ next.summary.failed
        = s.summary.failed ++ (failure? (job, (worker s.fileSystem job).value.2)).toList := by
  rw [State.completeAt?, hjob] at h
  simp only [Option.some.injEq] at h
  subst h
  cases hending : (worker s.fileSystem job).value.2 <;> simp [State.record, failure?]

/-- With nothing in flight there is room for a job, so one that cannot be taken up is not pending. -/
theorem pending_eq_nil {s : State} (hflight : s.inFlight = []) (h : s.start? limit = none) :
    s.pending = [] := by
  cases hpending : s.pending with
  | nil => rfl
  | cons job rest =>
    have hroom : s.inFlight.length < max 1 limit := by
      rw [hflight, List.length_nil]
      omega
    simp [State.start?, hpending, hroom] at h

theorem exists_complete {s : State} {position : Nat} {job : Job}
    (hjob : s.inFlight[position]? = some job) (worker : Worker) :
    ∃ next, s.completeAt? worker position = some next := by
  rw [State.completeAt?, hjob]
  exact ⟨_, rfl⟩

/-- Any job in flight can end in any way. -/
theorem exists_step_ended {s : State} {position : Nat} {job : Job}
    (hjob : s.inFlight[position]? = some job) (ending : Ending) :
    ∃ next, Step limit anyWorker s (.ended job ending) next := by
  obtain ⟨next, hnext⟩ := exists_complete hjob fun fs _ => ⟨(fs, ending), []⟩
  exact ⟨next, .complete trivial hjob hnext⟩

/-- A batch stops only when nothing is pending or in flight: a batch that cannot take up a job has
one in flight. -/
theorem stopped_iff {s : State} : Stopped limit s ↔ s.pending = [] ∧ s.inFlight = [] := by
  constructor
  · intro hstopped
    -- a job in flight could end
    have hflight : s.inFlight = [] := by
      cases hjobs : s.inFlight with
      | nil => rfl
      | cons job rest =>
        have hjob : s.inFlight[0]? = some job := by rw [hjobs]; rfl
        obtain ⟨next, hstep⟩ := exists_step_ended hjob (.error (wording "" .breakdown))
        exact absurd hstep (hstopped _ next)
    have hstart : s.start? limit = none := by
      cases hnext : s.start? limit with
      | none => rfl
      | some next =>
        obtain ⟨job, rest, hpending, -⟩ := start?_eq_some hnext
        exact absurd (.start hpending hnext) (hstopped _ next)
    exact ⟨pending_eq_nil hflight hstart, hflight⟩
  · rintro ⟨hpending, hflight⟩ move next hstep
    cases hstep with
    | start hjob hstart => rw [hpending] at hjob; cases hjob
    | complete hadmitted hjob hcomplete => rw [hflight] at hjob; cases hjob

/-! ## The accounts of a run -/

/-- What the moves so far say about a batch of some jobs: the jobs are taken up in their order; what
was taken up is in flight or has ended; the tallies count the jobs taken up and list the endings
that failed; and no more than the limit are in flight. -/
structure Accounts (limit : Nat) (jobs : List Job) (moves : List Move) (s : State) : Prop where
  pending : Move.starts moves ++ s.pending = jobs
  taken : (s.inFlight ++ (Move.ends moves).map Prod.fst).Perm (Move.starts moves)
  attempted : s.summary.attempted = (Move.starts moves).length
  failed : s.summary.failed = (Move.ends moves).filterMap failure?
  bounded : s.inFlight.length ≤ max 1 limit

theorem accounts_initial (fs : FileSystem) (jobs : List Job) :
    Accounts limit jobs [] (State.initial fs jobs) where
  pending := rfl
  taken := .refl _
  attempted := rfl
  failed := rfl
  bounded := Nat.zero_le _

/-- Every move keeps the accounts. -/
theorem accounts_step {jobs : List Job} {moves : List Move} {move : Move} {s next : State}
    (h : Accounts limit jobs moves s) (hstep : Step limit admitted s move next) :
    Accounts limit jobs (moves ++ [move]) next := by
  cases hstep with
  | @start _ job rest hpending hstart =>
    obtain ⟨first, others, hfirst, hroom, rfl⟩ := start?_eq_some hstart
    obtain ⟨rfl, rfl⟩ := List.cons.inj (hfirst.symm.trans hpending)
    refine { pending := ?_, taken := ?_, attempted := ?_, failed := ?_, bounded := ?_ }
    · rw [Move.starts_append_started, ← h.pending, hfirst]
      simp
    · -- the job goes from behind those in flight to behind those taken up
      rw [Move.starts_append_started, Move.ends_append_started, List.append_assoc]
      refine (List.perm_append_comm.append_left _).trans ?_
      rw [← List.append_assoc]
      exact h.taken.append_right _
    · simp [h.attempted]
    · simpa using h.failed
    · rw [List.length_append, List.length_singleton]
      exact hroom
  | @complete _ worker position job hadmitted hjob hcomplete =>
    obtain ⟨-, hpending, hflight, hattempted, hfailed⟩ := completeAt?_eq_some hjob hcomplete
    obtain ⟨hposition, rfl⟩ := List.getElem?_eq_some_iff.mp hjob
    refine { pending := ?_, taken := ?_, attempted := ?_, failed := ?_, bounded := ?_ }
    · rw [Move.starts_append_ended, hpending]
      exact h.pending
    · -- the job goes from among those in flight to behind those that ended
      rw [Move.starts_append_ended, Move.ends_append_ended, List.map_append, hflight]
      refine .trans ?_ h.taken
      refine .trans ?_ ((List.getElem_cons_eraseIdx_perm hposition).append_right _)
      rw [← List.append_assoc]
      exact List.perm_append_singleton _ _
    · rw [Move.starts_append_ended, hattempted]
      exact h.attempted
    · rw [Move.ends_append_ended, List.filterMap_append, hfailed, h.failed]
      rfl
    · rw [hflight]
      exact Nat.le_trans (List.length_eraseIdx_le ..) h.bounded

/-- The accounts hold along every run. -/
theorem accounts_run {fs : FileSystem} {jobs : List Job} {moves : List Move} {s : State}
    (hrun : Run limit admitted (State.initial fs jobs) moves s) : Accounts limit jobs moves s := by
  induction hrun with
  | nil => exact accounts_initial fs jobs
  | snoc _ hstep ih => exact accounts_step ih hstep

namespace Accounts

variable {jobs : List Job} {moves : List Move} {s : State}

/-- The jobs taken up are in flight or have ended. -/
theorem attempted_eq (h : Accounts limit jobs moves s) :
    s.summary.attempted = s.inFlight.length + (Move.ends moves).length := by
  rw [h.attempted, ← h.taken.length_eq, List.length_append, List.length_map]

/-- Only jobs that were taken up fail. -/
theorem length_failed_le (h : Accounts limit jobs moves s) :
    s.summary.failed.length ≤ s.summary.attempted := by
  have hends := List.length_filterMap_le failure? (Move.ends moves)
  rw [h.attempted_eq, h.failed]
  omega

/-- When nothing is left to do, the jobs that ended are the jobs of the batch. -/
theorem ends_perm (h : Accounts limit jobs moves s) (hpending : s.pending = [])
    (hflight : s.inFlight = []) : ((Move.ends moves).map Prod.fst).Perm jobs := by
  have hstarts : Move.starts moves = jobs := by
    rw [← h.pending, hpending, List.append_nil]
  rw [← hstarts]
  simpa [hflight] using h.taken

end Accounts

/-- Jobs that ended in some order, in the order of the jobs. -/
theorem exists_endings {jobs : List Job} {ended : List (Job × Ending)}
    (h : (ended.map Prod.fst).Perm jobs) :
    ∃ endings : List Ending, endings.length = jobs.length ∧ ended.Perm (jobs.zip endings) := by
  -- jobs may be equal and end differently, so the pairs are sorted and not looked up
  obtain ⟨sorted, hjobs, hperm⟩ :=
    (congrFun (congrFun (List.eq_map_comp_perm Prod.fst) jobs) ended).mpr h.symm
  refine ⟨sorted.map Prod.snd, ?_, ?_⟩
  · rw [hjobs, List.length_map, List.length_map]
  · rw [hjobs, ← List.unzip_fst, ← List.unzip_snd, List.zip_unzip]
    exact hperm.symm

/-- **The accounts of a batch**, for any jobs, any limit and any order in which jobs end, whatever
way they end in. At every moment the limit is kept, what was attempted is in flight or has ended,
and the failures are among the attempts. A run is no longer than two moves a job; it stops only when
nothing is pending or in flight, and then every job was taken up once, has ended once, and is among
the failures exactly if its own ending is one. -/
theorem run_accounts {fs : FileSystem} {jobs : List Job} {moves : List Move} {s : State}
    (hrun : Run limit anyWorker (State.initial fs jobs) moves s) :
    s.inFlight.length ≤ max 1 limit
      ∧ s.summary.attempted = s.inFlight.length + (Move.ends moves).length
      ∧ s.summary.failed.length ≤ s.summary.attempted
      ∧ s.summary.succeeded + s.summary.failed.length = s.summary.attempted
      ∧ moves.length ≤ 2 * jobs.length
      ∧ (Stopped limit s →
        s.pending = [] ∧ s.inFlight = [] ∧ Move.starts moves = jobs
          ∧ s.summary.attempted = jobs.length
          ∧ ∃ endings : List Ending, endings.length = jobs.length
            ∧ (Move.ends moves).Perm (jobs.zip endings)
            ∧ s.summary.failed.Perm ((jobs.zip endings).filterMap failure?)) := by
  have h := accounts_run hrun
  refine ⟨h.bounded, h.attempted_eq, h.length_failed_le, ?_, ?_, ?_⟩
  · have hfailed := h.length_failed_le
    rw [Summary.succeeded]
    omega
  · have hstarts : (Move.starts moves).length ≤ jobs.length := by
      rw [← h.pending, List.length_append]
      omega
    have hends := h.attempted.symm.trans h.attempted_eq
    rw [← Move.length_starts_add_length_ends]
    omega
  · intro hstopped
    obtain ⟨hpending, hflight⟩ := stopped_iff.mp hstopped
    have hstarts : Move.starts moves = jobs := by
      rw [← h.pending, hpending, List.append_nil]
    obtain ⟨endings, hlength, hperm⟩ := exists_endings (h.ends_perm hpending hflight)
    refine ⟨hpending, hflight, hstarts, ?_, endings, hlength, hperm, ?_⟩
    · rw [h.attempted, hstarts]
    · rw [h.failed]
      exact hperm.filterMap failure?

/-- Two jobs one at a time, of which the first breaks down. -/
theorem run_accounts_of_breakdown :
    ∃ moves s, Run 0 anyWorker (State.initial (.empty []) [.ofPdb ⟨"a"⟩, .ofPdb ⟨"b"⟩]) moves s
      ∧ Stopped 0 s ∧ s.summary.attempted = 2 ∧ s.summary.succeeded = 1 := by
  let broken : Worker := fun fs _ => ⟨(fs, .error (wording "task 2 panicked" .breakdown)), []⟩
  let done : Worker := fun fs _ => ⟨(fs, .ok ⟨⟨""⟩, 0, ∅⟩), []⟩
  have hrun : Run 0 anyWorker (State.initial (.empty []) [.ofPdb ⟨"a"⟩, .ofPdb ⟨"b"⟩]) _ _ :=
    (((Run.nil.snoc (.start rfl rfl)).snoc (@Step.complete _ _ _ _ broken 0 _ trivial rfl rfl)).snoc
      (.start rfl rfl)).snoc (@Step.complete _ _ _ _ done 0 _ trivial rfl rfl)
  refine ⟨_, _, hrun, stopped_iff.mpr ⟨rfl, rfl⟩, ?_, rfl⟩
  obtain ⟨-, -, -, -, -, hend⟩ := run_accounts hrun
  obtain ⟨-, -, -, hattempted, -⟩ := hend (stopped_iff.mpr ⟨rfl, rfl⟩)
  exact hattempted

/-! ## The order in which a batch is carried out -/

/-- A row of moves after another. -/
theorem Run.append {s t u : State} {first second : List Move}
    (hfirst : Run limit admitted s first t) (hsecond : Run limit admitted t second u) :
    Run limit admitted s (first ++ second) u := by
  induction hsecond with
  | nil => rwa [List.append_nil]
  | snoc _ hstep ih =>
    rw [← List.append_assoc]
    exact ih.snoc hstep

/-- A run stays a run when more workers are admitted. -/
theorem Run.mono {others : Worker → Prop}
    (hadmitted : ∀ worker, admitted worker → others worker) {s t : State} {moves : List Move}
    (hrun : Run limit admitted s moves t) : Run limit others s moves t := by
  induction hrun with
  | nil => exact .nil
  | snoc _ hstep ih =>
    refine ih.snoc ?_
    cases hstep with
    | start hpending hstart => exact .start hpending hstart
    | complete hworker hjob hcomplete => exact .complete (hadmitted _ hworker) hjob hcomplete

/-- Carrying out a batch makes moves until the fuel is used up or no move is left. The jobs end in the
order in which they were taken up. -/
theorem State.runFor_run (worker : Worker) (fuel : Nat) (s : State) :
    ∃ moves, Run limit (· = worker) s moves (s.runFor worker limit fuel)
      ∧ (moves.length = fuel ∨ Stopped limit (s.runFor worker limit fuel))
      ∧ (Move.ends moves).map Prod.fst ++ (s.runFor worker limit fuel).inFlight
          ++ (s.runFor worker limit fuel).pending = s.inFlight ++ s.pending := by
  induction fuel generalizing s with
  | zero => exact ⟨[], .nil, .inl rfl, rfl⟩
  | succ fuel ih =>
    rw [State.runFor]
    cases hstart : s.start? limit with
    | some next =>
      obtain ⟨job, rest, hpending, -, hnext⟩ := start?_eq_some hstart
      obtain ⟨moves, hrun, hend, horder⟩ := ih next
      have hstep : Step limit (· = worker) s _ next := .start hpending hstart
      refine ⟨_, (Run.nil.snoc hstep).append hrun, hend.imp_left fun h => by simp [h], ?_⟩
      dsimp only
      rw [List.nil_append, List.singleton_append, Move.ends_started_cons, horder, hnext, hpending]
      simp
    | none =>
      cases hjob : s.inFlight with
      | nil =>
        have hcomplete : s.completeAt? worker 0 = none := by simp [State.completeAt?, hjob]
        rw [hcomplete]
        exact ⟨[], .nil, .inr (stopped_iff.mpr ⟨pending_eq_nil hjob hstart, hjob⟩),
          by simp [Move.ends, hjob]⟩
      | cons job rest =>
        have hfirst : s.inFlight[0]? = some job := by rw [hjob]; rfl
        obtain ⟨next, hcomplete⟩ := exists_complete hfirst worker
        rw [hcomplete]
        have hstep : Step limit (· = worker) s _ next := .complete rfl hfirst hcomplete
        obtain ⟨moves, hrun, hend, horder⟩ := ih next
        obtain ⟨-, hpending, hflight, -⟩ := completeAt?_eq_some hfirst hcomplete
        refine ⟨_, (Run.nil.snoc hstep).append hrun, hend.imp_left fun h => by simp [h], ?_⟩
        dsimp only
        rw [List.nil_append, List.singleton_append, Move.ends_ended_cons, List.map_cons,
          List.cons_append, List.cons_append, horder, hpending, hflight, hjob]
        rfl

/-- A batch is carried out to its end: two moves a job are enough. -/
theorem State.stopped_runFor (worker : Worker) (fs : FileSystem) (jobs : List Job) :
    Stopped limit ((State.initial fs jobs).runFor worker limit (2 * jobs.length)) := by
  obtain ⟨moves, hrun, hlength | hstopped, -⟩ :=
    @State.runFor_run limit worker (2 * jobs.length) (State.initial fs jobs)
  · -- the moves are two for each job, so every job was taken up and has ended
    have h := accounts_run hrun
    have hjobs := congrArg List.length h.pending
    have htaken := h.taken.length_eq
    have hmoves := Move.length_starts_add_length_ends moves
    rw [List.length_append] at hjobs
    rw [List.length_append, List.length_map] at htaken
    refine stopped_iff.mpr ⟨List.eq_nil_of_length_eq_zero ?_, List.eq_nil_of_length_eq_zero ?_⟩
    · omega
    · omega
  · exact hstopped

end Batch

end SourceServer
