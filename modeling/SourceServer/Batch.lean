import SourceServer.Link

/-!
# Linking many symbol files

Many symbol files are linked with a bounded number in flight, as `link_all` does it. A failure is
recorded against its symbol file and stops none of the others. A breakdown is a failure like any
other here, but what is recorded about it is said by the runtime that caught it.

- `Batch.State`: what is pending, in flight and done.
- `Batch.State.start?`, `Batch.State.completeAt?`: the two moves.
- `Batch.task`: how a job is done, for what the runtime says of a breakdown.
- `Batch.run`: the moves in one fixed order.
- `Batch.Summary`: what is counted.
-/

namespace SourceServer

namespace Batch

/-- How a batch went (`BatchSummary`). -/
structure Summary where
  attempted : Nat
  /-- The symbol files that failed, in the order of completion, with what is said about it. -/
  failed : List (Path × String)

/-- The number of symbol files that were indexed. -/
def Summary.succeeded (s : Summary) : Nat :=
  s.attempted - s.failed.length

/-- Whether nothing failed. -/
def Summary.isSuccess (s : Summary) : Bool :=
  s.failed.isEmpty

/-- What is recorded about a failure. A job that breaks down takes its task with it, and the runtime
says of the task what it likes. -/
def wording (panic : String) : Failure → String
  | .breakdown => "symbol file task: " ++ panic
  | failure => failure.message

/-- How a job is done: the file system afterwards, and how it ended. -/
abbrev Worker := FileSystem → Job → Logged (FileSystem × Except String LinkOutcome)

/-- The task of a job: the symbol file is linked, and a failure is put into words. What the runtime
says of a breakdown is `panic`; it tells tasks apart by numbers that go by the order in which they
were taken up. -/
def task (remote : Remote) (revision : String) (options : LinkOptions) (now : Timestamp)
    (panic : Job → String) : Worker := fun fs job => do
  let (fs, outcome) ← SourceServer.link fs job remote revision options now
  return (fs, outcome.mapError (wording (panic job)))

/-- A batch on its way. -/
structure State where
  fileSystem : FileSystem
  pending : List Job
  inFlight : List Job
  summary : Summary
  events : List Event

namespace State

/-- The next pending job taken up, unless there is none or too many are in flight. -/
def start? (limit : Nat) (s : State) : Option State :=
  match s.pending with
  | [] => none
  | job :: rest =>
    if s.inFlight.length < max 1 limit then
      some
        { s with
          pending := rest
          inFlight := s.inFlight ++ [job]
          summary := { s.summary with attempted := s.summary.attempted + 1 } }
    else none

/-- The tally and the log after a job has ended. -/
def record (s : State) (job : Job) : Except String LinkOutcome → State
  | .ok outcome =>
    { s with events := s.events ++ [.indexed outcome.indexedFiles outcome.index] }
  | .error text =>
    { s with
      summary := { s.summary with failed := s.summary.failed ++ [(job.pdb, text)] }
      events := s.events ++ [.failed job.pdb text] }

/-- One of the jobs in flight done. -/
def completeAt? (worker : Worker) (position : Nat) (s : State) : Option State :=
  match s.inFlight[position]? with
  | none => none
  | some job =>
    let done := worker s.fileSystem job
    let s :=
      { s with
        fileSystem := done.value.1
        inFlight := s.inFlight.eraseIdx position
        events := s.events ++ done.events }
    some (s.record job done.value.2)

/-- Takes up jobs while it can, and completes the oldest one when it cannot; `fuel` bounds the
moves. -/
def runFor (worker : Worker) (limit : Nat) : Nat → State → State
  | 0, s => s
  | fuel + 1, s =>
    match s.start? limit with
    | some next => runFor worker limit fuel next
    | none =>
      match s.completeAt? worker 0 with
      | some next => runFor worker limit fuel next
      | none => s

/-- A batch before its first move. -/
def initial (fs : FileSystem) (jobs : List Job) : State :=
  ⟨fs, jobs, [], ⟨0, []⟩, []⟩

end State

/-- Does all jobs: each is taken up once and completed once. -/
def run (worker : Worker) (limit : Nat) (fs : FileSystem) (jobs : List Job) :
    Logged (FileSystem × Summary) :=
  let final := (State.initial fs jobs).runFor worker limit (2 * jobs.length)
  { value := (final.fileSystem, final.summary)
    events := final.events ++ [.finished final.summary.succeeded final.summary.attempted] }

/-- Links many symbol files (`link_all`). -/
def link (fs : FileSystem) (jobs : List Job) (remote : Remote) (revision : String)
    (options : LinkOptions) (limit : Nat) (now : Timestamp)
    (panic : Job → String := fun _ => "<panic>") : Logged (FileSystem × Summary) :=
  run (task remote revision options now panic) limit fs jobs

end Batch

end SourceServer
