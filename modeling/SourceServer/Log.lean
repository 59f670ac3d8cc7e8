import SourceServer.Capitalization
import SourceServer.Failure
import SourceServer.Text.Quoted

/-!
# What is logged

Every step worth knowing of is an event. A computation that logs returns its events beside its
value; events that come before a failure are kept.

- `Event`: the events, with their levels and wordings.
- `Logged`: a value with the events that led to it.
- `Task`: a computation that logs and may fail.
-/

namespace SourceServer

/-- How important an event is. -/
inductive Level where
  | debug
  | info
  | warning
  | error
deriving DecidableEq

/-- A step worth knowing of. -/
inductive Event where
  /-- A marked stream has another length than a checksum stream. -/
  | skippedStream (name : String) (length expected : Nat)
  /-- A path has no counterpart on disk. -/
  | unresolved (cause : Unresolved)
  /-- A candidate cannot be read. -/
  | unreadableCandidate (failure : Failure)
  /-- A recorded digest is that of a candidate. -/
  | verified (file : String) (candidate : Path)
  /-- A file without counterpart on disk is left out of the report. -/
  | droppedFromReport (file : String)
  | handling (pdb : Path)
  | references (pdb : Path) (files : Nat)
  | verifying
  /-- No candidate has the recorded digest of a file. -/
  | mismatch (file : Path) (checksum : String)
  | createdIndex (index : Path)
  | indexed (files : Nat) (index : Path)
  | failed (pdb : Path) (error : String)
  | finished (succeeded attempted : Nat)
  | createdSettings (path : Path)
  | logReady (file : Path)
  /-- There is no file that takes what is logged. -/
  | logUnavailable (error : IoError)
  | linking (pdbs : Nat) (remote revision : String)
  /-- The remote has no use for backslashes. -/
  | backslashesIgnored (remote url : String)
  | notIndexed (pdb : Path) (error : String)

namespace Event

/-- The level of an event. -/
def level : Event → Level
  | .skippedStream .. | .unresolved _ | .verified .. | .droppedFromReport _ | .references ..
  | .createdIndex _ | .indexed .. => .debug
  | .handling _ | .verifying | .finished .. | .createdSettings _ | .logReady _
  | .linking .. => .info
  | .unreadableCandidate _ | .mismatch .. | .logUnavailable _ | .backslashesIgnored ..
  | .notIndexed .. => .warning
  | .failed .. => .error

/-- The wording of an event. -/
def message : Event → String
  | .skippedStream name length expected =>
    "skipping stream '" ++ name ++ "' of " ++ toString length ++ " bytes (expected "
      ++ toString expected ++ ")"
  | .unresolved (.malformed path) => "cannot resolve malformed path " ++ Quoted.quote path
  | .unresolved .nameless => "cannot resolve path"
  | .unresolved (.unlistable directory error) =>
    "cannot list " ++ directory.text ++ ": " ++ error.message
  | .unresolved (.noMatch name directory) =>
    "no entry matching " ++ Quoted.quoteName name ++ " in " ++ directory.text
  | .unreadableCandidate failure => "cannot hash candidate file: " ++ failure.message
  | .verified file candidate => "'" ++ file ++ "' verified by '" ++ candidate.text ++ "'"
  | .droppedFromReport file => "dropping unresolvable file '" ++ file ++ "' from report"
  | .handling pdb => "handling pdb '" ++ pdb.text ++ "'"
  | .references pdb files =>
    "pdb '" ++ pdb.text ++ "' references " ++ toString files ++ " source file(s)"
  | .verifying => "verifying pdb file"
  | .mismatch file checksum =>
    "missing file '" ++ file.text ++ "' or checksum '" ++ checksum ++ "' did not match"
  | .createdIndex index => "created source server link file '" ++ index.text ++ "'"
  | .indexed files index => "indexed " ++ toString files ++ " file(s) into " ++ index.text
  | .failed pdb error =>
    "an error occurred while processing pdb '" ++ pdb.text ++ "': " ++ error
  | .finished succeeded attempted =>
    "all pdbs are done. " ++ toString succeeded ++ " of " ++ toString attempted ++ " succeeded"
  | .createdSettings path => "created default config at " ++ path.text
  | .logReady file => "srclink logging initialized at " ++ file.text
  | .logUnavailable error => "log file unavailable, logging to stderr: " ++ error.message
  | .linking pdbs remote revision =>
    "indexing " ++ toString pdbs ++ " pdb(s) with " ++ remote ++ " remote, revision " ++ revision
  | .backslashesIgnored remote url =>
    "--backslashes ignored for " ++ remote ++ " remote '" ++ url ++ "'"
  | .notIndexed pdb error => "pdb '" ++ pdb.text ++ "' not indexed: " ++ error

/-- The events of a path without counterpart on disk; a path with components that are no names is
passed over in silence. -/
def ofUnresolved : Unresolved → List Event
  | .nameless => []
  | cause => [.unresolved cause]

end Event

/-- A value with the events that led to it. -/
structure Logged (α : Type) where
  value : α
  events : List Event

namespace Logged

instance : Monad Logged where
  pure a := ⟨a, []⟩
  bind x f := ⟨(f x.value).value, x.events ++ (f x.value).events⟩

@[simp] theorem value_pure {α : Type} (a : α) : (pure a : Logged α).value = a := rfl

@[simp] theorem value_bind {α β : Type} (x : Logged α) (f : α → Logged β) :
    (x >>= f).value = (f x.value).value := rfl

@[simp] theorem events_pure {α : Type} (a : α) : (pure a : Logged α).events = [] := rfl

@[simp] theorem events_bind {α β : Type} (x : Logged α) (f : α → Logged β) :
    (x >>= f).events = x.events ++ (f x.value).events := rfl

instance : LawfulMonad Logged := LawfulMonad.mk' Logged
  (by intro α x; cases x; simp [Functor.map])
  (by intro α β a f; simp [pure, bind])
  (by intro α β γ x f g; simp [bind, List.append_assoc])

/-- Logs some events. -/
def log (events : List Event) : Logged Unit := ⟨(), events⟩

@[simp] theorem value_log (events : List Event) : (log events).value = () := rfl

end Logged

theorem bind_eq_ok {ε α β : Type} {x : Except ε α} {f : α → Except ε β} {b : β} :
    x >>= f = .ok b ↔ ∃ a, x = .ok a ∧ f a = .ok b := by
  cases x <;> simp [bind, Except.bind]

/-- A computation that logs and may fail. -/
abbrev Task (ε α : Type) := ExceptT ε Logged α

namespace Task

variable {ε α β : Type}

/-- How a task ends. -/
def result (t : Task ε α) : Except ε α := t.run.value

/-- What a task logs. -/
def events (t : Task ε α) : List Event := t.run.events

/-- Logs some events and goes on. -/
def log (events : List Event) : Task ε Unit := ExceptT.lift (Logged.log events)

/-- Takes over the end of another computation. -/
def ofExcept (r : Except ε α) : Task ε α := ExceptT.mk (pure r)

@[simp] theorem result_pure (a : α) : result (pure a : Task ε α) = .ok a := rfl

@[simp] theorem result_ofExcept (r : Except ε α) : result (ofExcept r) = r := rfl

@[simp] theorem result_log (events : List Event) :
    result (log events : Task ε Unit) = .ok () := rfl

@[simp] theorem result_throw (e : ε) : result (throw e : Task ε α) = .error e := rfl

@[simp] theorem result_lift (x : Logged α) :
    result (ExceptT.lift x : Task ε α) = .ok x.value := rfl

@[simp] theorem result_bind (t : Task ε α) (f : α → Task ε β) :
    result (t >>= f) = result t >>= fun a => result (f a) := by
  show (ExceptT.bind t f).run.value = _
  unfold ExceptT.bind ExceptT.bindCont result
  simp only [ExceptT.run, ExceptT.mk, Logged.value_bind]
  cases h : (t : Logged (Except ε α)).value <;> simp [bind, Except.bind, pure]

end Task

end SourceServer
