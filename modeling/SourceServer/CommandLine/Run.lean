import SourceServer.CommandLine.Commands
import SourceServer.CommandLine.Help

/-!
# A run of the program

A run reads its command line, prepares the file that takes what is logged, loads the settings and
does what it is told. It is a function of the arguments, the file system and the clock, and of what
the runtime says of tasks that break down.

- `Outcome`: what a run leaves behind.
- `CommandLine.run`: a whole run.
-/

namespace SourceServer

/-- How a run ends. -/
inductive Ending where
  | success
  | help
  | misuse (error : UsageError)
  | failure (error : CommandError)
deriving DecidableEq

namespace Ending

/-- The code with which the program exits. -/
def exitCode : Ending → Nat
  | .success | .help => 0
  | .misuse _ => 2
  | .failure error => if error.isBreakdown then 101 else 1

/-- What the program prints on errors. A breakdown that takes the program with it is told by the
runtime. -/
def errorText : Ending → String
  | .success | .help => ""
  | .misuse error => "error: " ++ error.message ++ "\n"
  | .failure error =>
    if error.isBreakdown then ""
    else "srclink error: " ++ ": ".intercalate error.chain ++ "\n"

end Ending

/-- What a run leaves behind. -/
structure Outcome where
  output : String
  ending : Ending
  /-- The file that takes what is logged, if there is one. -/
  logFile : Option Path

namespace CommandLine

/-- A run whose command line cannot be followed. -/
def interrupted : Interruption → Outcome
  | .help verb => ⟨Help.text verb, .help, none⟩
  | .misuse error => ⟨"", .misuse error, none⟩

/-- The file that takes what is logged, when it can be prepared. -/
def openLog (fs : FileSystem) (file : Path) : Logged (FileSystem × Option Path) :=
  match LogFile.prepare fs file with
  | (fs, .ok ()) => ⟨(fs, some file), [.logReady file]⟩
  | (fs, .error error) => ⟨(fs, none), [.logUnavailable error]⟩

/-- The end of a command. -/
def ending (report : Report) : Ending :=
  match report.error with
  | none => .success
  | some error => .failure error

/-- What a report leaves behind. -/
def outcome (logFile : Option Path) (report : Report) : Outcome :=
  ⟨String.join (report.lines.map (· ++ "\n")), ending report, logFile⟩

/-- A whole run (`run_from_args`): the file system afterwards and what else it leaves behind. -/
def run (directories : BaseDirectories) (fs : FileSystem) (now : Timestamp)
    (arguments : List String) (panic : Job → String := fun _ => "<panic>") :
    Logged (FileSystem × Outcome) := do
  match Arguments.parse arguments with
  | .error interruption => return (fs, interrupted interruption)
  | .ok invocation =>
    let (fs, logFile) ← openLog fs (invocation.logFile.getD directories.logFile)
    let (fs, settings) ← Settings.load directories fs
    match settings with
    | .error error => return (fs, outcome logFile (.ofError (.settings error)))
    | .ok settings =>
      let (fs, report) ← Commands.run fs settings now panic invocation.command
      return (fs, outcome logFile report)

end CommandLine

end SourceServer
