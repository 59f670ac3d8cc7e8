import Std.Time.Zoned
import SourceServer.CommandLine.Run

/-!
# The program

The outer layer: it gathers what a run depends on, and carries out what the run decides. The names
of the files in reach are read from standard input, one path a line, in the way that `find` prints
them; the paths among the arguments and the files of the user's settings and log are in reach
without being named.

- `main`: the program.
-/

namespace SourceServer

namespace Program

/-- The current moment of local time. -/
def clock : IO Timestamp := do
  let moment ← Std.Time.PlainDateTime.now
  return {
    year := moment.date.year.toInt
    month := moment.date.month.toNat
    day := moment.date.day.toNat
    hour := moment.time.hour.toNat
    minute := moment.time.minute.toNat
    second := moment.time.second.toNat }

/-- An environment variable that is a path. -/
def pathOf? (name : String) : IO (Option Path) := do
  return (← IO.getEnv name).map Path.mk

/-- Where the user keeps things. -/
def directories : IO BaseDirectories := do
  return {
    home := (← pathOf? "HOME").getD ⟨"/"⟩
    settings := ← pathOf? "XDG_CONFIG_HOME"
    state := ← pathOf? "XDG_STATE_HOME" }

/-- The file or the directory that a path names, when it names one. -/
def look (path : Path) : IO (Option Node) := do
  try
    return some (.file (← IO.FS.readBinFile path.text))
  catch error =>
    match error with
    | .inappropriateType .. => return some (.directory [])
    | _ => return none

/-- A file system with one more path of the disk in it. -/
def reach (fs : FileSystem) (path : Path) : IO FileSystem := do
  if fs.contains path then return fs
  match ← look path with
  | none => return fs
  | some (.directory _) => return (fs.createDirectories path).1
  | some (.file content) =>
    let fs := (Settings.makeRoomFor fs path).1
    match fs.write path content with
    | .ok fs => return fs
    | .error _ => return fs

/-- The paths on standard input. -/
partial def namedPaths (input : IO.FS.Stream) (found : List Path) : IO (List Path) := do
  let line ← input.getLine
  if line.isEmpty then return found.reverse
  let name := String.ofList (line.toList.reverse.dropWhile (· == '\n')).reverse
  namedPaths input (⟨name⟩ :: found)

/-- The current directory. -/
def currentDirectory : IO (List String) := do
  return FileSystem.steps ((← pathOf? "PWD").getD ⟨"/"⟩)

/-- Everything in reach. -/
def gather (directories : BaseDirectories) (arguments : List String) : IO FileSystem := do
  let named ← namedPaths (← IO.getStdin) []
  let own := [directories.settingsFile, directories.logFile]
  let paths := own ++ arguments.map Path.mk ++ named
  paths.foldlM reach (FileSystem.empty (← currentDirectory))

/-- Carries one change of a file system over to the disk. -/
def carryOver (before after : FileSystem) (names : List String) : IO Unit := do
  let place := "/" ++ "/".intercalate names
  match before.root.find? names, after.root.find? names with
  | none, some (.directory _) => IO.FS.createDirAll place
  | some (.file old), some (.file new) =>
    if old.data ≠ new.data then IO.FS.writeBinFile place new
  | _, some (.file new) => IO.FS.writeBinFile place new
  | _, _ => pure ()

/-- What a level is called. -/
def levelName : Level → String
  | .debug => "DEBUG"
  | .info => " INFO"
  | .warning => " WARN"
  | .error => "ERROR"

/-- Adds events to the file that takes them, or to what is printed on errors. -/
def record (file : Option Path) (events : List Event) : IO Unit := do
  let lines :=
    String.join (events.map fun event => levelName event.level ++ " " ++ event.message ++ "\n")
  match file with
  | some file =>
    let handle ← IO.FS.Handle.mk file.text .append
    handle.putStr lines
  | none => IO.eprint lines

end Program

end SourceServer

open SourceServer in
/-- The program: it exits with the code of its run. -/
def main (arguments : List String) : IO UInt32 := do
  let directories ← Program.directories
  let before ← Program.gather directories arguments
  let now ← Program.clock
  let run := CommandLine.run directories before now arguments
  let (after, outcome) := run.value
  for (names, _) in after.root.paths do
    Program.carryOver before after names
  Program.record outcome.logFile run.events
  IO.print outcome.output
  IO.eprint outcome.ending.errorText
  return outcome.ending.exitCode.toUInt32
