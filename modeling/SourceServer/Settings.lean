import SourceServer.Log
import SourceServer.Toml

/-!
# Settings

What a user sets once for all runs stands in a TOML document below the user's directory of settings.
A missing document is written with the default settings.

- `Settings`, `Settings.initial`: the settings and their defaults.
- `Settings.ofText?`: the settings of a document.
- `BaseDirectories`: where a user keeps settings and state.
- `Settings.load`, `Settings.loadFrom`: the settings of a user.
- `LogFile.prepare`: the file that takes what is logged.
-/

namespace SourceServer

/-- What a user sets for all runs (`SrcLinkConfig`). -/
structure Settings where
  /-- How many symbol files are in work at a time. -/
  jobs : Nat
  powershell : Bool
  skipVerify : Bool
  errorsAsWarnings : Bool
  lineEnding : Option Index.LineEnding
deriving DecidableEq

/-- Why there are no settings. -/
inductive SettingsError where
  | io (error : IoError)
  /-- The document is not TOML, or lacks a setting, or has one of another type. -/
  | malformed
deriving DecidableEq

namespace Settings

/-- The settings of a user who has set nothing. -/
def initial : Settings :=
  ⟨4, false, false, false, none⟩

/-- The document of the default settings. -/
def initialText : String :=
  "jobs = 4\ndownload_with_powershell = false\nskip_verify = false\nerrors_as_warnings = false\n"

/-- A setting that is a number. -/
def number? (entries : Toml.Entries) (key : String) : Option Nat :=
  match entries.lookup key with
  | some (.integer n) => if 0 ≤ n then some n.toNat else none
  | _ => none

/-- A setting that is on or off. -/
def switch? (entries : Toml.Entries) (key : String) : Option Bool :=
  match entries.lookup key with
  | some (.boolean b) => some b
  | _ => none

/-- A line ending by its name. -/
def lineEndingNamed? (name : String) : Option Index.LineEnding :=
  if name = "crlf" then some .crlf else if name = "lf" then some .lf else none

/-- A value that holds nothing. -/
def isHollow : Toml.Value → Bool
  | .table _ entries => entries.isEmpty
  | .array items => items.isEmpty
  | .tables items => items.isEmpty
  | _ => false

/-- The line ending that a table stands for: its first key names it and holds nothing. In braces
there is no other key. -/
def lineEndingOfTable? (origin : Toml.Origin) (entries : Toml.Entries) : Option Index.LineEnding :=
  match entries with
  | [] => none
  | (name, value) :: rest =>
    if origin = .braces ∧ rest ≠ [] then none
    else if isHollow value then lineEndingNamed? name
    else none

/-- The line ending, which may be left out. -/
def lineEnding? (entries : Toml.Entries) : Option (Option Index.LineEnding) :=
  match entries.lookup "line_ending" with
  | none => some none
  | some (.text name) => (lineEndingNamed? name).map some
  | some (.table origin inner) => (lineEndingOfTable? origin inner).map some
  | some _ => none

/-- The settings of a table; other keys do not count. -/
def ofEntries? (entries : Toml.Entries) : Option Settings := do
  return {
    jobs := ← number? entries "jobs"
    powershell := ← switch? entries "download_with_powershell"
    skipVerify := ← switch? entries "skip_verify"
    errorsAsWarnings := ← switch? entries "errors_as_warnings"
    lineEnding := ← lineEnding? entries }

/-- The settings of a document. -/
def ofText? (text : String) : Option Settings :=
  (Toml.parse text).bind ofEntries?

/-- Makes the directories that a file stands in. -/
def makeRoomFor (fs : FileSystem) (file : Path) : FileSystem × Except IoError Unit :=
  match file.parent? with
  | some directory => fs.createDirectories directory
  | none => (fs, .ok ())

/-- Writes the default settings into a new file. -/
def writeInitial (fs : FileSystem) (file : Path) :
    Logged (FileSystem × Except SettingsError Settings) :=
  match makeRoomFor fs file with
  | (fs, .error error) => ⟨(fs, .error (.io error)), []⟩
  | (fs, .ok ()) =>
    match fs.write file initialText.toUTF8 with
    | .error error => ⟨(fs, .error (.io error)), []⟩
    | .ok fs => ⟨(fs, .ok initial), [.createdSettings file]⟩

/-- Reads settings from a file. -/
def read (fs : FileSystem) (file : Path) : Except SettingsError Settings :=
  match fs.readText file with
  | .error error => .error (.io error)
  | .ok text =>
    match ofText? text with
    | some settings => .ok settings
    | none => .error .malformed

/-- Reads settings from a file, or writes the default settings there when it is missing
(`load_or_init_at`). -/
def loadFrom (fs : FileSystem) (file : Path) :
    Logged (FileSystem × Except SettingsError Settings) :=
  if fs.contains file then ⟨(fs, read fs file), []⟩ else writeInitial fs file

end Settings

/-! ## Where things are kept -/

/-- Where a user keeps things. Directories of settings and state may be given on their own, and
count only when they are absolute. -/
structure BaseDirectories where
  home : Path
  settings : Option Path
  state : Option Path

namespace BaseDirectories

/-- The name of the program's part of a directory. -/
def program : Path := ⟨"srclink"⟩

/-- A directory given on its own, or else the usual one below the home directory. -/
def choose (home : Path) (given : Option Path) (usual : String) : Path :=
  match given with
  | some directory => if directory.isAbsolute then directory else home.join ⟨usual⟩
  | none => home.join ⟨usual⟩

/-- The program's directory of settings. -/
def settingsDirectory (b : BaseDirectories) : Path :=
  (choose b.home b.settings ".config").join program

/-- The program's directory of state. -/
def stateDirectory (b : BaseDirectories) : Path :=
  (choose b.home b.state ".local/state").join program

/-- The file of settings. -/
def settingsFile (b : BaseDirectories) : Path :=
  b.settingsDirectory.join ⟨"config.toml"⟩

/-- The file for what is logged stands in a directory of its own. -/
def logFile (b : BaseDirectories) : Path :=
  (b.stateDirectory.join program).join ⟨"srclink.log"⟩

/-- Makes the directory of settings and names the file in it (`config_path`). -/
def placeSettings (b : BaseDirectories) (fs : FileSystem) : FileSystem × Except IoError Path :=
  match fs.createDirectories b.settingsDirectory with
  | (fs, .error error) => (fs, .error error)
  | (fs, .ok ()) => (fs, .ok b.settingsFile)

end BaseDirectories

/-- The settings of a user (`load_or_init`). -/
def Settings.load (b : BaseDirectories) (fs : FileSystem) :
    Logged (FileSystem × Except SettingsError Settings) :=
  match b.placeSettings fs with
  | (fs, .error error) => ⟨(fs, .error (.io error)), []⟩
  | (fs, .ok file) => loadFrom fs file

/-- Makes sure that a file can take what is logged (`init_logging_to_file`); what it holds stays. -/
def LogFile.prepare (fs : FileSystem) (file : Path) : FileSystem × Except IoError Unit :=
  match Settings.makeRoomFor fs file with
  | (fs, .error error) => (fs, .error error)
  | (fs, .ok ()) =>
    match fs.touch file with
    | .error error => (fs, .error error)
    | .ok fs => (fs, .ok ())

end SourceServer
