import SourceServer.CommandLine.Arguments

/-!
# Help

What the program tells about itself: its verbs, or the operands and options of one verb, in two
columns.

- `Help.text`: the help on the program or on a verb.
-/

namespace SourceServer

namespace Help

/-- What a verb does. -/
def about : Verb → String
  | .link => "Index every *.pdb under a directory"
  | .linkPdb => "Index a single symbol file, optionally against its compiled source list"
  | .checksums => "Print the source files and checksums recorded in a symbol file"
  | .verify => "Compare a symbol file's checksums with source files on disk"

/-- The operands of a verb. -/
def operands : Verb → List (String × String)
  | .link => [("<PDB_DIR>", "Directory searched recursively for symbol files")]
  | .linkPdb => [("<PDB>", "Symbol file to index")]
  | .checksums => [("<PDB>", "Symbol file to read")]
  | .verify =>
    [("<PDB>", "Symbol file to read"),
      ("[SOURCES]...",
        "Candidate source files (default: the files the PDB records, as found on disk)")]

/-- What stands for the value of an option. -/
def placeholder? : Switch → Option String
  | .logFile => some "<PATH>"
  | .url => some "<URL>"
  | .commit => some "<COMMIT>"
  | .baseDirectory => some "<DIR>"
  | .jobs => some "<N>"
  | .sources | .listing => some "<FILE>"
  | .powershell | .skipVerify | .errorsAsWarnings | .backslashes | .lf | .help => none

/-- What an option does. -/
def purpose : Switch → String
  | .logFile => "Write the log to this file instead of the XDG state directory"
  | .url => "Remote repository URL: git://, GitHub, Team Services or any HTTP(S) base URL"
  | .commit => "Commit recorded in every index"
  | .baseDirectory =>
    "Local checkout root that index entries are relative to (default: current directory)"
  | .powershell => "Download sources with a PowerShell command instead of a bare URL"
  | .skipVerify => "Do not compare PDB checksums against the source files on disk"
  | .errorsAsWarnings => "Report failures but exit successfully"
  | .backslashes => "Use backslashes in index paths (plain HTTP remotes only)"
  | .lf => "Terminate index lines with LF instead of CRLF"
  | .jobs => "Index up to N symbol files concurrently (default from config)"
  | .sources => "File listing the compiled sources, one path per line"
  | .listing => "Saved output of a source-listing tool, used instead of reading the PDB streams"
  | .help => "Print help"

/-- The long form of an option with what stands for its value. -/
def longForm (option : Switch) : String :=
  match placeholder? option with
  | some value => "--" ++ option.name ++ " " ++ value
  | none => "--" ++ option.name

/-- Both forms of an option. -/
def forms (option : Switch) : String :=
  match option.letter? with
  | some letter => "-" ++ letter.toString ++ ", " ++ longForm option
  | none => "    " ++ longForm option

/-- Rows of two columns. -/
def columns (rows : List (String × String)) : List String :=
  let width := rows.foldl (fun width row => max width row.1.length) 0
  rows.map fun (left, right) =>
    "  " ++ left ++ String.ofList (List.replicate (width - left.length) ' ') ++ "  " ++ right

/-- The rows of some options. -/
def optionRows (options : List Switch) : List (String × String) :=
  options.map fun option => (forms option, purpose option)

/-- The help on the whole program. -/
def programLines : List String :=
  ["srclink: embed source-server indexes that point PDB sources at a remote repository", "",
      "Usage: srclink [OPTIONS] <COMMAND>", "", "Commands:"]
    ++ columns
      (Verb.all.map (fun verb => (verb.name, about verb))
        ++ [("help", "Print this message or the help of the given subcommand(s)")])
    ++ ["", "Options:"] ++ columns (optionRows globalSwitches)

/-- How a verb is used. -/
def usage (verb : Verb) : String :=
  " ".intercalate
    (["Usage: srclink", verb.name, "[OPTIONS]"] ++ verb.required.map longForm
      ++ (operands verb).map Prod.fst)

/-- The help on a verb. -/
def verbLines (verb : Verb) : List String :=
  [about verb, "", usage verb, "", "Arguments:"] ++ columns (operands verb)
    ++ ["", "Options:"] ++ columns (optionRows verb.switches)

/-- The help on a verb, or on the whole program. -/
def text (verb : Option Verb) : String :=
  let lines :=
    match verb with
    | some verb => verbLines verb
    | none => programLines
  String.join (lines.map (· ++ "\n"))

end Help

end SourceServer
