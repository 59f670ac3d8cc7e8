import SourceServer.FileSystem
import SourceServer.Unicode.LowerCase
import SourceServer.Unicode.RawText

/-!
# Capitalization on disk

Compilers record paths in whatever case the build passed to them. Here each name of a path is
replaced by the one that the file system stores. Names agree when their lower cases do; the exact
name wins, and otherwise the smallest, so the order in which a directory is listed has no influence.
Whether an entry is a directory is asked of its path, and what cannot be looked up under its path
counts as none.

- `Unresolved`: why a path has no counterpart on disk.
- `Capitalization.search`, `Capitalization.choose`: the choice among names.
- `Capitalization.findChild`: the choice in one directory.
- `Capitalization.directory`, `Capitalization.file`: a whole path.
-/

namespace SourceServer

/-- Why a path has no counterpart on disk. -/
inductive Unresolved where
  /-- The path is empty or holds a NUL. -/
  | malformed (path : String)
  /-- A component is not a name. -/
  | nameless
  | unlistable (directory : Path) (error : IoError)
  | noMatch (name : String) (directory : Path)
deriving DecidableEq

namespace Capitalization

/-- The smaller one of an entry and the best one so far, by their bytes. -/
def better (best : Option RawText) (entry : RawText) : RawText :=
  match best with
  | none => entry
  | some current => if current.bytes ≤ entry.bytes then current else entry

/-- Goes on through names for the one of a kind that `name` stands for, whose lower case is
`wanted`. The name itself ends the search; `best` is the smallest other one so far. -/
def search (isDirectory : RawText → Bool) (name : RawText) (wanted : String) (directories : Bool)
    (best : Option RawText) : List RawText → Option RawText
  | [] => best
  | entry :: rest =>
    if Unicode.lower entry.lossy ≠ wanted then
      search isDirectory name wanted directories best rest
    else if isDirectory entry ≠ directories then
      search isDirectory name wanted directories best rest
    else if entry = name then some entry
    else search isDirectory name wanted directories (some (better best entry)) rest

/-- The one among the names in a directory that `name` stands for. -/
def choose (isDirectory : RawText → Bool) (names : List RawText) (name : RawText)
    (directories : Bool) : Option RawText :=
  search isDirectory name (Unicode.lower name.lossy) directories none names

/-- The names in a listing as the operating system has them. -/
def rawNames (entries : List (String × Node)) : List RawText :=
  entries.map fun entry => .ofText entry.1

/-- Whether the path of an entry names a directory. -/
def isDirectoryIn (fs : FileSystem) (directory : Path) (entry : RawText) : Bool :=
  fs.isDirectory (directory.join ⟨entry.lossy⟩)

/-- The entry of one kind in a directory that `name` stands for (`find_child`). -/
def findChild (fs : FileSystem) (directory : Path) (name : String) (directories : Bool) :
    Except IoError (Option String) :=
  match fs.list directory with
  | .error error => .error error
  | .ok entries =>
    let child := choose (isDirectoryIn fs directory) (rawNames entries) (.ofText name) directories
    .ok (child.map RawText.lossy)

/-- The names of a path that consists of names only, but for the slash in front. -/
def plainNames? (p : Path) : Option (List String) :=
  let rec names : List Component → Option (List String)
    | [] => some []
    | .name text :: rest => (names rest).map (text :: ·)
    | _ :: _ => none
  match p.components with
  | .root :: rest => names rest
  | components => names components

/-- The path under which a directory is listed. -/
def listed (directory : Path) : Path :=
  if directory.text = "" then ⟨"."⟩ else directory

/-- Follows names down from a resolved directory; the last one is of the given kind
(`list_matching_child`, once for each name). -/
def descend (fs : FileSystem) (directories : Bool) (place : Path) :
    List String → Except Unresolved Path
  | [] => .ok place
  | name :: rest =>
    match findChild fs (listed place) name (directories || !rest.isEmpty) with
    | .error error => .error (.unlistable (listed place) error)
    | .ok none => .error (.noMatch name (listed place))
    | .ok (some child) => descend fs directories (place.join ⟨child⟩) rest

/-- Where the names of a path start. -/
def start (p : Path) : Path :=
  if p.isAbsolute then ⟨"/"⟩ else ⟨""⟩

/-- A directory as the disk spells it (`resolve_dir_path`). -/
def directory (fs : FileSystem) (p : Path) : Except Unresolved Path :=
  match plainNames? p with
  | none => .error .nameless
  | some [] => .ok p
  | some names => descend fs true (start p) names

/-- A file as the disk spells it (`resolve_file_path`). -/
def file (fs : FileSystem) (text : String) : Except Unresolved Path :=
  if text = "" ∨ text.toList.contains '\x00' then .error (.malformed text)
  else
    match plainNames? ⟨text⟩ with
    | none => .error .nameless
    | some [] => .error .nameless
    | some names => descend fs false (start ⟨text⟩) names

end Capitalization

end SourceServer
