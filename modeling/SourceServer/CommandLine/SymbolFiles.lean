import SourceServer.FileSystem
import SourceServer.Text.Ascii

/-!
# Symbol files below a directory

Directories are listed one after another. Whether an entry is a directory is asked of its path, and
what cannot be looked up under its path counts as none; it is found like a file when its extension
is that of symbol files.

- `SymbolFiles.Search`: a search on its way.
- `SymbolFiles.Search.advance?`: one directory listed.
- `SymbolFiles.find`: the symbol files below a directory, in the order of their paths.
-/

namespace SourceServer

namespace SymbolFiles

/-- The extension of symbol files. -/
def extension : String := "pdb"

/-- A path with the extension of symbol files, in any case. -/
def isSymbolFile (p : Path) : Bool :=
  p.extension?.any fun found => Ascii.equalIgnoringCase found extension

/-- A search on its way. -/
structure Search where
  /-- The directories that are still to be listed, the next one first. -/
  pending : List Path
  found : List Path

namespace Search

/-- A search before its first directory is listed. -/
def initial (directory : Path) : Search := ⟨[directory], []⟩

/-- An entry looked at: a directory is to be listed later, and a symbol file is found. -/
def visit (fs : FileSystem) (s : Search) (p : Path) : Search :=
  if fs.isDirectory p then { s with pending := p :: s.pending }
  else if isSymbolFile p then { s with found := s.found ++ [p] }
  else s

/-- The entries of a directory looked at in the order in which they are listed. -/
def visitAll (fs : FileSystem) (directory : Path) (listed : List (String × Node)) (s : Search) :
    Search :=
  (listed.map fun entry => directory.join ⟨entry.1⟩).foldl (visit fs) s

/-- The next directory listed; `none` when no directory is left. -/
def advance? (fs : FileSystem) (s : Search) : Option (Except (Path × IoError) Search) :=
  match s.pending with
  | [] => none
  | directory :: rest =>
    match fs.list directory with
    | .error error => some (.error (directory, error))
    | .ok listed => some (.ok (visitAll fs directory listed { s with pending := rest }))

/-- Lists directories until none is left; `fuel` bounds their number. -/
def runFor (fs : FileSystem) : Nat → Search → Except (Path × IoError) Search
  | 0, s => .ok s
  | fuel + 1, s =>
    match s.advance? fs with
    | none => .ok s
    | some (.error error) => .error error
    | some (.ok next) => next.runFor fs fuel

end Search

/-- The symbol files below a directory (`find_symbol_files`). No directory of the tree is listed
twice. -/
def find (fs : FileSystem) (directory : Path) : Except (Path × IoError) (List Path) :=
  match (Search.initial directory).runFor fs (fs.root.paths.length + 1) with
  | .error error => .error error
  | .ok s => .ok (s.found.mergeSort fun p q => (compare p q).isLE)

end SymbolFiles

end SourceServer
