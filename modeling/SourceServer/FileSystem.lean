import SourceServer.FileSystem.Node
import SourceServer.Path

/-!
# File systems

A file system is a tree and a current directory. Every operation takes a path as it was written;
points in it are followed step by step, so a missing directory in the middle is an error even when
two points would leave it again. Operations that change something return the new file system.

- `IoError`: why an operation fails.
- `FileSystem.locate`: the place that a path names.
- `FileSystem.list`, `FileSystem.read`, `FileSystem.readText`: looking.
- `FileSystem.write`, `FileSystem.touch`, `FileSystem.createDirectory`,
  `FileSystem.createDirectories`: changing.
-/

namespace SourceServer

/-- Why an operation on files fails. -/
inductive IoError where
  | notFound
  | alreadyExists
  | notDirectory
  | isDirectory
  | nameTooLong
  | nulInPath
  | notUtf8
  | shortRead
deriving DecidableEq

/-- The wording of an error. -/
def IoError.message : IoError → String
  | .notFound => "No such file or directory (os error 2)"
  | .alreadyExists => "File exists (os error 17)"
  | .notDirectory => "Not a directory (os error 20)"
  | .isDirectory => "Is a directory (os error 21)"
  | .nameTooLong => "File name too long (os error 36)"
  | .nulInPath => "file name contained an unexpected NUL byte"
  | .notUtf8 => "stream did not contain valid UTF-8"
  | .shortRead => "failed to fill whole buffer"

/-- A tree of files and the directory from which relative paths are taken. -/
structure FileSystem where
  root : Node
  current : List String

namespace FileSystem

/-- The names that a path walks through, points included. -/
def steps (p : Path) : List String :=
  ((p.text.toList.splitOn '/').filter (· ≠ [])).map String.ofList

/-- A path that ends with a slash names a directory. -/
def asksForDirectory (p : Path) : Bool :=
  p.text.toList.getLast? == some '/'

/-- The most bytes of a name. -/
def longestName : Nat := 255

/-- The most bytes of a path. -/
def longestPath : Nat := 4095

/-- Walks from a place through names to another place. -/
def walk (fs : FileSystem) : List String → List String → Except IoError (List String)
  | place, [] => .ok place
  | place, step :: rest =>
    match fs.root.find? place with
    | none => .error .notFound
    | some (.file _) => .error .notDirectory
    | some (.directory entries) =>
      if step = "." then fs.walk place rest
      else if step = ".." then fs.walk place.dropLast rest
      else if longestName < step.utf8ByteSize then .error .nameTooLong
      else
        match entries.lookup step with
        | some _ => fs.walk (place ++ [step]) rest
        | none => .error .notFound

/-- What makes a path unusable before anything is looked up. -/
def pathError? (p : Path) : Option IoError :=
  if p.text.toList.contains '\x00' then some .nulInPath
  else if p.text = "" then some .notFound
  else if longestPath < p.text.utf8ByteSize then some .nameTooLong
  else none

/-- Where a path starts. -/
def origin (fs : FileSystem) (p : Path) : List String :=
  if p.isAbsolute then [] else fs.current

/-- The place and the node that a path names. -/
def locate (fs : FileSystem) (p : Path) : Except IoError (List String × Node) :=
  match pathError? p with
  | some error => .error error
  | none =>
    match fs.walk (fs.origin p) (steps p) with
    | .error error => .error error
    | .ok place =>
      match fs.root.find? place with
      | none => .error .notFound
      | some (.file content) =>
        if asksForDirectory p then .error .notDirectory else .ok (place, .file content)
      | some (.directory entries) => .ok (place, .directory entries)

/-- The node that a path names. -/
def node (fs : FileSystem) (p : Path) : Except IoError Node :=
  match fs.locate p with
  | .error error => .error error
  | .ok (_, node) => .ok node

/-- Whether a path names something. -/
def contains (fs : FileSystem) (p : Path) : Bool :=
  match fs.node p with
  | .ok _ => true
  | .error _ => false

/-- Whether a path names a directory. -/
def isDirectory (fs : FileSystem) (p : Path) : Bool :=
  match fs.node p with
  | .ok node => node.isDirectory
  | .error _ => false

/-- The entries of a directory. -/
def list (fs : FileSystem) (p : Path) : Except IoError (List (String × Node)) :=
  match fs.node p with
  | .error error => .error error
  | .ok (.file _) => .error .notDirectory
  | .ok (.directory entries) => .ok entries

/-- The content of a file. -/
def read (fs : FileSystem) (p : Path) : Except IoError ByteArray :=
  match fs.node p with
  | .error error => .error error
  | .ok (.file content) => .ok content
  | .ok (.directory _) => .error .isDirectory

/-- The content of a file as text. -/
def readText (fs : FileSystem) (p : Path) : Except IoError String :=
  match fs.read p with
  | .error error => .error error
  | .ok content =>
    match String.fromUTF8? content with
    | some text => .ok text
    | none => .error .notUtf8

/-! ## Changing -/

/-- Where a path would put something new: the directory above it, which must exist, and the last
name; `none` when the path names a directory by its form. -/
def newPlace (fs : FileSystem) (p : Path) : Except IoError (List String × Option String) :=
  match pathError? p with
  | some error => .error error
  | none =>
    match (steps p).reverse with
    | [] => .ok ([], none)
    | last :: before =>
      match fs.walk (fs.origin p) before.reverse with
      | .error error => .error error
      | .ok place =>
        match fs.root.find? place with
        | none => .error .notFound
        | some (.file _) => .error .notDirectory
        | some (.directory _) =>
          if last = "." ∨ last = ".." then .ok (place, none) else .ok (place, some last)

/-- The place of a file that is about to be written. -/
def filePlace (fs : FileSystem) (p : Path) : Except IoError (List String) :=
  match fs.newPlace p with
  | .error error => .error error
  | .ok (_, none) => .error .isDirectory
  | .ok (place, some name) =>
    if asksForDirectory p then .error .isDirectory
    else if longestName < name.utf8ByteSize then .error .nameTooLong
    else
      match fs.root.find? (place ++ [name]) with
      | some (.directory _) => .error .isDirectory
      | _ => .ok (place ++ [name])

/-- Writes a file, new or not. -/
def write (fs : FileSystem) (p : Path) (content : ByteArray) : Except IoError FileSystem :=
  match fs.filePlace p with
  | .error error => .error error
  | .ok place => .ok { fs with root := fs.root.put place (.file content) }

/-- Opens a file to add to it: a missing one is made, another keeps its content. -/
def touch (fs : FileSystem) (p : Path) : Except IoError FileSystem :=
  match fs.filePlace p with
  | .error error => .error error
  | .ok place =>
    match fs.root.find? place with
    | some _ => .ok fs
    | none => .ok { fs with root := fs.root.put place (.file ByteArray.empty) }

/-- Makes one directory. -/
def createDirectory (fs : FileSystem) (p : Path) : Except IoError FileSystem :=
  match fs.newPlace p with
  | .error error => .error error
  | .ok (_, none) => .error .alreadyExists
  | .ok (place, some name) =>
    if longestName < name.utf8ByteSize then .error .nameTooLong
    else
      match fs.root.find? (place ++ [name]) with
      | some _ => .error .alreadyExists
      | none => .ok { fs with root := fs.root.put (place ++ [name]) (.directory []) }

/-- Makes a directory, or finds it made already. -/
def ensureDirectory (fs : FileSystem) (p : Path) : FileSystem × Except IoError Unit :=
  match fs.createDirectory p with
  | .ok fs => (fs, .ok ())
  | .error error => if fs.isDirectory p then (fs, .ok ()) else (fs, .error error)

/-- Makes the first of some nested directories, given from the inside outwards, after the others
when they are missing. What is made stays, even when a later step fails. -/
def createNested (fs : FileSystem) : List Path → FileSystem × Except IoError Unit
  | [] => (fs, .error .notFound)
  | p :: above =>
    if p.text = "" then (fs, .ok ())
    else
      match fs.createDirectory p with
      | .ok fs => (fs, .ok ())
      | .error .notFound =>
        match fs.createNested above with
        | (fs, .error error) => (fs, .error error)
        | (fs, .ok ()) => fs.ensureDirectory p
      | .error error => if fs.isDirectory p then (fs, .ok ()) else (fs, .error error)

/-- Makes a directory and all directories above it. -/
def createDirectories (fs : FileSystem) (p : Path) : FileSystem × Except IoError Unit :=
  fs.createNested p.ancestors

/-- Takes a file or a whole directory away. -/
def remove (fs : FileSystem) (p : Path) : FileSystem :=
  match fs.locate p with
  | .error _ => fs
  | .ok (place, _) => { fs with root := fs.root.remove place }

/-- A file system that holds nothing but its current directory. -/
def empty (current : List String) : FileSystem :=
  ⟨current.foldr (fun name node => .directory [(name, node)]) (.directory []), current⟩

end FileSystem

end SourceServer
