/-!
# Trees of files

A file tree without links: files with their contents, and directories with named entries.

- `Node.find?`: the node at a list of names.
- `Node.put`, `Node.remove`: a node replaced or taken away.
- `Node.paths`: all names in a tree.
-/

namespace SourceServer

/-- A file or a directory. -/
inductive Node where
  | file (content : ByteArray)
  | directory (entries : List (String × Node))

namespace Node

/-- Whether a node is a directory. -/
def isDirectory : Node → Bool
  | .directory _ => true
  | .file _ => false

/-- The node at a list of names. -/
def find? : Node → List String → Option Node
  | node, [] => some node
  | .directory entries, name :: rest =>
    match entries.lookup name with
    | some child => child.find? rest
    | none => none
  | .file _, _ :: _ => none

/-- Entries with the one called `name` set to `node`; a new one comes last. -/
def setEntry (name : String) (node : Node) : List (String × Node) → List (String × Node)
  | [] => [(name, node)]
  | (other, old) :: rest =>
    if other = name then (name, node) :: rest else (other, old) :: setEntry name node rest

/-- A tree with another node at a list of names, whose directories exist. -/
def put : Node → List String → Node → Node
  | _, [], new => new
  | .directory entries, name :: rest, new =>
    match entries.lookup name with
    | some child => .directory (setEntry name (child.put rest new) entries)
    | none =>
      if rest = [] then .directory (setEntry name new entries) else .directory entries
  | .file content, _ :: _, _ => .file content

/-- A tree without the node at a list of names. -/
def remove : Node → List String → Node
  | node, [] => node
  | .directory entries, [name] => .directory (entries.filter fun entry => entry.1 != name)
  | .directory entries, name :: rest =>
    match entries.lookup name with
    | some child => .directory (setEntry name (remove child rest) entries)
    | none => .directory entries
  | .file content, _ :: _ => .file content

mutual

/-- All nodes of a tree but itself, by their names, with whether each is a directory. -/
def paths : Node → List (List String × Bool)
  | .file _ => []
  | .directory entries => entryPaths entries

/-- All nodes among entries and below them. -/
def entryPaths : List (String × Node) → List (List String × Bool)
  | [] => []
  | (name, node) :: rest =>
    ([name], node.isDirectory) :: (node.paths.map fun (names, kind) => (name :: names, kind))
      ++ entryPaths rest

end

end Node

end SourceServer
