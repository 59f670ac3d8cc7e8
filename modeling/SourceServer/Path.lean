/-!
# Paths

A path is a text. What it means is the list of its components: a slash separates names, several in a
row count as one, and a point that stands for the same directory is passed over unless the path
begins with it. The text is kept as it was written, because indexes and messages show it.

- `Path.components`: the meaning of a path.
- `compare` on paths: the order of their components, names by their characters; an absolute path
  comes before a relative one.
- `Path.parent?`, `Path.fileName?`, `Path.join`, `Path.extension?`: taking paths apart and putting
  them together.
-/

namespace SourceServer

/-- A path as it was written. -/
structure Path where
  text : String
deriving DecidableEq

/-- One step of a path. -/
inductive Component where
  /-- The slash in front of an absolute path. -/
  | root
  /-- The point in front of a relative path. -/
  | here
  /-- Two points. -/
  | up
  | name (text : String)
deriving DecidableEq

namespace Component

/-- The kinds of components in their order. -/
def rank : Component → Nat
  | .root => 0
  | .here => 1
  | .up => 2
  | .name _ => 3

/-- The name of a component, empty for the others. -/
def label : Component → String
  | .name text => text
  | _ => ""

/-- Components are ordered by kind, and names by their text. -/
instance : Ord Component where
  compare := compareLex (compareOn rank) (compareOn label)

end Component

namespace Path

/-- A path that begins with a slash. -/
def isAbsolute (p : Path) : Bool :=
  p.text.toList.head? == some '/'

/-- The first part of a path that is a component by itself: the slash of an absolute path, the
point of a path that begins with it. What follows is the body. -/
def splitHead (text : List Char) : List Char × List Char :=
  match text with
  | '/' :: rest => (['/'], rest)
  | ['.'] => (['.'], [])
  | '.' :: '/' :: rest => (['.'], '/' :: rest)
  | _ => ([], text)

/-- The pieces of the body between its slashes. -/
def pieces (p : Path) : List (List Char) :=
  (splitHead p.text.toList).2.splitOn '/'

/-- A piece of the body that does not count: it is empty or a point. -/
def isIdle (piece : List Char) : Bool :=
  piece == [] || piece == ['.']

/-- The component that a head stands for. -/
def headComponent : List Char → List Component
  | ['/'] => [.root]
  | ['.'] => [.here]
  | _ => []

/-- The component that a piece of the body stands for. -/
def pieceComponent (piece : List Char) : List Component :=
  if isIdle piece then []
  else if piece = ['.', '.'] then [.up]
  else [.name (String.ofList piece)]

/-- The meaning of a path. -/
def components (p : Path) : List Component :=
  headComponent (splitHead p.text.toList).1 ++ p.pieces.flatMap pieceComponent

/-- Paths are ordered by their components. -/
instance : Ord Path where
  compare := compareOn components

/-- Pieces without those at the end that do not count. -/
def dropIdle (pieces : List (List Char)) : List (List Char) :=
  (pieces.reverse.dropWhile isIdle).reverse

/-- The path without its last component; `none` for the root and for the empty path. -/
def parent? (p : Path) : Option Path :=
  let (head, _) := splitHead p.text.toList
  match (dropIdle p.pieces).reverse with
  | [] => if head = ['.'] then some ⟨""⟩ else none
  | _ :: before =>
    some ⟨String.ofList (head ++ ['/'].intercalate (dropIdle before.reverse))⟩

/-- The last component, when it is a name. -/
def fileName? (p : Path) : Option String :=
  match (dropIdle p.pieces).getLast? with
  | none => none
  | some piece => if piece = ['.', '.'] then none else some (String.ofList piece)

/-- A path taken from a directory: an absolute one stands for itself. -/
def join (directory p : Path) : Path :=
  if p.isAbsolute then p
  else if directory.text = "" ∨ directory.text.toList.getLast? = some '/' then
    ⟨directory.text ++ p.text⟩
  else ⟨directory.text ++ "/" ++ p.text⟩

/-- What follows the last point of the file name, when something stands in front of it. -/
def extension? (p : Path) : Option String :=
  match p.fileName? with
  | none => none
  | some name =>
    match name.toList.reverse.span (· != '.') with
    | (_, []) => none
    | (_, [_]) => none
    | (reversed, _ :: _) => some (String.ofList reversed.reverse)

/-- A path is at most as long as its text, so walking up ends. -/
def ancestorsUpTo : Nat → Path → List Path
  | 0, p => [p]
  | fuel + 1, p =>
    match p.parent? with
    | none => [p]
    | some parent => p :: ancestorsUpTo fuel parent

/-- The path and the directories above it, from the inside outwards. -/
def ancestors (p : Path) : List Path :=
  ancestorsUpTo p.text.length p

end Path

end SourceServer
