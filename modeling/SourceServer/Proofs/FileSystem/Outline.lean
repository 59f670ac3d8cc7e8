import SourceServer.Proofs.Capitalization.Choice
import SourceServer.Proofs.FileSystem.Writing

/-!
# File systems without contents

The outline of a file system has the same directories and files, and all files are empty. A walk, a
listing, the place of a new file and the spelling of a path are found in the outline as well as in
the file system itself: none of them looks into a file.

- `Node.outline`, `FileSystem.outline`: a tree and a file system with empty files.
- `FileSystem.node_outline`, `FileSystem.list_outline`, `FileSystem.isDirectory_outline`,
  `FileSystem.filePlace_outline`: looking and finding a place.
- `Capitalization.file_outline`: spelling.
- `FileSystem.DifferAt`: file systems that differ in the content of one file.
- `FileSystem.DifferAt.write_cases`: a file written into both.
-/

namespace SourceServer

namespace Node

/-! ## Trees -/

mutual

/-- A tree with empty files. -/
def outline : Node → Node
  | .file _ => .file .empty
  | .directory entries => .directory (outlineEntries entries)

/-- Entries with empty files. -/
def outlineEntries : List (String × Node) → List (String × Node)
  | [] => []
  | (name, node) :: rest => (name, node.outline) :: outlineEntries rest

end

@[simp] theorem outline_file (content : ByteArray) :
    (Node.file content).outline = .file .empty := by
  rw [outline]

@[simp] theorem outline_directory (entries : List (String × Node)) :
    (Node.directory entries).outline = .directory (outlineEntries entries) := by
  rw [outline]

@[simp] theorem isDirectory_outline (node : Node) : node.outline.isDirectory = node.isDirectory := by
  cases node <;> simp [isDirectory]

theorem outlineEntries_eq_map (entries : List (String × Node)) :
    outlineEntries entries = entries.map fun entry => (entry.1, entry.2.outline) := by
  induction entries with
  | nil => rw [outlineEntries, List.map_nil]
  | cons entry rest ih =>
    obtain ⟨name, node⟩ := entry
    rw [outlineEntries, ih, List.map_cons]

theorem lookup_outlineEntries (entries : List (String × Node)) (name : String) :
    (outlineEntries entries).lookup name = (entries.lookup name).map outline := by
  induction entries with
  | nil => rw [outlineEntries]; rfl
  | cons entry rest ih =>
    obtain ⟨other, node⟩ := entry
    rw [outlineEntries, List.lookup_cons, List.lookup_cons, ih]
    cases name == other <;> rfl

theorem outlineEntries_setEntry (name : String) (node : Node) (entries : List (String × Node)) :
    outlineEntries (setEntry name node entries)
      = setEntry name node.outline (outlineEntries entries) := by
  induction entries with
  | nil => simp [setEntry, outlineEntries]
  | cons entry rest ih =>
    obtain ⟨other, old⟩ := entry
    rw [setEntry, outlineEntries, setEntry]
    by_cases hother : other = name
    · rw [if_pos hother, if_pos hother, outlineEntries]
    · rw [if_neg hother, if_neg hother, outlineEntries, ih]

/-- The same places are there. -/
theorem find?_outline (node : Node) (place : List String) :
    node.outline.find? place = (node.find? place).map outline := by
  induction place generalizing node with
  | nil => simp
  | cons name rest ih =>
    cases node with
    | file content => simp
    | directory entries =>
      rw [outline_directory, find?_directory_cons, find?_directory_cons, lookup_outlineEntries]
      cases entries.lookup name with
      | none => rfl
      | some child => exact ih child

/-- A node replaced in the outline is one replaced in the tree. -/
theorem outline_put (node : Node) (place : List String) (new : Node) :
    (node.put place new).outline = node.outline.put place new.outline := by
  induction place generalizing node with
  | nil => simp [put]
  | cons name rest ih =>
    cases node with
    | file content => simp [put]
    | directory entries =>
      rw [put, outline_directory, put, lookup_outlineEntries]
      cases entries.lookup name with
      | some child =>
        show (Node.directory _).outline = Node.directory _
        rw [outline_directory, outlineEntries_setEntry, ih]
      | none =>
        dsimp only [Option.map_none]
        split
        · rw [outline_directory, outlineEntries_setEntry]
        · rw [outline_directory]

theorem setEntry_of_lookup {name : String} {node : Node} {entries : List (String × Node)}
    (h : entries.lookup name = some node) : setEntry name node entries = entries := by
  induction entries with
  | nil => simp at h
  | cons entry rest ih =>
    obtain ⟨other, old⟩ := entry
    rw [lookup_cons_eq_ite] at h
    rw [setEntry]
    by_cases hother : other = name
    · rw [if_pos hother.symm, Option.some.injEq] at h
      rw [if_pos hother, ← h, ← hother]
    · rw [if_neg (Ne.symm hother)] at h
      rw [if_neg hother, ih h]

/-- To replace a node by itself changes nothing. -/
theorem put_of_find? {node old : Node} {place : List String} (h : node.find? place = some old) :
    node.put place old = node := by
  induction place generalizing node with
  | nil =>
    rw [find?_nil, Option.some.injEq] at h
    rw [put, h]
  | cons name rest ih =>
    obtain ⟨entries, child, rfl, hchild, hbelow⟩ := child_of_find? h
    rw [put_below hchild, ih hbelow, setEntry_of_lookup hchild]

/-- A file replaced by another: every other place holds what it held. -/
theorem itemAt?_put_of_ne {node : Node} {place : List String} {old : ByteArray} (new : ByteArray)
    (h : node.find? place = some (.file old)) {other : List String} (hother : other ≠ place) :
    (node.put place (.file new)).itemAt? other = node.itemAt? other := by
  induction place generalizing node other with
  | nil =>
    rw [find?_nil, Option.some.injEq] at h
    rw [put, h]
    cases other with
    | nil => exact absurd rfl hother
    | cons step rest => rw [itemAt?_file_cons, itemAt?_file_cons]
  | cons name rest ih =>
    obtain ⟨entries, child, rfl, hchild, hbelow⟩ := child_of_find? h
    rw [put_below hchild]
    cases other with
    | nil => rfl
    | cons step below =>
      rw [itemAt?_directory_cons, itemAt?_directory_cons, lookup_setEntry]
      by_cases hstep : step = name
      · subst hstep
        rw [if_pos rfl, hchild, Option.bind_some, Option.bind_some]
        exact ih hbelow fun heq => hother (congrArg (List.cons step) heq)
      · rw [if_neg hstep]

end Node

namespace FileSystem

/-! ## Looking -/

/-- A file system with empty files. -/
def outline (fs : FileSystem) : FileSystem :=
  { fs with root := fs.root.outline }

theorem origin_outline (fs : FileSystem) (p : Path) : fs.outline.origin p = fs.origin p := rfl

theorem walk_outline (fs : FileSystem) (place steps : List String) :
    fs.outline.walk place steps = fs.walk place steps := by
  induction steps generalizing place with
  | nil => rw [walk_nil, walk_nil]
  | cons step rest ih =>
    rw [walk, walk, outline, Node.find?_outline]
    cases fs.root.find? place with
    | none => rfl
    | some node =>
      cases node with
      | file content => simp
      | directory entries =>
        simp only [Option.map_some, Node.outline_directory, Node.lookup_outlineEntries]
        rw [← outline, ih, ih, ih]
        cases entries.lookup step <;> rfl

/-- A path names the same node, but for contents. -/
theorem node_outline (fs : FileSystem) (p : Path) :
    fs.outline.node p = (fs.node p).map Node.outline := by
  rw [node, node, locate, locate]
  cases pathError? p with
  | some error => rfl
  | none =>
    dsimp only
    rw [origin_outline, walk_outline]
    cases fs.walk (fs.origin p) (steps p) with
    | error error => rfl
    | ok place =>
      dsimp only
      rw [outline, Node.find?_outline]
      cases fs.root.find? place with
      | none => rfl
      | some node =>
        cases node with
        | file content =>
          cases asksForDirectory p <;> simp [Except.map]
        | directory entries => simp [Except.map]

theorem list_outline (fs : FileSystem) (p : Path) :
    fs.outline.list p = (fs.list p).map Node.outlineEntries := by
  rw [list, list, node_outline]
  cases fs.node p with
  | error error => rfl
  | ok node => cases node <;> simp [Except.map]

theorem isDirectory_outline (fs : FileSystem) (p : Path) :
    fs.outline.isDirectory p = fs.isDirectory p := by
  rw [isDirectory, isDirectory, node_outline]
  cases fs.node p with
  | error error => rfl
  | ok node => exact Node.isDirectory_outline node

/-- What can be read in the outline can be read, and the other way round. -/
theorem read_outline (fs : FileSystem) (p : Path) :
    fs.outline.read p = (fs.read p).map fun _ => .empty := by
  rw [read, read, node_outline]
  cases fs.node p with
  | error error => rfl
  | ok node => cases node <;> simp [Except.map]

/-! ## Writing -/

theorem newPlace_outline (fs : FileSystem) (p : Path) : fs.outline.newPlace p = fs.newPlace p := by
  rw [newPlace, newPlace]
  cases pathError? p with
  | some error => rfl
  | none =>
    cases (steps p).reverse with
    | nil => rfl
    | cons last front =>
      dsimp only
      rw [origin_outline, walk_outline]
      cases fs.walk (fs.origin p) front.reverse with
      | error error => rfl
      | ok place =>
        dsimp only
        rw [outline, Node.find?_outline]
        cases fs.root.find? place with
        | none => rfl
        | some node => cases node <;> simp

theorem filePlace_outline (fs : FileSystem) (p : Path) :
    fs.outline.filePlace p = fs.filePlace p := by
  rw [filePlace, filePlace, newPlace_outline]
  cases fs.newPlace p with
  | error error => rfl
  | ok found =>
    obtain ⟨place, last⟩ := found
    cases last with
    | none => rfl
    | some name =>
      dsimp only
      rw [outline, Node.find?_outline]
      cases fs.root.find? (place ++ [name]) with
      | none => rfl
      | some node => cases node <;> simp

/-! ## One content changed -/

/-- Two file systems that differ in the content of the file at one place. -/
structure DifferAt (place : List String) (before after : FileSystem) : Prop where
  outline_eq : after.outline = before.outline
  itemAt?_eq : ∀ other, other ≠ place → after.itemAt? other = before.itemAt? other

namespace DifferAt

variable {place : List String} {before after : FileSystem}

/-- A file with another content in its place. -/
theorem of_put {fs : FileSystem} {old : ByteArray} (h : fs.root.find? place = some (.file old))
    (new : ByteArray) :
    DifferAt place fs { fs with root := fs.root.put place (.file new) } where
  outline_eq := by
    have hempty : fs.root.outline.find? place = some (.file .empty) := by
      rw [Node.find?_outline, h, Option.map_some, Node.outline_file]
    simp only [outline, Node.outline_put, Node.outline_file, Node.put_of_find? hempty]
  itemAt?_eq _ hother := Node.itemAt?_put_of_ne new h hother

theorem filePlace_eq (h : DifferAt place before after) (p : Path) :
    after.filePlace p = before.filePlace p := by
  rw [← filePlace_outline, h.outline_eq, filePlace_outline]

/-- The same file written into both: it cannot be written into either, or there is no other
difference afterwards. -/
theorem write_cases (h : DifferAt place before after) (p : Path) (content : ByteArray) :
    (∃ error, before.write p content = .error error ∧ after.write p content = .error error)
      ∨ ∃ written written', before.write p content = .ok written
        ∧ after.write p content = .ok written' ∧ DifferAt place written written' := by
  have hplace := h.filePlace_eq p
  cases hfile : before.filePlace p with
  | error error =>
    rw [hfile] at hplace
    exact .inl ⟨error, by rw [write, hfile], by rw [write, hplace]⟩
  | ok target =>
    rw [hfile] at hplace
    have hwrite : before.write p content
        = .ok { before with root := before.root.put target (.file content) } := by
      rw [write, hfile]
    have hwrite' : after.write p content
        = .ok { after with root := after.root.put target (.file content) } := by
      rw [write, hplace]
    refine .inr ⟨_, _, hwrite, hwrite', ?outline, fun other hother => ?items⟩
    case outline =>
      have houtline := h.outline_eq
      simp only [outline, FileSystem.mk.injEq] at houtline
      simp only [outline, Node.outline_put, houtline]
    case items =>
      rw [(wrote_of_write hfile hwrite).itemAt?_eq, (wrote_of_write hplace hwrite').itemAt?_eq,
        h.itemAt?_eq other hother]

end DifferAt

end FileSystem

/-! ## Spelling -/

namespace Capitalization

theorem findChild_outline (fs : FileSystem) (directory : Path) (name : String)
    (directories : Bool) :
    findChild fs.outline directory name directories = findChild fs directory name directories := by
  have hnames : ∀ entries, rawNames (Node.outlineEntries entries) = rawNames entries := by
    intro entries
    rw [rawNames, rawNames, Node.outlineEntries_eq_map, List.map_map]
    rfl
  have hkinds : isDirectoryIn fs.outline directory = isDirectoryIn fs directory := by
    funext entry
    exact FileSystem.isDirectory_outline fs _
  rw [findChild, findChild, FileSystem.list_outline]
  cases fs.list directory with
  | error error => rfl
  | ok entries => simp only [Except.map, hnames, hkinds]

theorem descend_outline (fs : FileSystem) (directories : Bool) (place : Path) (names : List String) :
    descend fs.outline directories place names = descend fs directories place names := by
  induction names generalizing place with
  | nil => rw [descend, descend]
  | cons name rest ih =>
    rw [descend, descend, findChild_outline]
    simp only [ih]

/-- A path is spelled without a look into any file. -/
theorem file_outline (fs : FileSystem) : file fs.outline = file fs := by
  funext text
  simp only [file, descend_outline]

end Capitalization

end SourceServer
