import Mathlib.Tactic.SplitIfs
import SourceServer.FileSystem

/-!
# Places of a file system

Every look at a file system walks to a place and reports what stands there. Here the walk is brought
down to the items at single places, so that two file systems can be compared place by place.

- `Item`, `FileSystem.itemAt?`: what stands at a place, the inside of directories left out.
- `FileSystem.walk_cons`: a walk asks for nothing but items.
- `FileSystem.Opens`: opening a path for writing opens this file in this directory.
- `FileSystem.filePlace_eq_ok`: where a file is written.
-/

namespace SourceServer

/-- What stands at a place. What a directory holds stands at other places. -/
inductive Item where
  | file (content : ByteArray)
  | directory

instance (item? : Option Item) : Decidable (item? = some .directory) :=
  match item? with
  | none => isFalse nofun
  | some (.file _) => isFalse nofun
  | some .directory => isTrue rfl

namespace Node

/-- A node without the inside of a directory. -/
def item : Node → Item
  | .file content => .file content
  | .directory _ => .directory

/-- What stands at a list of names below a node. -/
def itemAt? (node : Node) (place : List String) : Option Item :=
  (node.find? place).map item

@[simp] theorem find?_nil (node : Node) : node.find? [] = some node := by
  cases node <;> rfl

@[simp] theorem find?_file_cons (content : ByteArray) (name : String) (rest : List String) :
    (Node.file content).find? (name :: rest) = none := rfl

theorem find?_directory_cons (entries : List (String × Node)) (name : String)
    (rest : List String) :
    (Node.directory entries).find? (name :: rest)
      = (entries.lookup name).bind fun child => child.find? rest := by
  rw [find?]
  cases entries.lookup name <;> rfl

theorem find?_append (node : Node) (above below : List String) :
    node.find? (above ++ below) = (node.find? above).bind fun child => child.find? below := by
  induction above generalizing node with
  | nil => simp
  | cons name rest ih =>
    cases node with
    | file content => rfl
    | directory entries =>
      rw [List.cons_append, find?_directory_cons, find?_directory_cons]
      cases entries.lookup name with
      | none => rfl
      | some child => exact ih child

theorem item_eq_directory {node : Node} :
    node.item = .directory ↔ ∃ entries, node = .directory entries := by
  cases node <;> simp [item]

theorem item_eq_file {node : Node} {content : ByteArray} :
    node.item = .file content ↔ node = .file content := by
  cases node <;> simp [item]

theorem itemAt?_eq_directory {node : Node} {place : List String} :
    node.itemAt? place = some .directory ↔ ∃ entries, node.find? place = some (.directory entries)
    := by
  simp only [itemAt?, Option.map_eq_some_iff, item_eq_directory]
  constructor
  · rintro ⟨_, hfind, entries, rfl⟩
    exact ⟨entries, hfind⟩
  · rintro ⟨entries, hfind⟩
    exact ⟨_, hfind, entries, rfl⟩

theorem itemAt?_eq_none {node : Node} {place : List String} :
    node.itemAt? place = none ↔ node.find? place = none := by
  simp [itemAt?]

/-- Only directories have something below them. -/
theorem itemAt?_of_below {node : Node} {place : List String} {name : String}
    (h : node.itemAt? (place ++ [name]) ≠ none) : node.itemAt? place = some .directory := by
  rw [Ne, itemAt?_eq_none, find?_append] at h
  cases hplace : node.find? place with
  | none => simp [hplace] at h
  | some child =>
    cases child with
    | file content => simp [hplace] at h
    | directory entries => exact itemAt?_eq_directory.mpr ⟨entries, hplace⟩

/-- An entry of a directory is what stands one name further down. -/
theorem lookup_eq_none_iff {node : Node} {place : List String} {entries : List (String × Node)}
    (h : node.find? place = some (.directory entries)) (name : String) :
    entries.lookup name = none ↔ node.itemAt? (place ++ [name]) = none := by
  rw [itemAt?_eq_none, find?_append, h, Option.bind_some, find?_directory_cons]
  cases entries.lookup name <;> simp

end Node

namespace FileSystem

/-- What stands at a place. -/
def itemAt? (fs : FileSystem) (place : List String) : Option Item :=
  fs.root.itemAt? place

/-- What a path names, the inside of a directory left out. -/
def item (fs : FileSystem) (p : Path) : Except IoError Item :=
  (fs.node p).map Node.item

/-! ## Walking -/

@[simp] theorem walk_nil (fs : FileSystem) (place : List String) :
    fs.walk place [] = .ok place := by
  rw [walk]

/-- One step of a walk, in terms of the items at single places. -/
theorem walk_cons (fs : FileSystem) (place : List String) (step : String) (rest : List String) :
    fs.walk place (step :: rest)
      = match fs.itemAt? place with
        | none => .error .notFound
        | some (.file _) => .error .notDirectory
        | some .directory =>
          if step = "." then fs.walk place rest
          else if step = ".." then fs.walk place.dropLast rest
          else if longestName < step.utf8ByteSize then .error .nameTooLong
          else if fs.itemAt? (place ++ [step]) = none then .error .notFound
          else fs.walk (place ++ [step]) rest := by
  rw [walk, itemAt?, Node.itemAt?]
  cases hplace : fs.root.find? place with
  | none => rfl
  | some node =>
    cases node with
    | file content => rfl
    | directory entries =>
      -- whether the step has an entry is whether something stands one name further down
      have hlookup := Node.lookup_eq_none_iff hplace step
      simp only [Option.map_some, Node.item, itemAt?, ← hlookup]
      cases entries.lookup step <;> simp

theorem walk_append (fs : FileSystem) (place first second : List String) :
    fs.walk place (first ++ second) = (fs.walk place first).bind fun place => fs.walk place second
    := by
  induction first generalizing place with
  | nil => rw [List.nil_append, walk_nil]; rfl
  | cons step rest ih =>
    rw [List.cons_append, walk_cons, walk_cons]
    cases fs.itemAt? place with
    | none => rfl
    | some item =>
      cases item with
      | file content => rfl
      | directory =>
        simp only [ih]
        split_ifs <;> rfl

/-- A walk of one step that is a name. -/
theorem walk_name {fs : FileSystem} {place : List String} {name : String}
    (hplace : fs.itemAt? place = some .directory) (hhere : name ≠ ".") (hup : name ≠ "..")
    (hshort : ¬ longestName < name.utf8ByteSize) (hentry : fs.itemAt? (place ++ [name]) ≠ none) :
    fs.walk place [name] = .ok (place ++ [name]) := by
  rw [walk_cons, hplace]
  simp [hhere, hup, hshort, hentry]

/-! ## Looking -/

/-- What a path names is the item at the end of its walk. -/
theorem item_eq (fs : FileSystem) (p : Path) :
    fs.item p
      = match pathError? p with
        | some error => .error error
        | none =>
          match fs.walk (fs.origin p) (steps p) with
          | .error error => .error error
          | .ok place =>
            match fs.itemAt? place with
            | none => .error .notFound
            | some (.file content) =>
              if asksForDirectory p then .error .notDirectory else .ok (.file content)
            | some .directory => .ok .directory := by
  rw [item, node, locate]
  cases pathError? p with
  | some error => rfl
  | none =>
    simp only
    cases fs.walk (fs.origin p) (steps p) with
    | error error => rfl
    | ok place =>
      simp only [itemAt?, Node.itemAt?]
      cases fs.root.find? place with
      | none => rfl
      | some node =>
        cases node with
        | file content => cases asksForDirectory p <;> rfl
        | directory entries => rfl

theorem read_eq (fs : FileSystem) (p : Path) :
    fs.read p
      = match fs.item p with
        | .error error => .error error
        | .ok (.file content) => .ok content
        | .ok .directory => .error .isDirectory := by
  rw [read, item]
  cases fs.node p with
  | error error => rfl
  | ok node => cases node <;> rfl

theorem isDirectory_eq (fs : FileSystem) (p : Path) :
    fs.isDirectory p
      = match fs.item p with
        | .ok .directory => true
        | _ => false := by
  rw [isDirectory, item]
  cases fs.node p with
  | error error => rfl
  | ok node => cases node <;> rfl

/-- A directory that a path names stands at the end of its walk. -/
theorem node_eq_directory {fs : FileSystem} {p : Path} {entries : List (String × Node)}
    (h : fs.node p = .ok (.directory entries)) :
    ∃ place, fs.walk (fs.origin p) (steps p) = .ok place
      ∧ fs.root.find? place = some (.directory entries) := by
  rw [node, locate] at h
  cases herror : pathError? p with
  | some error => simp [herror] at h
  | none =>
    cases hwalk : fs.walk (fs.origin p) (steps p) with
    | error error => simp [herror, hwalk] at h
    | ok place =>
      cases hplace : fs.root.find? place with
      | none => simp [herror, hwalk, hplace] at h
      | some node =>
        cases node with
        | file content =>
          cases hslash : asksForDirectory p with
          | true => simp [herror, hwalk, hplace, hslash] at h
          | false => simp [herror, hwalk, hplace, hslash] at h
        | directory inside =>
          obtain rfl : inside = entries := by simpa [herror, hwalk, hplace] using h
          exact ⟨place, rfl, hplace⟩

/-! ## Where a file is written -/

/-- Where a path would put something new, in terms of the items at single places. -/
theorem newPlace_eq (fs : FileSystem) (p : Path) :
    fs.newPlace p
      = match pathError? p with
        | some error => .error error
        | none =>
          match (steps p).reverse with
          | [] => .ok ([], none)
          | last :: before =>
            match fs.walk (fs.origin p) before.reverse with
            | .error error => .error error
            | .ok place =>
              match fs.itemAt? place with
              | none => .error .notFound
              | some (.file _) => .error .notDirectory
              | some .directory =>
                if last = "." ∨ last = ".." then .ok (place, none) else .ok (place, some last) := by
  rw [newPlace]
  cases pathError? p with
  | some error => rfl
  | none =>
    cases (steps p).reverse with
    | nil => rfl
    | cons last before =>
      dsimp only
      cases fs.walk (fs.origin p) before.reverse with
      | error error => rfl
      | ok place =>
        simp only [itemAt?, Node.itemAt?]
        cases fs.root.find? place with
        | none => rfl
        | some node => cases node <;> rfl

/-- Where a file is written, in terms of the items at single places. -/
theorem filePlace_eq (fs : FileSystem) (p : Path) :
    fs.filePlace p
      = match fs.newPlace p with
        | .error error => .error error
        | .ok (_, none) => .error .isDirectory
        | .ok (place, some name) =>
          if asksForDirectory p then .error .isDirectory
          else if longestName < name.utf8ByteSize then .error .nameTooLong
          else if fs.itemAt? (place ++ [name]) = some .directory then .error .isDirectory
          else .ok (place ++ [name]) := by
  rw [filePlace]
  cases fs.newPlace p with
  | error error => rfl
  | ok found =>
    obtain ⟨place, last⟩ := found
    cases last with
    | none => rfl
    | some name =>
      dsimp only
      split_ifs with hslash hlong hitem
      · rfl
      · rfl
      · obtain ⟨entries, hfind⟩ := Node.itemAt?_eq_directory.mp hitem
        rw [hfind]
      · split
        · rename_i entries hfind
          exact absurd (Node.itemAt?_eq_directory.mpr ⟨entries, hfind⟩) hitem
        · rfl

/-- Opening a path for writing opens the file `name` in the directory at `above`. -/
structure Opens (fs : FileSystem) (p : Path) (above : List String) (name : String) : Prop where
  usable : pathError? p = none
  steps_eq : steps p = (steps p).dropLast ++ [name]
  walk_eq : fs.walk (fs.origin p) (steps p).dropLast = .ok above
  above_directory : fs.itemAt? above = some .directory
  not_here : name ≠ "."
  not_up : name ≠ ".."
  not_long : ¬ longestName < name.utf8ByteSize
  not_slashed : asksForDirectory p = false
  not_directory : fs.itemAt? (above ++ [name]) ≠ some .directory

/-- The directory in which a path would put something new. -/
theorem newPlace_eq_ok {fs : FileSystem} {p : Path} {above : List String} {name : String}
    (h : fs.newPlace p = .ok (above, some name)) :
    pathError? p = none ∧ steps p = (steps p).dropLast ++ [name]
      ∧ fs.walk (fs.origin p) (steps p).dropLast = .ok above
      ∧ fs.itemAt? above = some .directory ∧ name ≠ "." ∧ name ≠ ".." := by
  rw [newPlace_eq] at h
  cases herror : pathError? p with
  | some error => simp [herror] at h
  | none =>
    simp only [herror] at h
    cases hsteps : (steps p).reverse with
    | nil => simp [hsteps] at h
    | cons last before =>
      have hsplit : steps p = before.reverse ++ [last] := by
        rw [← List.reverse_reverse (steps p), hsteps, List.reverse_cons]
      simp only [hsteps] at h
      rw [hsplit, List.dropLast_concat]
      cases hwalk : fs.walk (fs.origin p) before.reverse with
      | error error => simp [hwalk] at h
      | ok place =>
        simp only [hwalk] at h
        cases hitem : fs.itemAt? place with
        | none => simp [hitem] at h
        | some item =>
          cases item with
          | file content => simp [hitem] at h
          | directory =>
            simp only [hitem] at h
            split_ifs at h with hpoint
            · simp at h
            · simp only [Except.ok.injEq, Prod.mk.injEq, Option.some.injEq] at h
              obtain ⟨rfl, rfl⟩ := h
              rw [not_or] at hpoint
              exact ⟨rfl, rfl, rfl, hitem, hpoint⟩

/-- Where a file is written, and what is known about that place. -/
theorem filePlace_eq_ok {fs : FileSystem} {p : Path} {place : List String}
    (h : fs.filePlace p = .ok place) :
    ∃ above name, place = above ++ [name] ∧ fs.Opens p above name := by
  rw [filePlace_eq] at h
  cases hnew : fs.newPlace p with
  | error error => simp [hnew] at h
  | ok found =>
    obtain ⟨above, last⟩ := found
    cases last with
    | none => simp [hnew] at h
    | some name =>
      obtain ⟨husable, hsteps, hwalk, habove, hhere, hup⟩ := newPlace_eq_ok hnew
      simp only [hnew] at h
      split_ifs at h with hslash hlong hitem
      exact ⟨above, name, (Except.ok.inj h).symm, husable, hsteps, hwalk, habove, hhere, hup, hlong,
        by simpa using hslash, hitem⟩

end FileSystem

end SourceServer
