import Mathlib.Data.List.Nodup
import SourceServer.Proofs.FileSystem.Places
import SourceServer.Proofs.Path.Length

/-!
# Entries of directories

A file exists for a program when the listing of its directory shows it. A tree can be deeper than
any path reaches, for a path has no more than 4095 bytes; what is behind is listed by nobody.

- `Node.directories`: the entries of all directories in a tree.
- `FileSystem.Lists`, `FileSystem.HasFile`: entries and files by the components of their paths.
- `FileSystem.WellNamed`, `FileSystem.NoCaseTwins`: conditions on the names of entries.
- `FileSystem.walk_of_list`, `FileSystem.list_of_walk`: a listed directory stands at the end of a
  walk.
- `FileSystem.walk_name_cons`: one name of a walk.
- `FileSystem.list_below_start`: the directories on the way of a plain path can be listed.
- `FileSystem.read_of_list`, `FileSystem.hasFile_of_read`: files that are listed and files that are
  read.
-/

namespace SourceServer

/-! ## The directories of a tree -/

namespace Node

mutual

/-- The entries of all directories in a tree. -/
def directories : Node → List (List (String × Node))
  | .file _ => []
  | .directory entries => entries :: directoriesAmong entries

/-- The entries of all directories among some entries and below them. -/
def directoriesAmong : List (String × Node) → List (List (String × Node))
  | [] => []
  | (_, node) :: rest => node.directories ++ directoriesAmong rest

end

theorem mem_of_lookup {entries : List (String × Node)} {name : String} {node : Node}
    (h : entries.lookup name = some node) : (name, node) ∈ entries := by
  obtain ⟨front, back, rfl, -⟩ := List.lookup_eq_some_iff.mp h
  exact List.mem_append_right _ List.mem_cons_self

theorem directories_subset {entry : String × Node} {entries : List (String × Node)}
    (h : entry ∈ entries) : entry.2.directories ⊆ directoriesAmong entries := by
  induction entries with
  | nil => cases h
  | cons first rest ih =>
    rw [directoriesAmong]
    rcases List.mem_cons.mp h with rfl | h
    · exact List.subset_append_left _ _
    · exact List.subset_append_of_subset_right _ (ih h)

/-- Whatever directory is found, its entries are among those of the tree. -/
theorem mem_directories {node : Node} {place : List String} {entries : List (String × Node)}
    (h : node.find? place = some (.directory entries)) : entries ∈ node.directories := by
  induction place generalizing node with
  | nil =>
    rw [find?_nil, Option.some.injEq] at h
    rw [h, directories]
    exact List.mem_cons_self
  | cons name rest ih =>
    cases node with
    | file content => simp at h
    | directory inside =>
      rw [find?_directory_cons] at h
      obtain ⟨child, hchild, hrest⟩ := Option.bind_eq_some_iff.mp h
      have hentry : (name, child) ∈ inside := mem_of_lookup hchild
      rw [directories]
      exact List.mem_cons_of_mem inside (directories_subset hentry (ih hrest))

end Node

namespace FileSystem

open Capitalization (listed start)

/-- The directory with these components lists an entry. Without components it is the current
directory. -/
def Lists (fs : FileSystem) (above : List Component) (name : String) (node : Node) : Prop :=
  ∃ directory entries, directory.components = above ∧ fs.list (listed directory) = .ok entries
    ∧ (name, node) ∈ entries

/-- There is a file with these components: its directory lists it. -/
def HasFile (fs : FileSystem) (components : List Component) : Prop :=
  ∃ above name content, components = above ++ [.name name] ∧ fs.Lists above name (.file content)

/-- What every disk takes care of: a directory has one entry of a name, and no name is too long or
holds a NUL. -/
structure WellNamed (fs : FileSystem) : Prop where
  nodup : ∀ {place entries}, fs.root.find? place = some (.directory entries) →
    (entries.map Prod.fst).Nodup
  not_long : ∀ {place entries entry}, fs.root.find? place = some (.directory entries) →
    entry ∈ entries → entry.1.utf8ByteSize ≤ longestName
  no_nul : ∀ {place entries entry}, fs.root.find? place = some (.directory entries) →
    entry ∈ entries → '\x00' ∉ entry.1.toList

/-- No directory has two entries whose names agree up to case. -/
def NoCaseTwins (fs : FileSystem) : Prop :=
  ∀ {place entries}, fs.root.find? place = some (.directory entries) →
    (entries.map fun entry => Unicode.lower entry.1).Nodup

/-- The names of a tree can be checked directory by directory. -/
theorem wellNamed_of_directories {fs : FileSystem}
    (h : ∀ entries ∈ fs.root.directories, (entries.map Prod.fst).Nodup
      ∧ ∀ entry ∈ entries, entry.1.utf8ByteSize ≤ longestName ∧ '\x00' ∉ entry.1.toList) :
    fs.WellNamed where
  nodup hplace := (h _ (Node.mem_directories hplace)).1
  not_long hplace hentry := ((h _ (Node.mem_directories hplace)).2 _ hentry).1
  no_nul hplace hentry := ((h _ (Node.mem_directories hplace)).2 _ hentry).2

theorem noCaseTwins_of_directories {fs : FileSystem}
    (h : ∀ entries ∈ fs.root.directories,
      (entries.map fun entry => Unicode.lower entry.1).Nodup) : fs.NoCaseTwins :=
  fun hplace => h _ (Node.mem_directories hplace)

variable {fs : FileSystem} {directory p : Path} {entries : List (String × Node)}
  {here place : List String} {name : String}

/-! ## Listing and walking -/

theorem list_eq_ok_iff : fs.list p = .ok entries ↔ fs.node p = .ok (.directory entries) := by
  rw [list]
  cases fs.node p with
  | error error => simp
  | ok node => cases node <;> simp

theorem pathError?_of_node {node : Node} (h : fs.node p = .ok node) : pathError? p = none := by
  rw [FileSystem.node, locate] at h
  cases herror : pathError? p with
  | none => rfl
  | some error =>
    rw [herror] at h
    cases h

theorem pathError?_of_list (h : fs.list (listed directory) = .ok entries) :
    pathError? (listed directory) = none :=
  pathError?_of_node (list_eq_ok_iff.mp h)

/-- The paths that can be looked up. -/
theorem pathError?_eq_none_iff :
    pathError? p = none
      ↔ '\x00' ∉ p.text.toList ∧ p.text ≠ "" ∧ p.text.utf8ByteSize ≤ longestPath := by
  rw [pathError?]
  split_ifs with hnul hempty hlong
  · exact iff_of_false (by simp) fun h => h.1 (List.contains_iff_mem.mp hnul)
  · exact iff_of_false (by simp) fun h => h.2.1 hempty
  · exact iff_of_false (by simp) fun h => Nat.not_lt_of_le h.2.2 hlong
  · rw [List.contains_iff_mem] at hnul
    exact iff_of_true rfl ⟨hnul, hempty, Nat.le_of_not_lt hlong⟩

theorem node_of_walk {node : Node} (husable : pathError? p = none)
    (hwalk : fs.walk (fs.origin p) (steps p) = .ok place) (hplace : fs.root.find? place = some node)
    (hslash : asksForDirectory p = false ∨ node.isDirectory = true) : fs.node p = .ok node := by
  cases node with
  | file content =>
    have hfree : asksForDirectory p = false := hslash.resolve_right (by simp [Node.isDirectory])
    simp [FileSystem.node, locate, husable, hwalk, hplace, hfree]
  | directory inside => simp [FileSystem.node, locate, husable, hwalk, hplace]

theorem listed_of_ne (h : directory.text ≠ "") : listed directory = directory :=
  if_neg h

theorem listed_empty : listed ⟨""⟩ = ⟨"."⟩ := rfl

/-- The point names the directory in which a walk of relative paths begins. -/
theorem walk_point (fs : FileSystem) :
    fs.walk (fs.origin ⟨"."⟩) (steps ⟨"."⟩)
      = match fs.root.find? fs.current with
        | none => .error .notFound
        | some (.file _) => .error .notDirectory
        | some (.directory _) => .ok fs.current := by
  have horigin : fs.origin ⟨"."⟩ = fs.current := rfl
  have hsteps : steps ⟨"."⟩ = ["."] := rfl
  rw [horigin, hsteps, walk]
  cases fs.root.find? fs.current with
  | none => rfl
  | some node => cases node <;> simp

theorem walk_of_list (h : fs.list (listed directory) = .ok entries) :
    ∃ place, fs.walk (fs.origin directory) (steps directory) = .ok place
      ∧ fs.root.find? place = some (.directory entries) := by
  obtain ⟨place, hwalk, hplace⟩ := node_eq_directory (list_eq_ok_iff.mp h)
  by_cases hempty : directory.text = ""
  · obtain rfl : directory = ⟨""⟩ := by
      cases directory
      exact congrArg Path.mk hempty
    rw [listed_empty, walk_point] at hwalk
    have hcurrent : fs.current = place := by
      cases hfind : fs.root.find? fs.current with
      | none => simp [hfind] at hwalk
      | some node =>
        cases node with
        | file content => simp [hfind] at hwalk
        | directory inside => exact Except.ok.inj (by simpa only [hfind] using hwalk)
    exact ⟨place, by rw [← hcurrent]; exact walk_nil fs _, hplace⟩
  · rw [listed_of_ne hempty] at hwalk
    exact ⟨place, hwalk, hplace⟩

theorem list_of_walk (husable : pathError? (listed directory) = none)
    (hwalk : fs.walk (fs.origin directory) (steps directory) = .ok place)
    (hplace : fs.root.find? place = some (.directory entries)) :
    fs.list (listed directory) = .ok entries := by
  apply list_eq_ok_iff.mpr
  -- the empty path is listed as a point, which makes a step and stays where it is
  by_cases hempty : directory.text = ""
  · obtain rfl : directory = ⟨""⟩ := by
      cases directory
      exact congrArg Path.mk hempty
    have hcurrent : fs.current = place := by
      have hstay : fs.walk (fs.origin ⟨""⟩) (steps ⟨""⟩) = .ok fs.current := walk_nil fs _
      rw [hstay] at hwalk
      exact Except.ok.inj hwalk
    have hpoint : fs.walk (fs.origin ⟨"."⟩) (steps ⟨"."⟩) = .ok place := by
      rw [walk_point, hcurrent, hplace]
    exact node_of_walk husable hpoint hplace (.inr rfl)
  · rw [listed_of_ne hempty] at husable ⊢
    exact node_of_walk husable hwalk hplace (.inr rfl)

/-! ## Walking through names -/

/-- Points that stand for the same directory can be left out of a walk. -/
theorem walk_names {names : List String} (h : fs.walk here names = .ok place) :
    fs.walk here (names.filter (· ≠ ".")) = .ok place := by
  induction names generalizing here with
  | nil => exact h
  | cons step rest ih =>
    by_cases hpoint : step = "."
    · subst hpoint
      rw [walk] at h
      cases hfind : fs.root.find? here with
      | none => simp [hfind] at h
      | some node =>
        cases node with
        | file content => simp [hfind] at h
        | directory inside =>
          rw [hfind] at h
          exact ih h
    · rw [List.filter_cons_of_pos (by simp [hpoint])]
      rw [walk] at h ⊢
      cases hfind : fs.root.find? here with
      | none => simp [hfind] at h
      | some node =>
        cases node with
        | file content => simp [hfind] at h
        | directory inside =>
          simp only [hfind, if_neg hpoint] at h ⊢
          -- up, or down to an entry
          split at h
          · rename_i hup
            rw [if_pos hup]
            exact ih h
          · rename_i hup
            rw [if_neg hup]
            split at h
            · cases h
            · rename_i hshort
              rw [if_neg hshort]
              cases hentry : inside.lookup step with
              | none => simp [hentry] at h
              | some child =>
                simp only [hentry] at h ⊢
                exact ih h

/-- The first name of a walk is an entry of the directory where the walk begins. -/
theorem walk_name_cons {rest : List String} (hname : IsName name)
    (h : fs.walk here (name :: rest) = .ok place) :
    ∃ inside child, fs.root.find? here = some (.directory inside) ∧ inside.lookup name = some child
      ∧ name.utf8ByteSize ≤ longestName ∧ fs.walk (here ++ [name]) rest = .ok place := by
  rw [walk] at h
  cases hfind : fs.root.find? here with
  | none => simp [hfind] at h
  | some node =>
    cases node with
    | file content => simp [hfind] at h
    | directory inside =>
      simp only [hfind, if_neg hname.ne_here, if_neg hname.ne_up] at h
      split at h
      · cases h
      · rename_i hshort
        cases hentry : inside.lookup name with
        | none => simp [hentry] at h
        | some child =>
          simp only [hentry] at h
          exact ⟨inside, child, rfl, hentry, Nat.le_of_not_lt hshort, h⟩

theorem find?_entry {child : Node} (hhere : fs.root.find? here = some (.directory entries))
    (hentry : entries.lookup name = some child) : fs.root.find? (here ++ [name]) = some child := by
  rw [Node.find?_append, hhere, Option.bind_some, Node.find?_directory_cons, hentry,
    Option.bind_some, Node.find?_nil]

/-- Walking down to an entry. -/
theorem walk_entry {child : Node} (hname : IsName name) (hshort : name.utf8ByteSize ≤ longestName)
    (hhere : fs.root.find? here = some (.directory entries))
    (hentry : entries.lookup name = some child) : fs.walk here [name] = .ok (here ++ [name]) := by
  have hdirectory : fs.itemAt? here = some .directory :=
    Node.itemAt?_eq_directory.mpr ⟨entries, hhere⟩
  have hthere : fs.itemAt? (here ++ [name]) ≠ none := by
    rw [Ne, itemAt?, Node.itemAt?_eq_none, find?_entry hhere hentry]
    exact Option.some_ne_none child
  exact walk_name hdirectory hname.ne_here hname.ne_up (Nat.not_lt_of_le hshort) hthere

/-- A walk that makes a step begins in a directory. -/
theorem find?_of_walk_cons {step : String} {rest : List String}
    (h : fs.walk here (step :: rest) = .ok place) :
    ∃ inside, fs.root.find? here = some (.directory inside) := by
  rw [walk] at h
  cases hfind : fs.root.find? here with
  | none => simp [hfind] at h
  | some node =>
    cases node with
    | file content => simp [hfind] at h
    | directory inside => exact ⟨inside, rfl⟩

/-- A walk that ends at a directory begins in one. -/
theorem find?_of_walk {rest : List String} (hwalk : fs.walk here rest = .ok place)
    (hplace : fs.root.find? place = some (.directory entries)) :
    ∃ inside, fs.root.find? here = some (.directory inside) := by
  cases rest with
  | nil =>
    rw [walk_nil, Except.ok.injEq] at hwalk
    exact ⟨entries, hwalk ▸ hplace⟩
  | cons name rest => exact find?_of_walk_cons hwalk

theorem lookup_of_mem {entry : String × Node} (hnodup : (entries.map Prod.fst).Nodup)
    (h : entry ∈ entries) : entries.lookup entry.1 = some entry.2 := by
  cases hfound : entries.lookup entry.1 with
  | none =>
    have hnone := List.lookup_eq_none_iff.mp hfound entry h
    simp at hnone
  | some node =>
    have hmem : (entry.1, node) ∈ entries := Node.mem_of_lookup hfound
    have hsame : (entry.1, node) = entry := List.inj_on_of_nodup_map hnodup hmem h rfl
    rw [← hsame]

/-! ## Where a path starts -/

theorem origin_join (hname : IsName name) (directory : Path) :
    fs.origin (directory.join ⟨name⟩) = fs.origin directory := by
  rw [origin, origin, Path.isAbsolute_join hname]

theorem steps_start (p : Path) : steps (start p) = [] := by
  rw [start]
  split <;> rfl

/-- The names that are taken from the beginning of a path are the steps of what comes out. -/
theorem steps_below_start {names : List String} (h : ∀ name ∈ names, IsName name) (p : Path) :
    steps ((start p).below names) = names := by
  have hsteps : ∀ place : Path, steps (place.below names) = steps place ++ names := by
    induction names with
    | nil => simp
    | cons name rest ih =>
      rw [List.forall_mem_cons] at h
      intro place
      rw [Path.below_cons, ih h.2, Path.steps_join_name h.1, List.append_assoc,
        List.singleton_append]
  rw [hsteps, steps_start, List.nil_append]

theorem origin_below_start {names : List String} (h : ∀ name ∈ names, IsName name) (p : Path) :
    fs.origin ((start p).below names) = fs.origin p := by
  rw [origin, origin, Capitalization.isAbsolute_below_start h]

theorem nul_notMem_text (h : pathError? (listed p) = none) : '\x00' ∉ p.text.toList := by
  by_cases hempty : p.text = ""
  · rw [hempty]
    simp
  · rw [listed_of_ne hempty] at h
    exact (pathError?_eq_none_iff.mp h).1

/-- A path that can be looked up stays so when slashes and idle points are left out, and when names
are taken from its end. -/
theorem pathError?_below_start (hp : p.IsPlain) (husable : pathError? (listed p) = none)
    {front : List String} (hfront : front <+: p.names) :
    pathError? (listed ((start p).below front)) = none := by
  have hnames : ∀ name ∈ front, IsName name :=
    fun name hname => Path.isName_of_mem_names hp (hfront.subset hname)
  -- without names it is the slash or the point; otherwise each condition is inherited from `p`
  rcases eq_or_ne front [] with rfl | hne
  · rw [Path.below_nil, start]
    split <;> rfl
  · have hnonempty : ((start p).below front).text ≠ "" :=
      fun hempty => Path.not_isOpen_below hnames hne (start p) (.inl hempty)
    have hfree : ∀ name ∈ front, '\x00' ∉ name.toList := by
      intro name hname hmem
      have hstep := (List.mem_filter.mp (hfront.subset hname)).1
      exact nul_notMem_text husable (Path.mem_of_mem_step hstep hmem)
    have hnul := Capitalization.nul_notMem_below_start hnames hfree p
    have hlength : ((start p).below front).text.utf8ByteSize ≤ longestPath := by
      have hle := Path.utf8ByteSize_below_le hp hfront hne
      have hpath : p.text ≠ "" := by
        intro hempty
        have hsteps : p.names = [] := by
          rw [Path.names, steps, hempty]
          rfl
        exact hne (List.prefix_nil.mp (hsteps ▸ hfront))
      rw [listed_of_ne hpath] at husable
      exact Nat.le_trans hle (pathError?_eq_none_iff.mp husable).2.2
    rw [listed_of_ne hnonempty]
    exact pathError?_eq_none_iff.mpr ⟨hnul, hnonempty, hlength⟩

/-- The directories on the way of a plain path can be listed. -/
theorem list_below_start (hp : p.IsPlain) (husable : pathError? (listed p) = none)
    {front : List String} (hfront : front <+: p.names)
    (hwalk : fs.walk (fs.origin p) front = .ok place)
    (hplace : fs.root.find? place = some (.directory entries)) :
    fs.list (listed ((start p).below front)) = .ok entries := by
  have hnames : ∀ name ∈ front, IsName name :=
    fun name hname => Path.isName_of_mem_names hp (hfront.subset hname)
  have hbelow : fs.walk (fs.origin ((start p).below front)) (steps ((start p).below front))
      = .ok place := by
    rw [origin_below_start hnames, steps_below_start hnames]
    exact hwalk
  exact list_of_walk (pathError?_below_start hp husable hfront) hbelow hplace

/-! ## Files that are listed and files that are read -/

theorem read_eq_ok_iff {content : ByteArray} :
    fs.read p = .ok content ↔ fs.node p = .ok (.file content) := by
  rw [read]
  cases fs.node p with
  | error error => simp
  | ok node => cases node <;> simp

/-- A file that is listed can be read, unless its path is too long. -/
theorem read_of_list {content : ByteArray} (hfs : fs.WellNamed) (hname : IsName name)
    (hlist : fs.list (listed directory) = .ok entries) (hentry : (name, .file content) ∈ entries)
    (hlength : (directory.join ⟨name⟩).text.utf8ByteSize ≤ longestPath) :
    fs.read (directory.join ⟨name⟩) = .ok content := by
  obtain ⟨place, hwalk, hplace⟩ := walk_of_list hlist
  -- the walk of the directory and one step more, which finds this entry as no other has its name
  have hlookup : entries.lookup name = some (.file content) :=
    lookup_of_mem (hfs.nodup hplace) hentry
  have hlast : fs.walk place [name] = .ok (place ++ [name]) :=
    walk_entry hname (hfs.not_long hplace hentry) hplace hlookup
  have hthere : fs.walk (fs.origin (directory.join ⟨name⟩)) (steps (directory.join ⟨name⟩))
      = .ok (place ++ [name]) := by
    rw [origin_join hname, Path.steps_join_name hname, walk_append, hwalk]
    exact hlast
  have hopen := Path.not_isOpen_join hname directory
  have hfile : asksForDirectory (directory.join ⟨name⟩) = false := by
    rw [asksForDirectory, beq_eq_false_iff_ne]
    exact fun hslash => hopen (.inr hslash)
  have hnul : '\x00' ∉ (directory.join ⟨name⟩).text.toList := by
    intro hmem
    have hnames : ∀ other ∈ [name], IsName other := List.forall_mem_singleton.mpr hname
    rcases Path.mem_below hnames hmem with hfront | hslash | ⟨other, hother, hmem⟩
    · exact nul_notMem_text (pathError?_of_list hlist) hfront
    · cases hslash
    · rw [List.mem_singleton.mp hother] at hmem
      exact hfs.no_nul hplace hentry hmem
  have husable : pathError? (directory.join ⟨name⟩) = none :=
    pathError?_eq_none_iff.mpr ⟨hnul, fun hempty => hopen (.inl hempty), hlength⟩
  exact read_eq_ok_iff.mpr
    (node_of_walk husable hthere (find?_entry hplace hlookup) (.inl hfile))

/-- A file that is read stands at the end of a walk, and its path does not ask for a directory. -/
theorem walk_of_read {content : ByteArray} (h : fs.read p = .ok content) :
    pathError? p = none ∧ asksForDirectory p = false
      ∧ ∃ place, fs.walk (fs.origin p) (steps p) = .ok place
        ∧ fs.root.find? place = some (.file content) := by
  have hnode := read_eq_ok_iff.mp h
  have husable := pathError?_of_node hnode
  rw [node, locate, husable] at hnode
  cases hwalk : fs.walk (fs.origin p) (steps p) with
  | error error => simp [hwalk] at hnode
  | ok place =>
    cases hplace : fs.root.find? place with
    | none => simp [hwalk, hplace] at hnode
    | some node =>
      cases node with
      | directory inside => simp [hwalk, hplace] at hnode
      | file found =>
        cases hslash : asksForDirectory p with
        | true => simp [hwalk, hplace, hslash] at hnode
        | false =>
          obtain rfl : found = content := by simpa [hwalk, hplace, hslash] using hnode
          exact ⟨husable, rfl, place, rfl, hplace⟩

/-- A text without steps consists of slashes. -/
theorem asksForDirectory_of_steps_eq_nil (hempty : p.text ≠ "") (h : steps p = []) :
    asksForDirectory p = true := by
  have hcharacters : p.text.toList ≠ [] := fun heq => hempty (String.toList_eq_nil_iff.mp heq)
  rw [asksForDirectory, beq_iff_eq, List.getLast?_eq_some_getLast hcharacters, Option.some.injEq]
  by_contra hslash
  obtain ⟨piece, hpiece, hmem⟩ := exists_piece_of_mem (List.getLast_mem hcharacters) hslash
  have hstep : String.ofList piece ∈ steps p :=
    mem_steps_iff.mpr ⟨piece, hpiece, List.ne_nil_of_mem hmem, rfl⟩
  rw [h] at hstep
  cases hstep

/-- A path under which a file is read has a step that counts: slashes and points alone lead to a
directory. -/
theorem names_ne_nil_of_read {content : ByteArray} (h : fs.read p = .ok content) :
    p.names ≠ [] := by
  intro hnames
  obtain ⟨husable, hslash, place, hwalk, hplace⟩ := walk_of_read h
  have hstay : fs.walk (fs.origin p) p.names = .ok place := walk_names hwalk
  rw [hnames, walk_nil, Except.ok.injEq] at hstay
  -- slashes alone ask for a directory, and a point is only followed in one
  cases hsteps : steps p with
  | nil =>
    have hempty : p.text ≠ "" := (pathError?_eq_none_iff.mp husable).2.1
    rw [asksForDirectory_of_steps_eq_nil hempty hsteps] at hslash
    cases hslash
  | cons step rest =>
    rw [hsteps] at hwalk
    obtain ⟨inside, hinside⟩ := find?_of_walk_cons hwalk
    rw [hstay, hplace] at hinside
    cases hinside

/-- A file that is read under a plain path is listed in its directory. -/
theorem hasFile_of_read {content : ByteArray} (hp : p.IsPlain) (h : fs.read p = .ok content) :
    fs.HasFile p.components := by
  obtain ⟨husable, -, place, hwalk, hplace⟩ := walk_of_read h
  have hstay : fs.walk (fs.origin p) p.names = .ok place := walk_names hwalk
  obtain ⟨front, last, hsplit⟩ : ∃ front last, p.names = front ++ [last] :=
    ⟨_, _, (List.dropLast_append_getLast (names_ne_nil_of_read h)).symm⟩
  have hfront : front <+: p.names := ⟨[last], hsplit.symm⟩
  have hnames : ∀ name ∈ p.names, IsName name := fun name hname => Path.isName_of_mem_names hp hname
  have hlast : IsName last := hnames last (by simp [hsplit])
  -- the names in front lead to a directory, and the last one is an entry of it
  rw [hsplit, walk_append] at hstay
  cases hdirectory : fs.walk (fs.origin p) front with
  | error error =>
    rw [hdirectory] at hstay
    cases hstay
  | ok directory =>
    rw [hdirectory] at hstay
    obtain ⟨inside, child, hinside, hchild, -, hend⟩ := walk_name_cons hlast hstay
    rw [walk_nil, Except.ok.injEq] at hend
    have hfile : child = .file content := by
      have hfound := find?_entry hinside hchild
      rw [hend, hplace] at hfound
      exact (Option.some.inj hfound).symm
    rw [hfile] at hchild
    have hempty : p.text ≠ "" := (pathError?_eq_none_iff.mp husable).2.1
    rw [← listed_of_ne hempty] at husable
    refine ⟨((start p).below front).components, last, content, ?_, (start p).below front, inside,
      rfl, list_below_start hp husable hfront hdirectory hinside, Node.mem_of_lookup hchild⟩
    rw [Capitalization.components_below_start fun name hname => hnames name (hfront.subset hname),
      Path.components_of_isPlain hp, hsplit, List.map_append, List.append_assoc]
    rfl

end FileSystem

end SourceServer
