import SourceServer.Proofs.FileSystem.Naming

/-!
# What is below a directory

What is below a directory that can be listed is found by names taken one after the other. Its path is
that of the directory with these names, and it is looked up there as long as the path is not too
long.

- `Node.find?_below`, `Node.exists_directory_of_find?`: finding in parts.
- `Node.entryPaths_eq_flatMap`, `Node.mem_paths_iff`, `Node.nodup_paths`: the names below a node.
- `FileSystem.Holds`: what stands at some names below a directory.
- `FileSystem.walk_below`, `FileSystem.node_below`: names taken from a directory lead there.
- `FileSystem.isDirectory_below`, `FileSystem.list_below`: looking at what is below a directory.
-/

namespace SourceServer

namespace Node

/-! ## Finding in parts -/

/-- What is found below a place is found from there. -/
theorem find?_below {root node : Node} {place : List String} (h : root.find? place = some node)
    (names : List String) : root.find? (place ++ names) = node.find? names := by
  rw [find?_append, h, Option.bind_some]

/-- What is found stands in a directory. -/
theorem exists_directory_of_find? {root node : Node} {above : List String} {name : String}
    (h : root.find? (above ++ [name]) = some node) :
    ∃ entries, root.find? above = some (.directory entries)
      ∧ (Node.directory entries).find? [name] = some node := by
  rw [find?_append] at h
  obtain ⟨parent, hparent, hlast⟩ := Option.bind_eq_some_iff.mp h
  obtain ⟨entries, child, rfl, -⟩ := child_of_find? hlast
  exact ⟨entries, hparent, hlast⟩

/-! ## The names below a node -/

/-- The paths among some entries, entry by entry. -/
theorem entryPaths_eq_flatMap (entries : List (String × Node)) :
    entryPaths entries = entries.flatMap fun entry =>
      ([entry.1], entry.2.isDirectory)
        :: entry.2.paths.map fun inside => (entry.1 :: inside.1, inside.2) := by
  induction entries with
  | nil => rw [entryPaths, List.flatMap_nil]
  | cons entry rest ih =>
    obtain ⟨name, node⟩ := entry
    rw [entryPaths, List.flatMap_cons, ih]

theorem paths_file (content : ByteArray) : (Node.file content).paths = [] := by
  rw [paths]

theorem paths_directory (entries : List (String × Node)) :
    (Node.directory entries).paths = entryPaths entries := by
  rw [paths]

/-- The names among some entries begin with the name of one of them. -/
theorem exists_head_of_mem_entryPaths {entries : List (String × Node)}
    {inside : List String × Bool} (h : inside ∈ entryPaths entries) :
    ∃ first ∈ entries.map Prod.fst, inside.1.head? = some first := by
  rw [entryPaths_eq_flatMap] at h
  obtain ⟨entry, hentry, hinside⟩ := List.mem_flatMap.mp h
  refine ⟨entry.1, List.mem_map_of_mem hentry, ?_⟩
  rcases List.mem_cons.mp hinside with rfl | hinside
  · rfl
  · obtain ⟨deeper, -, rfl⟩ := List.mem_map.mp hinside
    rfl

theorem ne_nil_of_mem_paths {node : Node} {inside : List String × Bool} (h : inside ∈ node.paths) :
    inside.1 ≠ [] := by
  cases node with
  | file content =>
    rw [paths_file] at h
    cases h
  | directory entries =>
    rw [paths_directory] at h
    obtain ⟨first, -, hhead⟩ := exists_head_of_mem_entryPaths h
    intro hnil
    rw [hnil] at hhead
    cases hhead

/-- What is found in a tree has no more below it than the tree. -/
theorem length_paths_le {node found : Node} {place : List String}
    (h : node.find? place = some found) : found.paths.length ≤ node.paths.length := by
  induction place generalizing node with
  | nil =>
    rw [find?_nil, Option.some.injEq] at h
    subst h
    exact Nat.le_refl _
  | cons name rest ih =>
    obtain ⟨entries, child, rfl, hchild, hfound⟩ := child_of_find? h
    obtain ⟨front, back, rfl⟩ := List.append_of_mem (mem_of_lookup hchild)
    have hle : found.paths.length ≤ child.paths.length := ih hfound
    rw [paths_directory, entryPaths_eq_flatMap, List.flatMap_append, List.flatMap_cons,
      List.length_append, List.length_append, List.length_cons, List.length_map]
    dsimp only
    omega

/-- In each directory of a tree all names are different. -/
def EachNodup (node : Node) : Prop :=
  ∀ place entries, node.find? place = some (.directory entries) → (entries.map Prod.fst).Nodup

theorem EachNodup.lookup {entries : List (String × Node)} {entry : String × Node}
    (h : (Node.directory entries).EachNodup) (hentry : entry ∈ entries) :
    entries.lookup entry.1 = some entry.2 :=
  FileSystem.lookup_of_mem (h [] entries (find?_nil _)) hentry

theorem EachNodup.entry {entries : List (String × Node)} {entry : String × Node}
    (h : (Node.directory entries).EachNodup) (hentry : entry ∈ entries) : entry.2.EachNodup := by
  intro place inside hplace
  refine h (entry.1 :: place) inside ?_
  rw [find?_directory_cons, h.lookup hentry, Option.bind_some]
  exact hplace

/-- The paths below a node are where something is found. -/
theorem mem_paths_iff {node : Node} (h : node.EachNodup) {inside : List String × Bool} :
    inside ∈ node.paths ↔ inside.1 ≠ []
      ∧ ∃ found, node.find? inside.1 = some found ∧ found.isDirectory = inside.2 := by
  obtain ⟨names, kind⟩ := inside
  induction names generalizing node with
  | nil => exact iff_of_false (fun hmem => ne_nil_of_mem_paths hmem rfl) fun hne => hne.1 rfl
  | cons name rest ih =>
    cases node with
    | file content => simp [paths_file]
    | directory entries =>
      simp only [paths_directory, entryPaths_eq_flatMap, List.mem_flatMap, List.mem_cons,
        List.mem_map, find?_directory_cons, Option.bind_eq_some_iff, ne_eq, List.cons_ne_nil,
        not_false_eq_true, true_and]
      constructor
      · rintro ⟨entry, hentry, heq | ⟨⟨deeper, deeperKind⟩, hdeeper, heq⟩⟩
        · cases heq
          exact ⟨entry.2, ⟨entry.2, h.lookup hentry, find?_nil _⟩, rfl⟩
        · cases heq
          obtain ⟨-, found, hfound, hkind⟩ := (ih (h.entry hentry)).mp hdeeper
          exact ⟨found, ⟨entry.2, h.lookup hentry, hfound⟩, hkind⟩
      · rintro ⟨found, ⟨child, hchild, hfound⟩, hkind⟩
        have hentry : (name, child) ∈ entries := mem_of_lookup hchild
        refine ⟨(name, child), hentry, ?_⟩
        by_cases hrest : rest = []
        · subst hrest
          rw [find?_nil, Option.some.injEq] at hfound
          rw [← hkind, ← hfound]
          exact .inl rfl
        · exact .inr ⟨(rest, kind),
            (ih (h.entry hentry)).mpr ⟨hrest, found, hfound, hkind⟩, rfl⟩

mutual

/-- No names come twice among the paths below a node. -/
theorem nodup_paths : ∀ (node : Node), node.EachNodup → (node.paths.map Prod.fst).Nodup
  | .file _, _ => by
    rw [paths_file]
    exact List.nodup_nil
  | .directory entries, h => by
    rw [paths_directory]
    exact nodup_entryPaths entries (h [] entries (find?_nil _)) fun entry hentry => h.entry hentry

theorem nodup_entryPaths : ∀ (entries : List (String × Node)), (entries.map Prod.fst).Nodup →
    (∀ entry ∈ entries, entry.2.EachNodup) → ((entryPaths entries).map Prod.fst).Nodup
  | [], _, _ => by
    rw [entryPaths]
    exact List.nodup_nil
  | (name, node) :: rest, hnames, heach => by
    rw [List.map_cons, List.nodup_cons] at hnames
    rw [List.forall_mem_cons] at heach
    have hnode := nodup_paths node heach.1
    have hrest := nodup_entryPaths rest hnames.2 heach.2
    -- what is below the first entry begins with its name, and nothing else does
    have hfirst : (([name] :: node.paths.map fun inside => name :: inside.1)).Nodup := by
      refine List.nodup_cons.mpr ⟨fun hmem => ?_, ?_⟩
      · obtain ⟨inside, hinside, heq⟩ := List.mem_map.mp hmem
        exact ne_nil_of_mem_paths hinside (List.cons.inj heq).2
      · have hcons : Function.Injective (List.cons name) := List.cons_injective
        have hmapped := hnode.map hcons
        rwa [List.map_map] at hmapped
    rw [entryPaths, List.cons_append, List.map_cons, List.map_append, List.map_map,
      ← List.cons_append, List.nodup_append]
    refine ⟨hfirst, hrest, fun names hmem others hothers heq => hnames.1 ?_⟩
    obtain ⟨other, hother, rfl⟩ := List.mem_map.mp hothers
    obtain ⟨first, hfound, hhead⟩ := exists_head_of_mem_entryPaths hother
    have hname : names.head? = some name := by
      rcases List.mem_cons.mp hmem with rfl | hmem
      · rfl
      · obtain ⟨inside, -, rfl⟩ := List.mem_map.mp hmem
        rfl
    rw [heq, hhead, Option.some.injEq] at hname
    exact hname ▸ hfound

end

end Node

namespace FileSystem

/-- A path that is short enough to be looked up. -/
def Fits (p : Path) : Prop :=
  p.text.utf8ByteSize ≤ longestPath

instance (p : Path) : Decidable (Fits p) :=
  inferInstanceAs (Decidable (_ ≤ _))

/-- What stands at some names below a directory that can be listed. -/
def Holds (fs : FileSystem) (directory : Path) (names : List String) (node : Node) : Prop :=
  ∃ entries, fs.list directory = .ok entries ∧ (Node.directory entries).find? names = some node

variable {fs : FileSystem} {directory : Path} {entries : List (String × Node)}
  {names place : List String} {node : Node}

/-! ## Walking down -/

/-- A directory that is listed stands at the end of a walk, and its path can be looked up. -/
theorem place_of_list (h : fs.list directory = .ok entries) :
    ∃ place, fs.walk (fs.origin directory) (steps directory) = .ok place
      ∧ fs.root.find? place = some (.directory entries) ∧ pathError? directory = none := by
  have hnode := list_eq_ok_iff.mp h
  obtain ⟨place, hwalk, hplace⟩ := node_eq_directory hnode
  exact ⟨place, hwalk, hplace, pathError?_of_node hnode⟩

/-- A path that names something fits. -/
theorem fits_of_node {p : Path} (h : fs.node p = .ok node) : Fits p :=
  (pathError?_eq_none_iff.mp (pathError?_of_node h)).2.2

theorem fits_of_list (h : fs.list directory = .ok entries) : Fits directory :=
  fits_of_node (list_eq_ok_iff.mp h)

theorem ProperlyNamed.eachNodup (h : fs.ProperlyNamed)
    (hplace : fs.root.find? place = some node) : node.EachNodup := by
  intro below entries hbelow
  have hthere : fs.root.find? (place ++ below) = some (.directory entries) := by
    rw [Node.find?_below hplace]
    exact hbelow
  exact h.nodup hthere

/-- The names that lead somewhere below a place are names of entries. -/
theorem ProperlyNamed.names_of_find? (h : fs.ProperlyNamed) {root : Node}
    (hplace : fs.root.find? place = some root) (hfind : root.find? names = some node) :
    ∀ name ∈ names, IsName name ∧ name.utf8ByteSize ≤ longestName ∧ '\x00' ∉ name.toList := by
  induction names generalizing place root with
  | nil => exact fun name hname => absurd hname List.not_mem_nil
  | cons first rest ih =>
    obtain ⟨entries, child, rfl, hchild, hfound⟩ := Node.child_of_find? hfind
    have hentry := Node.mem_of_lookup hchild
    refine List.forall_mem_cons.mpr ⟨⟨h.isName hplace hentry, h.not_long hplace hentry,
      h.no_nul hplace hentry⟩, ih (find?_entry hplace hchild) hfound⟩

/-- Names that lead somewhere below a place are walked through. -/
theorem walk_of_find? (h : fs.ProperlyNamed) {root : Node}
    (hplace : fs.root.find? place = some root) (hfind : root.find? names = some node) :
    fs.walk place names = .ok (place ++ names) := by
  induction names generalizing place root with
  | nil => rw [walk_nil, List.append_nil]
  | cons first rest ih =>
    obtain ⟨entries, child, rfl, hchild, hfound⟩ := Node.child_of_find? hfind
    have hentry := Node.mem_of_lookup hchild
    have hstep := walk_entry (h.isName hplace hentry) (h.not_long hplace hentry) hplace hchild
    rw [← List.singleton_append, walk_append, hstep]
    show fs.walk (place ++ [first]) rest = _
    rw [ih (find?_entry hplace hchild) hfound, List.append_assoc]

/-! ## Paths below a directory -/

theorem steps_below (h : ∀ name ∈ names, IsName name) (directory : Path) :
    steps (directory.below names) = steps directory ++ names := by
  induction names generalizing directory with
  | nil => rw [Path.below_nil, List.append_nil]
  | cons name rest ih =>
    rw [List.forall_mem_cons] at h
    rw [Path.below_cons, ih h.2, Path.steps_join_name h.1, List.append_assoc, List.singleton_append]

theorem origin_below (h : ∀ name ∈ names, IsName name) (directory : Path) :
    fs.origin (directory.below names) = fs.origin directory := by
  rw [origin, origin, Path.isAbsolute_below h]

/-- Names make a path longer. -/
theorem size_le_below (h : ∀ name ∈ names, IsName name) (directory : Path) :
    directory.text.utf8ByteSize ≤ (directory.below names).text.utf8ByteSize := by
  induction names generalizing directory with
  | nil => exact Nat.le_refl _
  | cons name rest ih =>
    rw [List.forall_mem_cons] at h
    rw [Path.below_cons]
    refine Nat.le_trans ?_ (ih h.2 _)
    rw [Path.text_join h.1]
    split
    · rw [String.utf8ByteSize_append]
      omega
    · rw [String.utf8ByteSize_append, String.utf8ByteSize_append]
      omega

/-- Names taken from a directory lead below it. -/
theorem walk_below (h : fs.ProperlyNamed)
    (hwalk : fs.walk (fs.origin directory) (steps directory) = .ok place)
    (hplace : fs.root.find? place = some (.directory entries))
    (hfind : (Node.directory entries).find? names = some node) :
    fs.walk (fs.origin (directory.below names)) (steps (directory.below names))
      = .ok (place ++ names) := by
  have hnames : ∀ name ∈ names, IsName name :=
    fun name hname => (h.names_of_find? hplace hfind name hname).1
  rw [origin_below hnames, steps_below hnames, walk_append, hwalk]
  exact walk_of_find? h hplace hfind

/-- What is below a directory is looked up there when the path fits. -/
theorem node_below (h : fs.ProperlyNamed) (hnames : names ≠ [])
    (hholds : fs.Holds directory names node) (hfits : Fits (directory.below names)) :
    fs.node (directory.below names) = .ok node := by
  obtain ⟨entries, hlist, hfind⟩ := hholds
  obtain ⟨place, hwalk, hplace, husable⟩ := place_of_list hlist
  have hproper := h.names_of_find? hplace hfind
  have hisName : ∀ name ∈ names, IsName name := fun name hname => (hproper name hname).1
  have hclosed := Path.not_isOpen_below hisName hnames directory
  have hfound : fs.root.find? (place ++ names) = some node := by
    rw [Node.find?_below hplace]
    exact hfind
  refine node_of_walk (pathError?_eq_none_iff.mpr ⟨fun hnul => ?_, fun hempty => ?_, hfits⟩)
    (walk_below h hwalk hplace hfind) hfound (.inl ?_)
  · rcases Path.mem_below hisName hnul with hdirectory | hslash | ⟨name, hname, hmem⟩
    · exact (pathError?_eq_none_iff.mp husable).1 hdirectory
    · cases hslash
    · exact (hproper name hname).2.2 hmem
  · exact hclosed (.inl hempty)
  · rw [asksForDirectory, beq_eq_false_iff_ne]
    exact fun hslash => hclosed (.inr hslash)

theorem isDirectory_eq_true_iff {p : Path} :
    fs.isDirectory p = true ↔ ∃ entries, fs.list p = .ok entries := by
  simp only [list_eq_ok_iff]
  rw [isDirectory]
  cases fs.node p with
  | error error => simp
  | ok node => cases node <;> simp [Node.isDirectory]

/-- What is below a directory is seen to be a directory when the path fits. -/
theorem isDirectory_below (h : fs.ProperlyNamed) (hnames : names ≠ [])
    (hholds : fs.Holds directory names node) :
    fs.isDirectory (directory.below names)
      = (node.isDirectory && decide (Fits (directory.below names))) := by
  by_cases hfits : Fits (directory.below names)
  · rw [isDirectory, node_below h hnames hholds hfits]
    simp [hfits]
  · rw [decide_eq_false hfits, Bool.and_false, isDirectory]
    cases hnode : fs.node (directory.below names) with
    | error error => rfl
    | ok found => exact absurd (fits_of_node hnode) hfits

theorem list_below (h : fs.ProperlyNamed) (hnames : names ≠ []) {inside : List (String × Node)}
    (hholds : fs.Holds directory names (.directory inside)) (hfits : Fits (directory.below names)) :
    fs.list (directory.below names) = .ok inside :=
  list_eq_ok_iff.mpr (node_below h hnames hholds hfits)

end FileSystem

end SourceServer
