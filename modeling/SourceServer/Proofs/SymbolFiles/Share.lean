import SourceServer.CommandLine.SymbolFiles
import SourceServer.Proofs.FileSystem.Below
import SourceServer.Proofs.Path.FileName

/-!
# What a search takes for symbol files

A search sees what is below a directory by its paths. It looks into no directory whose path is too
long, and takes it for a file. What it takes below a directory is therefore made up of the shares of
the entries: a directory that it looks into adds what is taken below it, and whatever has a name of
symbol files adds itself.

- `SymbolFiles.IsSymbolName`, `SymbolFiles.isSymbolFile_below`: names of symbol files.
- `SymbolFiles.taken`: what is taken below a directory.
- `SymbolFiles.taken_eq_flatMap`: the same, entry by entry.
-/

namespace SourceServer

open FileSystem (Fits)

namespace SymbolFiles

/-! ## Names of symbol files -/

/-- A name with the extension of symbol files: something, a point and the extension in any case. -/
def IsSymbolName (name : String) : Prop :=
  ∃ stem ending, stem ≠ "" ∧ name = stem ++ "." ++ ending
    ∧ Ascii.equalIgnoringCase ending extension = true

theorem point_notMem_of_equalIgnoringCase {ending : String}
    (h : Ascii.equalIgnoringCase ending extension = true) : '.' ∉ ending.toList := by
  intro hmem
  rw [Ascii.equalIgnoringCase, beq_iff_eq] at h
  have hlower : Ascii.lowerChar '.' ∈ ending.toList.map Ascii.lowerChar := List.mem_map_of_mem hmem
  rw [h] at hlower
  exact absurd hlower (by decide)

/-- A path is that of a symbol file when its file name is a name of symbol files. -/
theorem isSymbolFile_iff {p : Path} {name : String} (hname : p.fileName? = some name) :
    isSymbolFile p = true ↔ IsSymbolName name := by
  rw [isSymbolFile, Option.any_eq_true]
  constructor
  · rintro ⟨ending, hending, hequal⟩
    obtain ⟨-, stem, hstem, hsplit⟩ := (Path.extension?_eq_some_iff hname).mp hending
    exact ⟨stem, ending, hstem, hsplit, hequal⟩
  · rintro ⟨stem, ending, hstem, hsplit, hequal⟩
    exact ⟨ending, (Path.extension?_eq_some_iff hname).mpr
      ⟨point_notMem_of_equalIgnoringCase hequal, stem, hstem, hsplit⟩, hequal⟩

theorem isSymbolFile_below {above : List String} {name : String}
    (h : ∀ step ∈ above ++ [name], IsName step) (directory : Path) :
    isSymbolFile (directory.below (above ++ [name])) = true ↔ IsSymbolName name := by
  refine isSymbolFile_iff (Path.fileName?_eq_some_iff.mpr ?_)
  rw [Path.components_below h, List.map_append, ← List.append_assoc]
  exact List.getLast?_concat

/-- No index has such a name: it ends in another letter. -/
theorem not_isSymbolName_of_getLast? {name : String} (h : name.toList.getLast? = some 'v') :
    ¬ IsSymbolName name := by
  rintro ⟨stem, ending, -, rfl, hequal⟩
  rw [Ascii.equalIgnoringCase, beq_iff_eq] at hequal
  have hlast := congrArg List.getLast? hequal
  rw [List.getLast?_map] at hlast
  have hends : ending.toList.getLast? = some 'v' := by
    cases hcases : ending.toList.getLast? with
    | none =>
      rw [hcases] at hlast
      exact absurd hlast (by decide)
    | some c =>
      rw [String.toList_append, List.getLast?_append, hcases] at h
      exact h
  rw [hends] at hlast
  exact absurd hlast (by decide)

/-! ## What a search takes for symbol files -/

/-- Whether a search takes what is at some names below a directory for a symbol file: it comes to
look at the path, and sees no directory there. -/
def isTaken (directory : Path) (inside : List String × Bool) : Bool :=
  decide (Fits (directory.below inside.1.dropLast))
    && !(inside.2 && decide (Fits (directory.below inside.1)))
    && isSymbolFile (directory.below inside.1)

/-- What a search takes for symbol files below a directory. -/
def taken (fs : FileSystem) (directory : Path) : List Path :=
  match fs.list directory with
  | .error _ => []
  | .ok entries =>
    ((Node.entryPaths entries).filter (isTaken directory)).map fun inside =>
      directory.below inside.1

/-- What a path in a listing adds to what a search takes. -/
def share (fs : FileSystem) (p : Path) : List Path :=
  if fs.isDirectory p then taken fs p else if isSymbolFile p then [p] else []

/-- The paths that a listing shows. -/
def listedPaths (directory : Path) (listed : List (String × Node)) : List Path :=
  listed.map fun entry => directory.join ⟨entry.1⟩

variable {fs : FileSystem} {directory : Path} {entries : List (String × Node)}

theorem taken_of_list (h : fs.list directory = .ok entries) :
    taken fs directory = ((Node.entryPaths entries).filter (isTaken directory)).map fun inside =>
      directory.below inside.1 := by
  rw [taken, h]

theorem holds_entry (h : fs.ProperlyNamed) (hlist : fs.list directory = .ok entries)
    {entry : String × Node} (hentry : entry ∈ entries) :
    fs.Holds directory [entry.1] entry.2 := by
  obtain ⟨place, -, hplace, -⟩ := FileSystem.place_of_list hlist
  refine ⟨entries, hlist, ?_⟩
  rw [Node.find?_directory_cons, FileSystem.lookup_of_mem (h.nodup hplace) hentry]
  exact Node.find?_nil _

/-- Behind the first name, what is taken below a directory is taken below its entry. -/
theorem isTaken_cons {name : String} {inside : List String × Bool} (hinside : inside.1 ≠ []) :
    isTaken directory (name :: inside.1, inside.2) = isTaken (directory.join ⟨name⟩) inside := by
  rw [isTaken, isTaken, List.dropLast_cons_of_ne_nil hinside, Path.below_cons, Path.below_cons]

/-- Nothing is taken below a directory whose path is too long. -/
theorem not_isTaken (h : fs.ProperlyNamed) {place : List String} {node : Node}
    (hplace : fs.root.find? place = some node) (hlong : ¬ Fits directory)
    {inside : List String × Bool} (hinside : inside ∈ node.paths) :
    ¬ isTaken directory inside = true := by
  obtain ⟨-, found, hfound, -⟩ := (Node.mem_paths_iff (h.eachNodup hplace)).mp hinside
  have hnames : ∀ name ∈ inside.1.dropLast, IsName name := fun name hname =>
    (h.names_of_find? hplace hfound name ((List.dropLast_prefix _).subset hname)).1
  have habove : ¬ Fits (directory.below inside.1.dropLast) :=
    fun hle => hlong (Nat.le_trans (FileSystem.size_le_below hnames directory) hle)
  rw [isTaken, decide_eq_false habove]
  exact Bool.false_ne_true

/-- What is taken below a directory, entry by entry. -/
theorem taken_eq_flatMap (h : fs.ProperlyNamed) (hlist : fs.list directory = .ok entries) :
    taken fs directory = (listedPaths directory entries).flatMap (share fs) := by
  obtain ⟨place, -, hplace, -⟩ := FileSystem.place_of_list hlist
  rw [taken_of_list hlist, Node.entryPaths_eq_flatMap, List.filter_flatMap, List.map_flatMap,
    listedPaths, List.flatMap_map]
  refine List.flatMap_congr fun entry hentry => ?_
  obtain ⟨name, node⟩ := entry
  have hholds := holds_entry h hlist hentry
  have hdirectory := FileSystem.isDirectory_below h (List.cons_ne_nil name []) hholds
  have hhere : Fits (directory.below ([name] : List String).dropLast) :=
    FileSystem.fits_of_list hlist
  dsimp only at hholds hdirectory ⊢
  rw [Path.below_cons, Path.below_nil] at hdirectory
  cases node with
  | file content =>
    have htaken : isTaken directory ([name], false) = isSymbolFile (directory.join ⟨name⟩) := by
      rw [isTaken, decide_eq_true hhere]
      rfl
    rw [share, hdirectory, Node.paths_file, List.map_nil]
    simp only [Node.isDirectory, List.filter_cons, htaken, Bool.false_and, Bool.false_eq_true,
      if_false, List.filter_nil]
    cases isSymbolFile (directory.join ⟨name⟩) <;> rfl
  | directory inside =>
    by_cases hfits : Fits (directory.join ⟨name⟩)
    · -- the search goes on in there
      have hbelow : fs.list (directory.join ⟨name⟩) = .ok inside :=
        FileSystem.list_below h (List.cons_ne_nil name []) hholds hfits
      have hnot : isTaken directory ([name], true) = false := by
        simp [isTaken, Path.below_cons, hfits]
      rw [share, hdirectory, decide_eq_true hfits, taken_of_list hbelow, Node.paths_directory]
      simp only [Node.isDirectory, Bool.and_self, if_true]
      rw [List.filter_cons_of_neg (by simp [hnot]), List.filter_map, List.map_map]
      refine congrArg (List.map _) (List.filter_congr fun deeper hdeeper => ?_)
      rw [← Node.paths_directory] at hdeeper
      exact isTaken_cons (Node.ne_nil_of_mem_paths hdeeper)
    · -- nothing in there is come to
      have htaken : isTaken directory ([name], true) = isSymbolFile (directory.join ⟨name⟩) := by
        rw [isTaken, decide_eq_true hhere, Path.below_cons, Path.below_nil, decide_eq_false hfits]
        rfl
      have hchild : fs.root.find? (place ++ [name]) = some (.directory inside) :=
        FileSystem.find?_entry hplace (FileSystem.lookup_of_mem (h.nodup hplace) hentry)
      have hrest : ((Node.directory inside).paths.map fun deeper =>
          (name :: deeper.1, deeper.2)).filter (isTaken directory) = [] := by
        refine List.filter_eq_nil_iff.mpr fun _ hmem => ?_
        obtain ⟨deeper, hdeeper, rfl⟩ := List.mem_map.mp hmem
        rw [isTaken_cons (Node.ne_nil_of_mem_paths hdeeper)]
        exact not_isTaken h hchild hfits hdeeper
      rw [share, hdirectory, decide_eq_false hfits]
      simp only [Node.isDirectory, List.filter_cons, htaken, hrest, Bool.and_false,
        Bool.false_eq_true, if_false]
      cases isSymbolFile (directory.join ⟨name⟩) <;> rfl

end SymbolFiles

end SourceServer
