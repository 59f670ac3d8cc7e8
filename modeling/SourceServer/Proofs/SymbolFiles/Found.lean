import Mathlib.Data.List.Induction
import SourceServer.Proofs.Batch.Careful
import SourceServer.Proofs.Path.Order
import SourceServer.Proofs.SymbolFiles.Search

/-!
# What is found

A search that is carried out in whatever order takes the same symbol files, and sorting puts them
into the same order. They are the symbol files below the directory unless some directory is out of
reach, for its path is too long. Indexes that are written change nothing about them.

- `SymbolFiles.IsTakenBelow`, `SymbolFiles.mem_taken_iff`: what is taken, in terms of the tree.
- `SymbolFiles.pairwise_sorted`, `SymbolFiles.eq_of_mem_iff`: sorting.
- `SymbolFiles.find_eq`, `SymbolFiles.sorted_of_run`: the result of a search, and of any run.
- `SymbolFiles.isTakenBelow_of_write`, `SymbolFiles.find_of_batch`: a search after indexing.
- `SymbolFiles.find_spec`: all of it.
-/

namespace SourceServer

open FileSystem (Fits Holds)

namespace SymbolFiles

/-- A symbol file below a directory: a file at any depth whose name has the extension. -/
def IsSymbolFileBelow (fs : FileSystem) (directory p : Path) : Prop :=
  ∃ above name content, fs.Holds directory (above ++ [name]) (.file content) ∧ IsSymbolName name
    ∧ p = directory.below (above ++ [name])

/-- What a search takes below a directory: it comes to look at the path, and sees no directory. -/
def IsTakenBelow (fs : FileSystem) (directory p : Path) : Prop :=
  ∃ above name node, fs.Holds directory (above ++ [name]) node ∧ IsSymbolName name
    ∧ p = directory.below (above ++ [name]) ∧ Fits (directory.below above)
    ∧ (node.isDirectory = true → ¬ Fits p)

/-- A directory that a search comes to look at and does not look into, for its path is too long. -/
def OutOfReach (fs : FileSystem) (directory : Path) (above : List String) (name : String)
    (inside : List (String × Node)) : Prop :=
  fs.Holds directory (above ++ [name]) (.directory inside) ∧ Fits (directory.below above)
    ∧ ¬ Fits (directory.below (above ++ [name]))

variable {fs after : FileSystem} {directory p : Path} {entries : List (String × Node)}

/-! ## What is taken, in terms of the tree -/

theorem isName_of_holds (h : fs.ProperlyNamed) {names : List String} {node : Node}
    (hholds : fs.Holds directory names node) : ∀ name ∈ names, IsName name := by
  obtain ⟨entries, hlist, hfind⟩ := hholds
  obtain ⟨place, -, hplace, -⟩ := FileSystem.place_of_list hlist
  exact fun name hname => (h.names_of_find? hplace hfind name hname).1

/-- Different names lead to paths with different components. -/
theorem below_inj {names others : List String} (hnames : ∀ name ∈ names, IsName name)
    (hothers : ∀ name ∈ others, IsName name)
    (h : (directory.below names).components = (directory.below others).components) :
    names = others := by
  rw [Path.components_below hnames, Path.components_below hothers] at h
  exact Path.map_name_inj.mp (List.append_cancel_left h)

theorem isTaken_concat {above : List String} {name : String} {kind : Bool} :
    isTaken directory (above ++ [name], kind) = true
      ↔ Fits (directory.below above) ∧ (kind = true → ¬ Fits (directory.below (above ++ [name])))
        ∧ isSymbolFile (directory.below (above ++ [name])) = true := by
  rw [isTaken]
  simp only [List.dropLast_concat, Bool.and_eq_true, decide_eq_true_eq, Bool.not_eq_true',
    Bool.and_eq_false_imp, decide_eq_false_iff_not, and_assoc]

theorem mem_taken_iff (h : fs.ProperlyNamed) (hlist : fs.list directory = .ok entries) :
    p ∈ taken fs directory ↔ IsTakenBelow fs directory p := by
  obtain ⟨place, -, hplace, -⟩ := FileSystem.place_of_list hlist
  have hpaths : ∀ inside, inside ∈ (Node.directory entries).paths ↔ inside.1 ≠ []
      ∧ ∃ found, (Node.directory entries).find? inside.1 = some found
        ∧ found.isDirectory = inside.2 :=
    fun _ => Node.mem_paths_iff (h.eachNodup hplace)
  rw [taken_of_list hlist, ← Node.paths_directory, List.mem_map]
  constructor
  · rintro ⟨⟨names, kind⟩, hinside, rfl⟩
    obtain ⟨hmem, htaken⟩ := List.mem_filter.mp hinside
    obtain ⟨hne, node, hfind, rfl⟩ := (hpaths _).mp hmem
    obtain ⟨above, name, rfl⟩ : ∃ above name, names = above ++ [name] :=
      ⟨_, _, (List.dropLast_concat_getLast hne).symm⟩
    have hnames := isName_of_holds h ⟨entries, hlist, hfind⟩
    obtain ⟨hfits, hlong, hsymbol⟩ := isTaken_concat.mp htaken
    exact ⟨above, name, node, ⟨entries, hlist, hfind⟩, (isSymbolFile_below hnames _).mp hsymbol,
      rfl, hfits, hlong⟩
  · rintro ⟨above, name, node, hholds, hname, rfl, hfits, hlong⟩
    have hsymbol := (isSymbolFile_below (isName_of_holds h hholds) directory).mpr hname
    obtain ⟨others, hothers, hfind⟩ := hholds
    obtain rfl : others = entries := Except.ok.inj (hothers.symm.trans hlist)
    exact ⟨(above ++ [name], node.isDirectory), List.mem_filter.mpr
      ⟨(hpaths _).mpr ⟨by simp, node, hfind, rfl⟩, isTaken_concat.mpr ⟨hfits, hlong, hsymbol⟩⟩, rfl⟩

/-- Paths that are taken have different components. -/
theorem eq_of_components (h : fs.ProperlyNamed) {q : Path} (hp : IsTakenBelow fs directory p)
    (hq : IsTakenBelow fs directory q) (hcomponents : p.components = q.components) : p = q := by
  obtain ⟨above, name, node, hholds, -, rfl, -⟩ := hp
  obtain ⟨others, other, found, hfound, -, rfl, -⟩ := hq
  rw [below_inj (isName_of_holds h hholds) (isName_of_holds h hfound) hcomponents]

/-- No path is taken twice. -/
theorem nodup_taken (h : fs.ProperlyNamed) (hlist : fs.list directory = .ok entries) :
    (taken fs directory).Nodup := by
  obtain ⟨place, -, hplace, -⟩ := FileSystem.place_of_list hlist
  have hnodup := Node.nodup_paths _ (h.eachNodup hplace)
  have hsub := (List.filter_sublist (p := isTaken directory)
    (l := (Node.directory entries).paths)).map Prod.fst
  have hnames : ∀ names ∈ ((Node.directory entries).paths.filter (isTaken directory)).map Prod.fst,
      ∀ name ∈ names, IsName name := by
    intro names hmem
    obtain ⟨inside, hinside, rfl⟩ := List.mem_map.mp hmem
    obtain ⟨-, node, hfind, -⟩ :=
      (Node.mem_paths_iff (h.eachNodup hplace)).mp (List.mem_filter.mp hinside).1
    exact isName_of_holds h ⟨entries, hlist, hfind⟩
  have hmapped := (hnodup.sublist hsub).map_on fun names hmem others hothers
      (heq : directory.below names = directory.below others) =>
    below_inj (hnames names hmem) (hnames others hothers) (congrArg Path.components heq)
  rwa [List.map_map, Node.paths_directory, Function.comp_def, ← taken_of_list hlist] at hmapped

/-! ## Sorting -/

/-- Paths in their order. -/
def sorted (found : List Path) : List Path :=
  found.mergeSort fun p q => (compare p q).isLE

theorem mem_sorted {found : List Path} : p ∈ sorted found ↔ p ∈ found :=
  (List.mergeSort_perm found _).mem_iff

theorem compare_swap (p q : Path) : compare p q = (compare q p).swap :=
  Std.OrientedCmp.eq_swap

/-- Paths with different components, sorted, increase strictly. -/
theorem pairwise_sorted {found : List Path} (hnodup : found.Nodup)
    (hinj : ∀ p ∈ found, ∀ q ∈ found, p.components = q.components → p = q) :
    (sorted found).Pairwise fun p q => compare p q = .lt := by
  have hle : (sorted found).Pairwise fun p q => (compare p q).isLE = true := by
    refine List.pairwise_mergeSort (fun _ _ _ => Std.TransCmp.isLE_trans) (fun p q => ?_) found
    rw [compare_swap q p]
    cases compare p q <;> rfl
  have hne : (sorted found).Nodup := (List.mergeSort_perm found _).nodup_iff.mpr hnodup
  refine (hle.and hne).imp_of_mem fun {p q} hp hq hpq => ?_
  cases hcompare : compare p q with
  | lt => rfl
  | eq =>
    exact absurd (hinj p (mem_sorted.mp hp) q (mem_sorted.mp hq) (Path.compare_eq_iff.mp hcompare))
      hpq.2
  | gt =>
    rw [hcompare] at hpq
    cases hpq.1

theorem not_lt_swap {p q : Path} (h : compare p q = .lt) : compare q p ≠ .lt := by
  rw [compare_swap, h]
  decide

theorem nodup_of_pairwise {found : List Path}
    (h : found.Pairwise fun p q => compare p q = .lt) : found.Nodup := by
  refine h.imp fun {p q} hpq heq => ?_
  rw [heq] at hpq
  exact not_lt_swap hpq hpq

/-- Two rows of paths that increase strictly and have the same members are equal. -/
theorem eq_of_mem_iff {found others : List Path} (h : found.Pairwise fun p q => compare p q = .lt)
    (h' : others.Pairwise fun p q => compare p q = .lt) (hmem : ∀ p, p ∈ found ↔ p ∈ others) :
    found = others :=
  List.Perm.eq_of_pairwise (fun _ _ _ _ hpq hqp => absurd hqp (not_lt_swap hpq)) h h'
    ((List.perm_ext_iff_of_nodup (nodup_of_pairwise h) (nodup_of_pairwise h')).mpr hmem)

theorem pairwise_sorted_taken (h : fs.ProperlyNamed) (hlist : fs.list directory = .ok entries) :
    (sorted (taken fs directory)).Pairwise fun p q => compare p q = .lt :=
  pairwise_sorted (nodup_taken h hlist) fun _ hp _ hq hcomponents =>
    eq_of_components h ((mem_taken_iff h hlist).mp hp) ((mem_taken_iff h hlist).mp hq) hcomponents

/-! ## The result of a search -/

/-- A run that has come to its end has found what is taken. -/
theorem sorted_of_run (h : fs.ProperlyNamed) (hlist : fs.list directory = .ok entries) {steps : Nat}
    {s : Search} (hrun : Search.Run fs (.initial directory) steps s) (hpending : s.pending = []) :
    sorted s.found = sorted (taken fs directory) := by
  have hperm := (Search.sound_run h (Search.sound_initial hlist) hrun).complete
  rw [hpending, List.flatMap_nil, List.append_nil] at hperm
  have hinj : ∀ p ∈ s.found, ∀ q ∈ s.found, p.components = q.components → p = q :=
    fun p hp q hq => eq_of_components h ((mem_taken_iff h hlist).mp (hperm.mem_iff.mp hp))
      ((mem_taken_iff h hlist).mp (hperm.mem_iff.mp hq))
  refine eq_of_mem_iff (pairwise_sorted (hperm.nodup_iff.mpr (nodup_taken h hlist)) hinj)
    (pairwise_sorted_taken h hlist) fun p => ?_
  rw [mem_sorted, mem_sorted, hperm.mem_iff]

/-- A search of a directory that can be listed comes to its end. -/
theorem find_eq (h : fs.ProperlyNamed) (hlist : fs.list directory = .ok entries) :
    find fs directory = .ok (sorted (taken fs directory)) := by
  obtain ⟨hweight, hle⟩ := Search.weight_initial hlist
  obtain ⟨steps, s, hrunFor, hrun, hend⟩ :=
    Search.exists_run h (fs.root.paths.length + 1) (Search.sound_initial hlist)
  have hpending : s.pending = [] := by
    rcases hend with hsteps | hpending
    · have hbounded := (Search.sound_run h (Search.sound_initial hlist) hrun).bounded
      have hnone : s.weight fs = 0 := by omega
      exact Search.pending_eq_nil_of_weight hnone
    · exact hpending
  rw [← sorted_of_run h hlist hrun hpending, find, hrunFor]
  rfl

/-- A search of a directory that cannot be listed fails with it. -/
theorem find_eq_error {error : IoError} (h : fs.list directory = .error error) :
    find fs directory = .error (directory, error) := by
  rw [find, Search.runFor, Search.advance?]
  simp only [Search.initial, h]

/-- A search succeeds only in a directory that can be listed. -/
theorem exists_list_of_find {found : List Path} (h : find fs directory = .ok found) :
    ∃ entries, fs.list directory = .ok entries := by
  cases hlist : fs.list directory with
  | ok entries => exact ⟨entries, rfl⟩
  | error error =>
    rw [find_eq_error hlist] at h
    cases h

/-! ## A search after indexing -/

/-- The name of an index ends in a letter in which no name of symbol files ends. -/
theorem getLast?_of_indexPath {pdb : Path} {name : String}
    (h : (indexPath pdb).fileName? = some name) : name.toList.getLast? = some 'v' := by
  have htext : (indexPath pdb).text.toList.getLast? = some 'v' := by
    rw [indexPath, String.toList_append, List.getLast?_append]
    rfl
  have hends : (indexPath pdb).EndsInName := by
    refine ⟨fun hslash => ?_, fun hpoint => ?_⟩
    · obtain ⟨front, hfront⟩ := hslash
      rw [← hfront, List.getLast?_append] at htext
      cases htext
    · obtain ⟨front, hfront⟩ := hpoint
      rw [← hfront, List.getLast?_append] at htext
      cases htext
  obtain ⟨front, hfront⟩ := hends.suffix h
  rw [← hfront, List.getLast?_append] at htext
  cases hlast : name.toList.getLast? with
  | some c => rwa [hlast] at htext
  | none =>
    -- a file name is a step, so it is not empty
    have hmem := List.mem_of_getLast? (Path.fileName?_eq_some_iff.mp h)
    obtain ⟨hstep, -⟩ := Path.name_mem_components_iff.mp hmem
    obtain ⟨piece, -, hpiece, rfl⟩ := FileSystem.mem_steps_iff.mp hstep
    rw [String.toList_ofList, List.getLast?_eq_none_iff] at hlast
    exact absurd hlast hpiece

/-- What is taken, in terms of the items at single places. -/
theorem isTakenBelow_iff {here : List String}
    (hlist : fs.list directory = .ok entries)
    (hhere : fs.root.find? here = some (.directory entries)) :
    IsTakenBelow fs directory p ↔ ∃ above name item,
      fs.itemAt? (here ++ (above ++ [name])) = some item ∧ IsSymbolName name
        ∧ p = directory.below (above ++ [name]) ∧ Fits (directory.below above)
        ∧ (item = .directory → ¬ Fits p) := by
  have hfound : ∀ names, fs.root.find? (here ++ names) = (Node.directory entries).find? names :=
    Node.find?_below hhere
  constructor
  · rintro ⟨above, name, node, ⟨others, hothers, hfind⟩, hname, hp, hfits, hlong⟩
    obtain rfl : others = entries := Except.ok.inj (hothers.symm.trans hlist)
    refine ⟨above, name, node.item, ?_, hname, hp, hfits, fun hitem => hlong ?_⟩
    · rw [FileSystem.itemAt?, Node.itemAt?, hfound, hfind, Option.map_some]
    · obtain ⟨inside, rfl⟩ := Node.item_eq_directory.mp hitem
      rfl
  · rintro ⟨above, name, item, hitem, hname, hp, hfits, hlong⟩
    rw [FileSystem.itemAt?, Node.itemAt?, hfound, Option.map_eq_some_iff] at hitem
    obtain ⟨node, hfind, rfl⟩ := hitem
    refine ⟨above, name, node, ⟨entries, hlist, hfind⟩, hname, hp, hfits, fun hkind => hlong ?_⟩
    cases node with
    | file content => cases hkind
    | directory inside => rfl

/-- After an index was written the directory can be listed as before, and the same is taken. -/
theorem isTakenBelow_of_write {pdb : Path} {content : ByteArray}
    (hlist : fs.list directory = .ok entries)
    (hwrite : fs.write (indexPath pdb) content = .ok after) :
    ∃ later, after.list directory = .ok later
      ∧ ∀ p, IsTakenBelow after directory p ↔ IsTakenBelow fs directory p := by
  obtain ⟨target, htarget, -⟩ := FileSystem.write_eq_ok.mp hwrite
  have hwrote := FileSystem.wrote_of_write htarget hwrite
  obtain ⟨here, hwalk, hhere, husable⟩ := FileSystem.place_of_list hlist
  obtain ⟨later, hlater⟩ := Node.itemAt?_eq_directory.mp
    (hwrote.itemAt?_directory (Node.itemAt?_eq_directory.mpr ⟨entries, hhere⟩))
  have horigin := FileSystem.origin_eq_of_current_eq hwrote.current_eq directory
  have hlist' : after.list directory = .ok later :=
    FileSystem.list_eq_ok_iff.mpr (FileSystem.node_of_walk husable
      (horigin ▸ hwrote.walk_of_ok hwalk) hlater (.inr rfl))
  refine ⟨later, hlist', fun p => ?_⟩
  rw [isTakenBelow_iff hlist' hlater, isTakenBelow_iff hlist hhere]
  -- nothing with a name of symbol files stands where an index was written
  refine exists_congr fun above => exists_congr fun name => exists_congr fun item => ?_
  refine and_congr_left fun hrest => ?_
  rw [hwrote.itemAt?_other]
  rintro rfl
  have hlast : (here ++ (above ++ [name])).getLast? = (indexPath pdb).fileName? :=
    getLast?_indexPlace htarget
  rw [← List.append_assoc, List.getLast?_concat] at hlast
  exact not_isSymbolName_of_getLast? (getLast?_of_indexPath hlast.symm) hrest.1

/-- While indexes are being written, in whatever order, a search finds the same. -/
theorem find_of_batch (h : fs.ProperlyNamed) (hlist : fs.list directory = .ok entries)
    {remote : Remote} {revision : String} {options : LinkOptions} {limit : Nat} {jobs : List Job}
    {moves : List Batch.Move} {s : Batch.State}
    (hrun : Batch.Run limit (Batch.Careful remote revision options) (.initial fs jobs) moves s) :
    s.fileSystem.ProperlyNamed ∧ (∃ later, s.fileSystem.list directory = .ok later)
      ∧ find s.fileSystem directory = find fs directory := by
  induction hrun with
  | nil => exact ⟨h, ⟨entries, hlist⟩, rfl⟩
  | @snoc _ _ t _ _ hstep ih =>
    obtain ⟨hnamed, ⟨before, hbefore⟩, hfind⟩ := ih
    cases hstep with
    | start hpending hstart =>
      obtain ⟨job, rest, -, -, rfl⟩ := Batch.start?_eq_some hstart
      exact ⟨hnamed, ⟨before, hbefore⟩, hfind⟩
    | @complete _ worker position job hcareful hjob hcomplete =>
      obtain ⟨hfileSystem, -⟩ := Batch.completeAt?_eq_some hjob hcomplete
      rw [hfileSystem]
      rcases hcareful.cases t.fileSystem job with
        ⟨failure, hvalue⟩ | ⟨after, outcome, files, now, text, hvalue, -, hwrite⟩
      · rw [hvalue]
        exact ⟨hnamed, ⟨before, hbefore⟩, hfind⟩
      · rw [hvalue]
        obtain ⟨later, hlater, htaken⟩ := isTakenBelow_of_write hbefore hwrite
        have hnamed' := hnamed.write hwrite
        refine ⟨hnamed', ⟨later, hlater⟩, ?_⟩
        rw [← hfind, find_eq hnamed' hlater, find_eq hnamed hbefore]
        refine congrArg Except.ok (eq_of_mem_iff (pairwise_sorted_taken hnamed' hlater)
          (pairwise_sorted_taken hnamed hbefore) fun p => ?_)
        rw [mem_sorted, mem_sorted, mem_taken_iff hnamed' hlater, mem_taken_iff hnamed hbefore,
          htaken]

/-! ## Directories out of reach -/

/-- On the way to a directory whose path is too long stands one that is out of reach. -/
theorem exists_outOfReach (hlist : fs.list directory = .ok entries) {names : List String}
    {inside : List (String × Node)} (hholds : fs.Holds directory names (.directory inside))
    (hlong : ¬ Fits (directory.below names)) :
    ∃ above name deeper within, names = above ++ [name] ++ deeper
      ∧ OutOfReach fs directory above name within
      ∧ (Node.directory within).find? deeper = some (.directory inside) := by
  induction names using List.reverseRecOn generalizing inside with
  | nil => exact absurd (FileSystem.fits_of_list hlist) hlong
  | append_singleton above name ih =>
    obtain ⟨others, hothers, hfind⟩ := hholds
    by_cases hfits : Fits (directory.below above)
    · exact ⟨above, name, [], inside, (List.append_nil _).symm,
        ⟨⟨others, hothers, hfind⟩, hfits, hlong⟩, Node.find?_nil _⟩
    · obtain ⟨middle, hmiddle, hlast⟩ := Node.exists_directory_of_find? hfind
      obtain ⟨front, first, deeper, within, rfl, hreach, hdeeper⟩ :=
        ih ⟨others, hothers, hmiddle⟩ hfits
      refine ⟨front, first, deeper ++ [name], within, by rw [List.append_assoc _ deeper], hreach, ?_⟩
      rw [Node.find?_below hdeeper]
      exact hlast

/-- Some paths are the symbol files below a directory. -/
def AreSymbolFilesBelow (fs : FileSystem) (directory : Path) (found : List Path) : Prop :=
  ∀ p, p ∈ found ↔ IsSymbolFileBelow fs directory p

/-- What is out of reach is of no interest: no such directory has a name of symbol files or a symbol
file below it. -/
def NothingMissed (fs : FileSystem) (directory : Path) : Prop :=
  ∀ above name inside, OutOfReach fs directory above name inside →
    ¬ IsSymbolName name ∧ ∀ deeper last content,
      (Node.directory inside).find? (deeper ++ [last]) = some (.file content) → ¬ IsSymbolName last

/-- Where the symbol files below a directory are found, nothing is missed: a directory out of reach
would be taken for a file, and a file behind it would not be found. -/
theorem nothingMissed_of_areSymbolFilesBelow (h : fs.ProperlyNamed) {found : List Path}
    (htaken : ∀ p, p ∈ found ↔ IsTakenBelow fs directory p)
    (hexact : AreSymbolFilesBelow fs directory found) : NothingMissed fs directory := by
  intro above name inside ⟨hholds, hfits, hlong⟩
  refine ⟨fun hname => ?_, fun deeper last content hfind hname => ?_⟩
  · have hmem := (htaken _).mpr
      ⟨above, name, .directory inside, hholds, hname, rfl, hfits, fun _ => hlong⟩
    obtain ⟨others, other, content, hfile, -, hsame⟩ := (hexact _).mp hmem
    rw [← below_inj (isName_of_holds h hholds) (isName_of_holds h hfile)
      (congrArg Path.components hsame)] at hfile
    obtain ⟨first, hfirst, hdirectory⟩ := hholds
    obtain ⟨second, hsecond, hcontent⟩ := hfile
    obtain rfl : second = first := Except.ok.inj (hsecond.symm.trans hfirst)
    rw [hdirectory] at hcontent
    cases hcontent
  · obtain ⟨others, hothers, hdirectory⟩ := hholds
    have hfile : fs.Holds directory ((above ++ [name] ++ deeper) ++ [last]) (.file content) := by
      refine ⟨others, hothers, ?_⟩
      rw [List.append_assoc _ deeper, Node.find?_below hdirectory]
      exact hfind
    have hnames := isName_of_holds h hfile
    have hmem := (hexact _).mpr ⟨_, last, content, hfile, hname, rfl⟩
    obtain ⟨front, other, node, hseen, -, hsame, hreached, -⟩ := (htaken _).mp hmem
    have heq := below_inj hnames (isName_of_holds h hseen) (congrArg Path.components hsame)
    obtain ⟨rfl, -⟩ := List.append_inj' heq rfl
    have hdeeper : ∀ step ∈ deeper, IsName step := fun step hstep => hnames step (by simp [hstep])
    rw [Path.below_append] at hreached
    exact hlong (Nat.le_trans (FileSystem.size_le_below hdeeper _) hreached)

/-- Where nothing is missed, the symbol files below a directory are found. -/
theorem areSymbolFilesBelow_of_nothingMissed (hlist : fs.list directory = .ok entries)
    {found : List Path} (htaken : ∀ p, p ∈ found ↔ IsTakenBelow fs directory p)
    (hmissed : NothingMissed fs directory) : AreSymbolFilesBelow fs directory found := by
  intro p
  rw [htaken]
  constructor
  · rintro ⟨above, name, node, hholds, hname, rfl, hfits, hlong⟩
    cases node with
    | file content => exact ⟨above, name, content, hholds, hname, rfl⟩
    | directory inside =>
      exact absurd hname (hmissed above name inside ⟨hholds, hfits, hlong rfl⟩).1
  · rintro ⟨above, name, content, hholds, hname, rfl⟩
    obtain ⟨others, hothers, hfind⟩ := hholds
    refine ⟨above, name, .file content, ⟨others, hothers, hfind⟩, hname, rfl, ?_, nofun⟩
    by_contra hlong
    -- otherwise some directory on the way is out of reach
    obtain ⟨middle, hmiddle, hlast⟩ := Node.exists_directory_of_find? hfind
    obtain ⟨front, first, deeper, within, -, hreach, hdeeper⟩ :=
      exists_outOfReach hlist ⟨others, hothers, hmiddle⟩ hlong
    refine (hmissed front first within hreach).2 deeper name content ?_ hname
    rw [Node.find?_below hdeeper]
    exact hlast

/-- **What a search finds** below a directory that can be listed. It comes to its end in whatever
order directories list their entries, after no more listings than there are entries, and always with
the same paths in strictly increasing order. They are what a search takes for symbol files, and this
stays so while indexes are being written. They are the symbol files below the directory exactly
when nothing is missed in directories whose paths are too long. -/
theorem find_spec (h : fs.ProperlyNamed) (hlist : fs.list directory = .ok entries) :
    ∃ found, find fs directory = .ok found
      ∧ (found.Pairwise fun p q => compare p q = .lt)
      ∧ (∀ p, p ∈ found ↔ IsTakenBelow fs directory p)
      ∧ (AreSymbolFilesBelow fs directory found ↔ NothingMissed fs directory)
      ∧ (∀ steps s, Search.Run fs (.initial directory) steps s →
        steps ≤ (Node.directory entries).paths.length + 1
          ∧ (s.pending ≠ [] → ∃ t, Search.Step fs s t)
          ∧ (s.pending = [] → sorted s.found = found))
      ∧ ∀ remote revision options limit jobs moves s,
        Batch.Run limit (Batch.Careful remote revision options) (.initial fs jobs) moves s →
        find s.fileSystem directory = .ok found := by
  have htaken : ∀ p, p ∈ sorted (taken fs directory) ↔ IsTakenBelow fs directory p := fun p => by
    rw [mem_sorted, mem_taken_iff h hlist]
  refine ⟨sorted (taken fs directory), find_eq h hlist, pairwise_sorted_taken h hlist, htaken,
    ⟨nothingMissed_of_areSymbolFilesBelow h htaken,
      areSymbolFilesBelow_of_nothingMissed hlist htaken⟩, fun steps s hrun => ?_, ?_⟩
  · have hsound := Search.sound_run h (Search.sound_initial hlist) hrun
    have hbounded := hsound.bounded
    rw [(Search.weight_initial hlist).1] at hbounded
    refine ⟨?_, fun hpending => ?_, sorted_of_run h hlist hrun⟩
    · rw [Node.paths_directory]
      omega
    · obtain ⟨t, -, hstep⟩ := Search.exists_step hsound hpending
      exact ⟨t, hstep⟩
  · intro remote revision options limit jobs moves s hrun
    rw [(find_of_batch h hlist hrun).2.2, find_eq h hlist]

/-- A tree with symbol files in two directories, one of which has their extension itself. -/
theorem find_spec_of_two :
    ∃ (fs : FileSystem) (entries : List (String × Node)), fs.ProperlyNamed
      ∧ fs.list ⟨"."⟩ = .ok entries
      ∧ ∃ found, find fs ⟨"."⟩ = .ok found ∧ ⟨"./x.pdb/b.PDB"⟩ ∈ found := by
  let entries : List (String × Node) :=
    [("x.pdb", .directory [("b.PDB", .file .empty), (".pdb", .file .empty)]),
      ("a.pdb", .file .empty), ("a.pdb.srcsrv", .file .empty)]
  let fs : FileSystem := ⟨.directory entries, []⟩
  have hnamed : fs.ProperlyNamed :=
    FileSystem.properlyNamed_of_directories (by decide +kernel) (by decide +kernel)
  have hlist : fs.list ⟨"."⟩ = .ok entries := rfl
  obtain ⟨found, hfind, -, hmem, -⟩ := find_spec hnamed hlist
  refine ⟨fs, entries, hnamed, hlist, found, hfind, (hmem _).mpr
    ⟨["x.pdb"], "b.PDB", .file .empty, ⟨entries, hlist, rfl⟩, ⟨"b", "PDB", ?_, rfl, ?_⟩, ?_, ?_,
      nofun⟩⟩
  · decide
  · decide
  · decide +kernel
  · decide +kernel

/-! ## A directory out of reach -/

/-- The current directory with slashes behind it. -/
def slashedPoint (slashes : Nat) : Path :=
  ⟨String.ofList ('.' :: List.replicate slashes '/')⟩

theorem steps_slashedPoint (slashes : Nat) : FileSystem.steps (slashedPoint slashes) = ["."] := by
  have hslashes : ∀ n, (List.replicate n '/').splitOn '/' = List.replicate (n + 1) [] := by
    intro n
    induction n with
    | zero => rfl
    | succ n ih =>
      rw [List.replicate_succ, List.splitOn_cons_eq_if_modifyHead, ih]
      rfl
  have hpieces : (slashedPoint slashes).text.toList.splitOn '/'
      = ['.'] :: List.replicate slashes [] := by
    rw [slashedPoint, String.toList_ofList, List.splitOn_cons_eq_if_modifyHead, hslashes]
    rfl
  have hidle : (List.replicate slashes ([] : List Char)).filter (· ≠ []) = [] :=
    List.filter_eq_nil_iff.mpr fun piece hpiece => by simp [List.eq_of_mem_replicate hpiece]
  rw [FileSystem.steps, hpieces, List.filter_cons_of_pos (by decide), hidle]
  rfl

theorem size_slashedPoint (slashes : Nat) :
    (slashedPoint slashes).text.utf8ByteSize = slashes + 1 := by
  have hslash : '/'.utf8Size = 1 := by decide
  rw [slashedPoint, String.ofList_cons, String.utf8ByteSize_append, Path.size_replicate hslash,
    String.utf8ByteSize_singleton, Nat.add_comm]
  rfl

/-- A point with slashes behind it names the current directory as long as it is short enough. -/
theorem list_slashedPoint {slashes : Nat} (hfits : slashes < FileSystem.longestPath)
    (hcurrent : fs.root.find? fs.current = some (.directory entries)) :
    fs.list (slashedPoint slashes) = .ok entries := by
  have husable : FileSystem.pathError? (slashedPoint slashes) = none := by
    refine FileSystem.pathError?_eq_none_iff.mpr ⟨fun hnul => ?_, fun hempty => ?_, ?_⟩
    · rw [slashedPoint, String.toList_ofList, List.mem_cons, List.mem_replicate] at hnul
      rcases hnul with hnul | ⟨-, hnul⟩
      · cases hnul
      · cases hnul
    · have hsize := size_slashedPoint slashes
      rw [hempty, String.utf8ByteSize_empty] at hsize
      omega
    · rw [size_slashedPoint]
      exact hfits
  have hwalk : fs.walk (fs.origin (slashedPoint slashes)) (FileSystem.steps (slashedPoint slashes))
      = .ok fs.current := by
    have hrelative : (slashedPoint slashes).isAbsolute = false := by
      rw [Path.isAbsolute, slashedPoint, String.toList_ofList]
      rfl
    rw [FileSystem.origin, hrelative, steps_slashedPoint, FileSystem.walk]
    simp [hcurrent]
  exact FileSystem.list_eq_ok_iff.mpr (FileSystem.node_of_walk husable hwalk hcurrent (.inr rfl))

/-- Behind so many slashes that a directory in the current directory is out of reach, a symbol file
in it is not found, though the current directory is listed. -/
theorem not_areSymbolFilesBelow :
    ¬ ∀ (fs : FileSystem) (directory : Path) (entries : List (String × Node)), fs.ProperlyNamed →
      fs.list directory = .ok entries →
      ∃ found, find fs directory = .ok found ∧ AreSymbolFilesBelow fs directory found := by
  intro hall
  let fs : FileSystem :=
    ⟨.directory [("bin.d", .directory [("a.pdb", .file .empty)])], []⟩
  have hnamed : fs.ProperlyNamed :=
    FileSystem.properlyNamed_of_directories (by decide +kernel) (by decide +kernel)
  have hlist : fs.list (slashedPoint 4093) = .ok _ :=
    list_slashedPoint (by decide) (Node.find?_nil _)
  obtain ⟨found, hfind, hexact⟩ := hall fs _ _ hnamed hlist
  rw [find_eq hnamed hlist, Except.ok.injEq] at hfind
  -- the symbol file would have been taken, so the directory would have been looked into
  have hmem := (hexact ((slashedPoint 4093).below ["bin.d", "a.pdb"])).mpr
    ⟨["bin.d"], "a.pdb", .empty, ⟨_, hlist, rfl⟩, ⟨"a", "pdb", by decide, rfl, by decide⟩, rfl⟩
  rw [← hfind, mem_sorted, mem_taken_iff hnamed hlist] at hmem
  obtain ⟨above, name, node, hholds, -, hsame, hfits, -⟩ := hmem
  have heq : ["bin.d"] ++ ["a.pdb"] = above ++ [name] :=
    below_inj (by decide : ∀ step ∈ ["bin.d", "a.pdb"], IsName step)
      (isName_of_holds hnamed hholds) (congrArg Path.components hsame)
  obtain ⟨rfl, -⟩ := List.append_inj' heq rfl
  have hnames : ∀ step ∈ ["bin.d"], IsName step := by decide
  have hlead := Path.lead_below hnames (slashedPoint 4093)
  have hsize := size_slashedPoint 4093
  have hslashed : Path.slashed ["bin.d"] = 6 := by decide
  rw [Path.lead, if_neg (Path.not_isOpen_below hnames (by decide) _), Path.lead] at hlead
  have hlongest : FileSystem.longestPath = 4095 := rfl
  rw [Fits] at hfits
  omega

end SymbolFiles

end SourceServer
