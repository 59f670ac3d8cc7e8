import SourceServer.Proofs.FileSystem.Below
import SourceServer.Proofs.Path.Tidy

/-!
# The kinds of entries

Whether an entry is a directory is asked of its path, and a path that is too long is answered as if
nothing stood there. So a directory is seen as one exactly when its path can be looked up. The
directory above it may be listed all the same, with the entry in it.

- `FileSystem.list_eq_ok_iff_walk`: the directories that can be listed.
- `FileSystem.isDirectory_join_iff`, `FileSystem.isDirectory_of_listed`: an entry that is seen to be
  a directory.
- `FileSystem.HasEntry`, `FileSystem.HasEntry.unique`: entries by the components of their paths.
- `FileSystem.IsTooDeep`: a directory that is listed above and cannot be looked up.
- `FileSystem.deepest`, `FileSystem.narrow`: a directory that can be listed while none in it can be
  looked up.
-/

namespace SourceServer

namespace FileSystem

open Capitalization (listed start)

variable {fs : FileSystem} {directory p q : Path} {entries : List (String × Node)} {name : String}
  {node : Node} {components : List Component}

/-! ## The path of an entry -/

/-- The directories that can be listed. -/
theorem list_eq_ok_iff_walk :
    fs.list p = .ok entries ↔ pathError? p = none
      ∧ ∃ place, fs.walk (fs.origin p) (steps p) = .ok place
        ∧ fs.root.find? place = some (.directory entries) := by
  constructor
  · intro hlist
    obtain ⟨place, hwalk, hplace, husable⟩ := place_of_list hlist
    exact ⟨husable, place, hwalk, hplace⟩
  · rintro ⟨husable, place, hwalk, hplace⟩
    exact list_eq_ok_iff.mpr (node_of_walk husable hwalk hplace (.inr rfl))

/-- A point in front of a walk that makes another step changes nothing. -/
theorem walk_point_cons (fs : FileSystem) (here : List String) (step : String)
    (rest : List String) : fs.walk here ("." :: step :: rest) = fs.walk here (step :: rest) := by
  rw [walk_cons fs here "."]
  cases hitem : fs.itemAt? here with
  | none => rw [walk_cons, hitem]
  | some item =>
    cases item with
    | file content => rw [walk_cons, hitem]
    | directory => exact if_pos rfl

/-- A path from which a name is taken can be looked up when it fits. -/
theorem pathError?_join (hname : IsName name) (hfree : '\x00' ∉ directory.text.toList) :
    pathError? (directory.join ⟨name⟩) = none
      ↔ '\x00' ∉ name.toList ∧ Fits (directory.join ⟨name⟩) := by
  rw [pathError?_eq_none_iff]
  constructor
  · rintro ⟨hnul, -, hfits⟩
    have hstep : name ∈ steps (directory.join ⟨name⟩) := by
      rw [Path.steps_join_name hname]
      exact List.mem_append_right _ List.mem_cons_self
    exact ⟨fun hmem => hnul (Path.mem_of_mem_step hstep hmem), hfits⟩
  · rintro ⟨hnul, hfits⟩
    have hnames : ∀ other ∈ [name], IsName other := List.forall_mem_singleton.mpr hname
    refine ⟨fun hmem => ?_, fun hempty => Path.not_isOpen_join hname directory (.inl hempty), hfits⟩
    rcases Path.mem_below hnames hmem with hfront | hslash | ⟨other, hother, hmem⟩
    · exact hfree hfront
    · cases hslash
    · rw [List.mem_singleton.mp hother] at hmem
      exact hnul hmem

/-- A name is taken from a text of one byte at most. -/
theorem fits_join_of_short (hname : IsName name) (hshort : name.utf8ByteSize ≤ longestName)
    (hdirectory : directory.text.utf8ByteSize ≤ 1) : Fits (directory.join ⟨name⟩) := by
  have hlongest : longestName = 255 ∧ longestPath = 4095 := ⟨rfl, rfl⟩
  have hslash : "/".utf8ByteSize = 1 := by decide
  rw [Fits, Path.text_join hname]
  split
  · rw [String.utf8ByteSize_append]
    omega
  · rw [String.utf8ByteSize_append, String.utf8ByteSize_append]
    omega

/-- The first name of a relative path is looked up behind a point. It makes no difference: where the
two more bytes would count, the name alone is too long. -/
theorem isDirectory_listed_join (hname : IsName name) (directory : Path) :
    fs.isDirectory ((listed directory).join ⟨name⟩) = fs.isDirectory (directory.join ⟨name⟩) := by
  by_cases hempty : directory.text = ""
  · obtain rfl : directory = ⟨""⟩ := by
      cases directory
      exact congrArg Path.mk hempty
    rw [listed_empty]
    have hwalk : ∀ d : Path, d = ⟨"."⟩ ∨ d = ⟨""⟩ →
        fs.walk (fs.origin (d.join ⟨name⟩)) (steps (d.join ⟨name⟩)) = fs.walk fs.current [name] := by
      rintro d (rfl | rfl)
      · rw [origin_join hname, Path.steps_join_name hname]
        exact walk_point_cons fs fs.current name []
      · rw [origin_join hname, Path.steps_join_name hname]
        rfl
    have husable : name.utf8ByteSize ≤ longestName → ∀ d : Path, d = ⟨"."⟩ ∨ d = ⟨""⟩ →
        (pathError? (d.join ⟨name⟩) = none ↔ '\x00' ∉ name.toList) := by
      rintro hshort d (rfl | rfl)
      · rw [pathError?_join hname (by decide)]
        exact and_iff_left (fits_join_of_short hname hshort (by decide))
      · rw [pathError?_join hname (by decide)]
        exact and_iff_left (fits_join_of_short hname hshort (by decide))
    rw [Bool.eq_iff_iff, isDirectory_eq_true_iff, isDirectory_eq_true_iff]
    refine exists_congr fun inside => ?_
    rw [list_eq_ok_iff_walk, list_eq_ok_iff_walk, hwalk _ (.inl rfl), hwalk _ (.inr rfl)]
    refine and_congr_left fun hplace => ?_
    obtain ⟨place, hlast, -⟩ := hplace
    obtain ⟨-, -, -, -, hshort, -⟩ := walk_name_cons hname hlast
    rw [husable hshort _ (.inl rfl), husable hshort _ (.inr rfl)]
  · rw [listed_of_ne hempty]

/-- An entry is seen to be a directory when it is one that can be looked up under its path. -/
theorem isDirectory_join_iff (hname : IsName name) (hlist : fs.list (listed directory) = .ok entries) :
    fs.isDirectory (directory.join ⟨name⟩) = true
      ↔ (∃ inside, entries.lookup name = some (.directory inside))
        ∧ name.utf8ByteSize ≤ longestName ∧ '\x00' ∉ name.toList
        ∧ Fits (directory.join ⟨name⟩) := by
  obtain ⟨place, hwalk, hplace⟩ := walk_of_list hlist
  have hthere : fs.walk (fs.origin (directory.join ⟨name⟩)) (steps (directory.join ⟨name⟩))
      = fs.walk place [name] := by
    rw [origin_join hname, Path.steps_join_name hname, walk_append, hwalk]
    rfl
  simp only [isDirectory_eq_true_iff, list_eq_ok_iff_walk, hthere,
    pathError?_join hname (nul_notMem_text (pathError?_of_list hlist))]
  constructor
  · rintro ⟨inside, ⟨hnul, hfits⟩, target, hlast, htarget⟩
    obtain ⟨others, child, hothers, hlookup, hshort, hend⟩ := walk_name_cons hname hlast
    obtain rfl : others = entries := by
      rw [hplace, Option.some.injEq, Node.directory.injEq] at hothers
      exact hothers.symm
    rw [walk_nil, Except.ok.injEq] at hend
    rw [← hend, find?_entry hplace hlookup, Option.some.injEq] at htarget
    exact ⟨⟨inside, htarget ▸ hlookup⟩, hshort, hnul, hfits⟩
  · rintro ⟨⟨inside, hlookup⟩, hshort, hnul, hfits⟩
    exact ⟨inside, ⟨hnul, hfits⟩, _, walk_entry hname hshort hplace hlookup,
      find?_entry hplace hlookup⟩

/-- On a disk, an entry is seen to be what it is, but for directories whose paths are too long. -/
theorem isDirectory_of_listed (hfs : fs.WellNamed) (hname : IsName name)
    (hlist : fs.list (listed directory) = .ok entries) (hentry : (name, node) ∈ entries) :
    fs.isDirectory (directory.join ⟨name⟩)
      = (node.isDirectory && decide (Fits (directory.join ⟨name⟩))) := by
  obtain ⟨place, -, hplace⟩ := walk_of_list hlist
  have hlookup : entries.lookup name = some node := lookup_of_mem (hfs.nodup hplace) hentry
  have hdirectory : node.isDirectory = true ↔ ∃ inside, node = .directory inside := by
    cases node <;> simp [Node.isDirectory]
  rw [Bool.eq_iff_iff, isDirectory_join_iff hname hlist, Bool.and_eq_true, decide_eq_true_eq,
    hdirectory, hlookup]
  simp only [Option.some.injEq]
  exact and_congr_right fun _ =>
    ⟨fun h => h.2.2, fun h => ⟨hfs.not_long hplace hentry, hfs.no_nul hplace hentry, h⟩⟩

/-! ## Entries by their components -/

/-- There is an entry with these components: its directory lists it. -/
def HasEntry (fs : FileSystem) (components : List Component) (node : Node) : Prop :=
  ∃ above name, components = above ++ [.name name] ∧ fs.Lists above name node

theorem hasFile_iff :
    fs.HasFile components ↔ ∃ content, fs.HasEntry components (.file content) := by
  constructor
  · rintro ⟨above, name, content, hcomponents, hlists⟩
    exact ⟨content, above, name, hcomponents, hlists⟩
  · rintro ⟨content, above, name, hcomponents, hlists⟩
    exact ⟨above, name, content, hcomponents, hlists⟩

/-- Plain paths with the same components list the same directory. -/
theorem list_unique {others : List (String × Node)} (hp : p.IsPlain) (hq : q.IsPlain)
    (h : p.components = q.components) (hlist : fs.list (listed p) = .ok entries)
    (hlist' : fs.list (listed q) = .ok others) : entries = others := by
  obtain ⟨habsolute, hnames⟩ := Path.names_of_components_eq hp hq h
  obtain ⟨place, hwalk, hplace⟩ := walk_of_list hlist
  obtain ⟨place', hwalk', hplace'⟩ := walk_of_list hlist'
  have hstay : fs.walk (fs.origin p) p.names = .ok place := walk_names hwalk
  have hstay' : fs.walk (fs.origin q) q.names = .ok place' := walk_names hwalk'
  have horigin : fs.origin p = fs.origin q := by rw [origin, origin, habsolute]
  rw [horigin, hnames, hstay', Except.ok.injEq] at hstay
  rw [← hstay, hplace', Option.some.injEq, Node.directory.injEq] at hplace
  exact hplace.symm

/-- There is one entry with the components of a plain path. -/
theorem HasEntry.unique {other : Node} (hfs : fs.WellNamed) (hp : p.IsPlain)
    (h : fs.HasEntry p.components node) (h' : fs.HasEntry p.components other) : node = other := by
  obtain ⟨above, name, hcomponents, directory, entries, rfl, hlist, hentry⟩ := h
  obtain ⟨_, name', hcomponents', directory', entries', rfl, hlist', hentry'⟩ := h'
  obtain ⟨habove, hlast⟩ := List.append_inj' (hcomponents.symm.trans hcomponents') rfl
  have hname : name = name' := by simpa using hlast
  have hplain : ∀ {d : Path}, (∃ last, p.components = d.components ++ [last]) → d.IsPlain := by
    rintro d ⟨last, hsplit⟩
    exact ⟨fun hmem => hp.1 (hsplit ▸ List.mem_append_left _ hmem),
      fun hmem => hp.2 (hsplit ▸ List.mem_append_left _ hmem)⟩
  obtain rfl : entries = entries' :=
    list_unique (hplain ⟨_, hcomponents⟩) (hplain ⟨_, hcomponents'⟩) habove hlist hlist'
  obtain ⟨place, -, hplace⟩ := walk_of_list hlist
  have hlookup := lookup_of_mem (hfs.nodup hplace) hentry
  have hlookup' := lookup_of_mem (hfs.nodup hplace) hentry'
  rw [hname] at hlookup
  exact Option.some.inj (hlookup.symm.trans hlookup')

/-- A directory that is listed in the one above it, while its own path is too long to be looked up.
The path is tidy: it could not be written any shorter. -/
structure IsTooDeep (fs : FileSystem) (p : Path) : Prop where
  isTidy : p.IsTidy
  not_fits : ¬ Fits p
  listed_above : ∃ inside, fs.HasEntry p.components (.directory inside)

/-- Where a file has these components, no directory has. -/
theorem IsTooDeep.not_hasFile (hfs : fs.WellNamed) (hp : p.IsPlain) (h : fs.IsTooDeep p) :
    ¬ fs.HasFile p.components := by
  intro hfile
  obtain ⟨content, hcontent⟩ := hasFile_iff.mp hfile
  obtain ⟨inside, hinside⟩ := h.listed_above
  cases hcontent.unique hfs hp hinside

/-! ## The deepest directory -/

/-- Directories one inside the other have no names but these. -/
theorem forall_narrow {P : String → Prop} {names : List String} (h : ∀ name ∈ names, P name) :
    ∀ entries ∈ (FileSystem.empty names).root.directories,
      entries = [] ∨ ∃ name node, P name ∧ entries = [(name, node)] := by
  rw [FileSystem.empty]
  induction names with
  | nil =>
    intro entries hentries
    rw [List.foldr_nil, Node.directories, Node.directoriesAmong, List.mem_singleton] at hentries
    exact .inl hentries
  | cons name rest ih =>
    rw [List.forall_mem_cons] at h
    intro entries hentries
    rw [List.foldr_cons, Node.directories, Node.directoriesAmong, Node.directoriesAmong,
      List.append_nil, List.mem_cons] at hentries
    rcases hentries with rfl | hentries
    · exact .inr ⟨name, _, h.1, rfl⟩
    · exact ih h.2 entries hentries

theorem properlyNamed_empty {names : List String} (h : ∀ name ∈ names, IsName name
      ∧ name.utf8ByteSize ≤ longestName ∧ '\x00' ∉ name.toList) :
    (FileSystem.empty names).ProperlyNamed := by
  refine properlyNamed_of_directories (fun entries hentries => ?_) fun entries hentries => ?_
  · rcases forall_narrow h entries hentries with rfl | ⟨name, node, ⟨-, hname⟩, rfl⟩
    · simp
    · simpa using hname
  · rcases forall_narrow h entries hentries with rfl | ⟨name, node, ⟨hname, -⟩, rfl⟩
    · simp
    · simpa using hname

theorem noCaseTwins_empty (names : List String) : (FileSystem.empty names).NoCaseTwins := by
  refine noCaseTwins_of_directories fun entries hentries => ?_
  have hany : ∀ name ∈ names, True := fun _ _ => trivial
  rcases forall_narrow hany entries hentries with rfl | ⟨name, node, -, rfl⟩ <;> simp

/-- What stands at the end of the first names. -/
theorem find?_empty (above below : List String) :
    (FileSystem.empty (above ++ below)).root.find? above = some (FileSystem.empty below).root := by
  rw [FileSystem.empty, FileSystem.empty]
  induction above with
  | nil => exact Node.find?_nil _
  | cons name rest ih =>
    rw [List.cons_append, List.foldr_cons, Node.find?_directory_cons, List.lookup_cons_self,
      Option.bind_some]
    exact ih

/-- A name of some length. -/
def rowName (length : Nat) : String :=
  String.ofList (List.replicate length 'd')

theorem size_rowName (length : Nat) : (rowName length).utf8ByteSize = length :=
  Path.size_replicate (by decide) length

theorem isName_rowName {length : Nat} (h : 2 < length) : IsName (rowName length) := by
  have hother : ∀ text : String, text.utf8ByteSize ≤ 2 → rowName length ≠ text := by
    intro text htext heq
    rw [← heq, size_rowName] at htext
    omega
  refine ⟨hother "" (by decide), hother "." (by decide), hother ".." (by decide), ?_⟩
  rw [rowName, String.toList_ofList, List.mem_replicate]
  exact fun hslash => absurd hslash.2 (by decide)

theorem nul_notMem_rowName (length : Nat) : '\x00' ∉ (rowName length).toList := by
  rw [rowName, String.toList_ofList, List.mem_replicate]
  exact fun hnul => absurd hnul.2 (by decide)

/-- Names that lead to a directory whose path has the greatest length. -/
def deepest : List String :=
  List.replicate 15 (rowName 255) ++ [rowName 254]

/-- The path of the deepest directory. -/
def deepestPath : Path :=
  (start ⟨"/"⟩).below deepest

/-- A file system with the deepest directory, and a directory in it. -/
def narrow : FileSystem :=
  .empty (deepest ++ ["s"])

theorem names_deepest : ∀ name ∈ deepest, IsName name ∧ name.utf8ByteSize ≤ longestName
    ∧ '\x00' ∉ name.toList := by
  have hrow : ∀ {length : Nat}, 2 < length → length ≤ longestName → IsName (rowName length)
      ∧ (rowName length).utf8ByteSize ≤ longestName ∧ '\x00' ∉ (rowName length).toList := by
    intro length hlong hshort
    refine ⟨isName_rowName hlong, ?_, nul_notMem_rowName length⟩
    rw [size_rowName]
    exact hshort
  intro name hname
  rcases List.mem_append.mp hname with hname | hname
  · rw [List.eq_of_mem_replicate hname]
    exact hrow (by decide) (by decide)
  · rw [List.mem_singleton.mp hname]
    exact hrow (by decide) (by decide)

theorem isName_deepest : ∀ name ∈ deepest, IsName name :=
  fun name hname => (names_deepest name hname).1

theorem properlyNamed_narrow : narrow.ProperlyNamed := by
  refine properlyNamed_empty fun name hname => ?_
  rcases List.mem_append.mp hname with hname | hname
  · exact names_deepest name hname
  · rw [List.mem_singleton.mp hname]
    decide

/-- The path of the deepest directory has the greatest length. -/
theorem size_deepestPath : deepestPath.text.utf8ByteSize = longestPath := by
  have hlead := Path.lead_below isName_deepest (start ⟨"/"⟩)
  have hstart : (start ⟨"/"⟩).lead = 1 := by decide
  have hslashed : Path.slashed deepest = 15 * 256 + 255 := by
    simp [deepest, Path.slashed, size_rowName]
  have hclosed : ¬ ((start ⟨"/"⟩).below deepest).IsOpen :=
    Path.not_isOpen_below isName_deepest (by simp [deepest]) _
  rw [Path.lead, if_neg hclosed, hstart, hslashed] at hlead
  have hlongest : longestPath = 4095 := rfl
  rw [deepestPath]
  omega

/-- The deepest directory can be listed. -/
theorem list_deepestPath : narrow.list deepestPath = .ok [("s", .directory [])] := by
  have hwalk : narrow.walk (narrow.origin deepestPath) (steps deepestPath) = .ok deepest := by
    have hwalk := walk_of_find? properlyNamed_narrow (Node.find?_nil narrow.root)
      (find?_empty deepest ["s"])
    rw [List.nil_append] at hwalk
    rw [deepestPath, origin_below_start isName_deepest, steps_below_start isName_deepest]
    exact hwalk
  have husable : pathError? deepestPath = none := by
    refine pathError?_eq_none_iff.mpr ⟨?_, fun hempty => ?_, Nat.le_of_eq size_deepestPath⟩
    · exact Capitalization.nul_notMem_below_start isName_deepest
        (fun name hname => (names_deepest name hname).2.2) _
    · have hsize := size_deepestPath
      rw [hempty] at hsize
      cases hsize
  exact list_eq_ok_iff_walk.mpr ⟨husable, deepest, hwalk, find?_empty deepest ["s"]⟩

/-- What is in the deepest directory has a path that is too long. -/
theorem not_fits_below_deepestPath {name : String} (hname : IsName name) :
    ¬ Fits (deepestPath.join ⟨name⟩) := by
  intro hfits
  have hsize := size_deepestPath
  have hclosed : ¬ deepestPath.IsOpen :=
    Path.not_isOpen_below isName_deepest (by simp [deepest]) _
  have hslash : "/".utf8ByteSize = 1 := by decide
  rw [Fits, Path.text_join hname, if_neg hclosed, String.utf8ByteSize_append,
    String.utf8ByteSize_append] at hfits
  omega

/-- The directory in the deepest one. -/
def beyondPath : Path :=
  (start ⟨"/"⟩).below (deepest ++ ["s"])

theorem isName_beyond : ∀ name ∈ deepest ++ ["s"], IsName name :=
  List.forall_mem_append.mpr ⟨isName_deepest, by decide⟩

theorem isPlain_beyondPath : beyondPath.IsPlain :=
  Capitalization.isPlain_below_start isName_beyond _

/-- The directory in the deepest one is listed there and cannot be looked up. -/
theorem isTooDeep_beyondPath : narrow.IsTooDeep beyondPath := by
  have hname : IsName "s" := by decide
  have hjoin : beyondPath = deepestPath.join ⟨"s"⟩ := by
    rw [beyondPath, deepestPath, Path.below_append, Path.below_cons, Path.below_nil]
  have hlisted : listed deepestPath = deepestPath :=
    listed_of_ne (pathError?_eq_none_iff.mp (pathError?_of_node
      (list_eq_ok_iff.mp list_deepestPath))).2.1
  have hlists : narrow.Lists deepestPath.components "s" (.directory []) := by
    refine ⟨deepestPath, [("s", .directory [])], rfl, ?_, List.mem_cons_self⟩
    rw [hlisted]
    exact list_deepestPath
  refine ⟨Path.isTidy_below_start isName_beyond (by simp) _, ?_, [], _, "s", ?_, hlists⟩
  · rw [hjoin]
    exact not_fits_below_deepestPath hname
  · rw [hjoin, Path.components_join hname]

end FileSystem

end SourceServer
