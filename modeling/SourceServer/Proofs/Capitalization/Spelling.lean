import SourceServer.Proofs.Capitalization.Following

/-!
# The spelling of resolved paths

A path that is found is spelled as the directories on its way store it. It has the components of the
path that was asked for, up to case, and every one of its names is an entry of its directory. So it is
found again under its own spelling. What is found is a file, unless it is a directory whose path is
too long to be looked up.

- `Capitalization.Resolves`, `Capitalization.resolves_of_file`: what is known of a path that is found.
- `Capitalization.eq_of_components_eq`: it is known from its components.
- `Capitalization.file_spelling`: resolved paths are spelled as on disk.
-/

namespace SourceServer

namespace Capitalization

open FileSystem (Fits)

variable {fs : FileSystem} {q : Path}

/-- What is known of a path that is found under another one. -/
structure Resolves (fs : FileSystem) (p q : Path) : Prop where
  isAbsolute_eq : q.isAbsolute = p.isAbsolute
  /-- It has the components that were asked for, up to case. -/
  lower_components : q.components.map Component.lower = p.components.map Component.lower
  /-- There is an entry at the end of it. -/
  hasEntry : ∃ node, fs.HasEntry q.components node
  /-- Every name of it is stored in its directory, and all but the last one are directories. -/
  stored : ∀ above name behind, q.components = above ++ .name name :: behind →
    ∃ node, fs.Lists above name node ∧ (behind ≠ [] → node.isDirectory = true)
  /-- It is a file, unless it is a directory that cannot be looked up. -/
  hasFile_iff : fs.WellNamed → (fs.HasFile q.components ↔ ¬ fs.IsTooDeep q)
  /-- If its path is not too long for that, it is a file that can be read. -/
  readable : fs.WellNamed → Fits q → ∃ content, fs.read q = .ok content
  /-- It is found under its own spelling. -/
  fixed : file fs q.text = .ok q

/-- A path that is found is spelled as the disk spells it. -/
theorem resolves_of_file {text : String} (h : file fs text = .ok q) : Resolves fs ⟨text⟩ q := by
  obtain ⟨hp, hnul, hnames, children, hfollows, rfl⟩ := file_eq_ok_iff.mp h
  have hwanted : ∀ name ∈ Path.names ⟨text⟩, IsName name :=
    fun name hname => Path.isName_of_mem_names hp hname
  have hchildren : ∀ child ∈ children, IsName child := hfollows.isName hwanted
  have hcomponents := components_below_start hchildren ⟨text⟩
  have habsolute := isAbsolute_below_start hchildren ⟨text⟩
  have hplain := isPlain_below_start hchildren ⟨text⟩
  have hne : children ≠ [] := by
    rw [← List.isEmpty_eq_false_iff, hfollows.isEmpty_eq, List.isEmpty_eq_false_iff]
    exact hnames
  obtain ⟨front, last, hsplit⟩ : ∃ front last, children = front ++ [last] :=
    ⟨_, _, (List.dropLast_append_getLast hne).symm⟩
  have hlast : IsName last := hchildren last (by simp [hsplit])
  have hends : ((start ⟨text⟩).below children).components
      = ((start ⟨text⟩).below front).components ++ [.name last] := by
    rw [hsplit, Path.below_append, Path.below_cons, Path.below_nil, Path.components_join hlast]
  refine ⟨habsolute, ?lower, ?entry, fun _ _ _ => hfollows.lists hwanted, ?file, ?readable, ?fixed⟩
  case lower =>
    rw [hcomponents, Path.components_of_isPlain hp, Component.map_lower_append_name,
      Component.map_lower_append_name, hfollows.map_lower]
  case entry =>
    obtain ⟨node, hlists, -⟩ := hfollows.lists hwanted hends
    exact ⟨node, _, last, hends, hlists⟩
  case file =>
    intro hfs
    obtain ⟨entries, node, hlist, hentry, hkind⟩ := hfollows.last hfs hwanted hsplit
    have hnode : fs.HasEntry ((start ⟨text⟩).below children).components node :=
      ⟨_, last, hends, _, entries, rfl, hlist, hentry⟩
    constructor
    · intro hfile hdeep
      exact hdeep.not_hasFile hfs hplain hfile
    · intro hreach
      cases node with
      | file content => exact FileSystem.hasFile_iff.mpr ⟨content, hnode⟩
      | directory inside =>
        exact absurd ⟨Path.isTidy_below_start hchildren hne _, hkind rfl, inside, hnode⟩ hreach
  case readable =>
    intro hfs hfits
    obtain ⟨entries, node, hlist, hentry, hkind⟩ := hfollows.last hfs hwanted hsplit
    cases node with
    | directory inside => exact absurd hfits (hkind rfl)
    | file content =>
      rw [hsplit, Path.below_append, Path.below_cons, Path.below_nil] at hfits ⊢
      exact ⟨content, FileSystem.read_of_list hfs hlast hlist hentry hfits⟩
  case fixed =>
    -- the names of the result are the entries, and they start where the path did
    have hfree : ∀ child ∈ children, '\x00' ∉ child.toList :=
      nul_notMem_of_lower_eq hfollows.map_lower fun name hname hmem =>
        hnul (Path.mem_of_mem_step (List.mem_filter.mp hname).1 hmem)
    have hself : Follows fs false (start ((start ⟨text⟩).below children)) children children := by
      rw [start_eq_of_isAbsolute_eq habsolute]
      exact hfollows.self
    have hown := names_below_start hchildren ⟨text⟩
    refine file_eq_ok_iff.mpr ⟨hplain, nul_notMem_below_start hchildren hfree ⟨text⟩, ?_, children,
      ?_, ?_⟩
    · rw [hown]
      exact hne
    · rw [hown]
      exact hself
    · rw [start_eq_of_isAbsolute_eq habsolute]

/-- Files that are found have one text for each path. -/
theorem eq_of_components_eq {text text' : String} {q q' : Path} (h : file fs text = .ok q)
    (h' : file fs text' = .ok q') (hcomponents : q.components = q'.components) : q = q' := by
  obtain ⟨hp, -, -, children, hfollows, rfl⟩ := file_eq_ok_iff.mp h
  obtain ⟨hp', -, -, children', hfollows', rfl⟩ := file_eq_ok_iff.mp h'
  have hchildren := hfollows.isName fun name hname => Path.isName_of_mem_names hp hname
  have hchildren' := hfollows'.isName fun name hname => Path.isName_of_mem_names hp' hname
  have habsolute : Path.isAbsolute ⟨text⟩ = Path.isAbsolute ⟨text'⟩ := by
    rw [← (resolves_of_file h).isAbsolute_eq, ← (resolves_of_file h').isAbsolute_eq]
    exact Path.isAbsolute_eq_of_lower_eq (congrArg (List.map Component.lower) hcomponents)
  have htop : Path.top ⟨text⟩ = Path.top ⟨text'⟩ := by rw [Path.top, Path.top, habsolute]
  rw [components_below_start hchildren, components_below_start hchildren', htop,
    List.append_cancel_left_eq, Path.map_name_inj] at hcomponents
  rw [hcomponents, start_eq_of_isAbsolute_eq habsolute]

/-- **Resolved paths are spelled as on disk.** In every file system, a path that is found under
another one is absolute when that is, has its components up to case, is stored in this spelling with
all directories on its way, and is found again under its own text. A path that goes up, begins with a
point or holds a NUL finds nothing. Any other path finds an entry exactly when each of its names
stands for an entry of the directory that the names before it lead to. What is found is a file,
except for a directory that is listed above and whose own path is too long to be looked up; so it is a
file that can be read whenever its path fits. -/
theorem file_spelling (fs : FileSystem) (text : String) :
    (∀ q, file fs text = .ok q → Resolves fs ⟨text⟩ q)
      ∧ (.up ∈ Path.components ⟨text⟩ ∨ (Path.components ⟨text⟩).head? = some .here
          ∨ '\x00' ∈ text.toList → ∃ cause, file fs text = .error cause)
      ∧ ∀ q, file fs text = .ok q
        ↔ Path.IsPlain ⟨text⟩ ∧ '\x00' ∉ text.toList ∧ Path.names ⟨text⟩ ≠ []
          ∧ ∃ children, Follows fs false (start ⟨text⟩) (Path.names ⟨text⟩) children
            ∧ q = (start ⟨text⟩).below children := by
  refine ⟨fun q h => resolves_of_file h, fun hpoints => ?_, fun q => file_eq_ok_iff⟩
  cases h : file fs text with
  | error cause => exact ⟨cause, rfl⟩
  | ok q =>
    obtain ⟨⟨hhere, hup⟩, hnul, -⟩ := file_eq_ok_iff.mp h
    rcases hpoints with hmem | hhead | hmem
    · exact absurd hmem hup
    · exact absurd (List.mem_of_head? hhead) hhere
    · exact absurd hmem hnul

/-- A directory is found as if it were a file: it is listed in the deepest directory, and under its
own path, which is too long, nothing is seen. -/
theorem not_hasFile_of_file :
    ¬ ∀ (fs : FileSystem) (text : String) (q : Path), fs.ProperlyNamed → file fs text = .ok q →
      fs.HasFile q.components := by
  intro hall
  have hfound := file_of_isTooDeep FileSystem.properlyNamed_narrow.toWellNamed
    FileSystem.isPlain_beyondPath FileSystem.isTooDeep_beyondPath
  exact FileSystem.isTooDeep_beyondPath.not_hasFile FileSystem.properlyNamed_narrow.toWellNamed
    FileSystem.isPlain_beyondPath (hall _ _ _ FileSystem.properlyNamed_narrow hfound)

example :
    file ⟨.directory [("Src", .directory [("a.cs", .file .empty), ("A.cs", .file .empty)])], []⟩
      "src//./A.CS" = .ok ⟨"Src/A.cs"⟩ := by
  decide +kernel

end Capitalization

end SourceServer
