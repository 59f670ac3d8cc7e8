import SourceServer.CommandLine.Commands
import SourceServer.Proofs.Link.RelativePath

/-!
# Lists of sources

A list names one source on a line, and a relative one is taken from the base directory. Taking this
directory off again leaves the separators at its end and then the line, and an entry shows no
separators in front. So the entry of a relative line shows the line, whatever the base directory is
and ends with.

- `Commands.sourceLines`: the lines that name a source.
- `Path.exists_separators_join`: how a path taken from a root begins.
- `Remote.relativePath_relativeToRoot_join`: the root taken off again.
- `Commands.entries_of_sourceList`: the entries of a list.
-/

namespace SourceServer

/-! ## A root put in front and taken off -/

/-- Behind a root without its final separators stand these separators. -/
theorem exists_separators (root : Path) :
    ∃ separators, root.text.toList = trimmedRoot root ++ separators
      ∧ ∀ c ∈ separators, Remote.isSeparator c = true := by
  refine ⟨(root.text.toList.reverse.takeWhile Remote.isSeparator).reverse, ?_, fun c hc => ?_⟩
  · rw [trimmedRoot, ← List.reverse_append, List.takeWhile_append_dropWhile, List.reverse_reverse]
  · rw [List.mem_reverse] at hc
    exact List.all_eq_true.mp List.all_takeWhile c hc

/-- A relative path taken from a root: the root without its final separators, some separators, and
the path. -/
theorem Path.exists_separators_join {root p : Path} (hroot : root.text ≠ "")
    (hp : p.isAbsolute = false) :
    ∃ separators, (root.join p).text.toList = trimmedRoot root ++ (separators ++ p.text.toList)
      ∧ separators ≠ [] ∧ ∀ c ∈ separators, Remote.isSeparator c = true := by
  obtain ⟨separators, hsplit, hall⟩ := exists_separators root
  rw [join, hp, if_neg Bool.false_ne_true]
  split
  · rename_i hend
    have hslash : root.text.toList.getLast? = some '/' := hend.resolve_left hroot
    refine ⟨separators, by rw [String.toList_append, hsplit, List.append_assoc], ?_, hall⟩
    -- the slash at the end is none of the trimmed root
    rintro rfl
    rw [List.append_nil, trimmedRoot] at hsplit
    rw [hsplit, List.getLast?_reverse] at hslash
    have hkept := List.head?_dropWhile_not Remote.isSeparator root.text.toList.reverse
    rw [hslash] at hkept
    cases hkept
  · refine ⟨separators ++ ['/'], ?_, by simp, ?_⟩
    · simp [String.toList_append, hsplit]
    · intro c hc
      rcases List.mem_append.mp hc with hc | hc
      · exact hall c hc
      · rw [List.mem_singleton.mp hc]
        rfl

namespace Remote

/-- Separators in front are not shown. -/
theorem relativePath_separators_append (remote : Remote) {separators : List Char}
    (h : ∀ c ∈ separators, isSeparator c = true) (text : List Char) :
    remote.relativePath (String.ofList (separators ++ text))
      = remote.relativePath (String.ofList text) := by
  have hshown : ∀ c ∈ separators.map remote.shownChar, isSeparator c = true := by
    rw [List.forall_mem_map]
    intro c hc
    rw [isSeparator_shownChar]
    exact h c hc
  rw [relativePath, relativePath, String.toList_ofList, String.toList_ofList, List.map_append]
  exact congrArg String.ofList (List.dropWhile_append_of_pos hshown)

/-- A relative path taken from a root is shown as it is when the root is taken off again. -/
theorem relativePath_relativeToRoot_join (remote : Remote) (root : Path) {p : Path}
    (hp : p.isAbsolute = false) :
    remote.relativePath (relativeToRoot (root.join p).text root) = remote.relativePath p.text := by
  by_cases hroot : root.text = ""
  · have hjoin : (root.join p).text = p.text := by
      rw [Path.join, hp, if_neg Bool.false_ne_true, if_pos (.inl hroot), hroot, String.empty_append]
    rw [hjoin, relativeToRoot_of_empty hroot]
  · obtain ⟨separators, hjoin, hne, hall⟩ := Path.exists_separators_join hroot hp
    have hbelow : Below root (root.join p).text (separators ++ p.text.toList) := by
      refine ⟨hroot, ⟨trimmedRoot root, hjoin, rfl⟩, ?_⟩
      obtain ⟨first, rest, rfl⟩ := List.exists_cons_of_ne_nil hne
      rintro _ ⟨rfl⟩
      exact hall first List.mem_cons_self
    rw [relativeToRoot_of_below hbelow, remote.relativePath_separators_append hall,
      String.ofList_toList]

end Remote

/-! ## The entries of a list -/

namespace Commands

/-- The lines of a list that name a source, without surrounding blanks. -/
def sourceLines (text : String) : List String :=
  ((Lines.lines text).map Unicode.trim).filter (· ≠ "")

theorem join_of_isAbsolute {directory p : Path} (h : p.isAbsolute = true) : directory.join p = p := by
  rw [Path.join, if_pos h]

/-- The entry of a line: an absolute line is a path by itself, and a relative one is shown as it
is. -/
theorem entryPaths_of_line (remote : Remote) (root : Path) (line : String) :
    entryPaths remote root (root.join ⟨line⟩)
      = ((root.join ⟨line⟩).text,
          remote.relativePath
            (if Path.isAbsolute ⟨line⟩ then relativeToRoot line root else line)) := by
  rw [entryPaths_eq]
  split
  · rename_i habsolute
    rw [join_of_isAbsolute habsolute]
  · rename_i hrelative
    rw [remote.relativePath_relativeToRoot_join root (Bool.eq_false_iff.mpr hrelative)]

/-- A job with a list of sources is given the lines of this list, taken from the root. -/
theorem givenJob_eq_ok {fs : FileSystem} {root pdb sources : Path} {listing : Option Path}
    {job : Job} (h : givenJob fs root pdb (some sources) listing = .ok job) :
    ∃ text, fs.readText sources = .ok text ∧ job.compilables = some (sourcePaths root text) := by
  rw [givenJob, bind_eq_ok] at h
  obtain ⟨compilables, hcompilables, h⟩ := h
  rw [bind_eq_ok] at h
  obtain ⟨listed, -, h⟩ := h
  rw [Option.mapM_some] at hcompilables
  cases hread : fs.readText sources with
  | error error =>
    rw [hread] at hcompilables
    cases hcompilables
  | ok text =>
    rw [hread] at hcompilables
    obtain rfl : some (sourcePaths root text) = compilables := Except.ok.inj hcompilables
    exact ⟨text, rfl, (congrArg Job.compilables (Except.ok.inj h)).symm⟩

theorem linkRequest_eq_ok {fs : FileSystem} {settings : Settings} {pdb : Path}
    {arguments : LinkArguments} {sources listing : Option Path} {request : LinkRequest}
    (h : (linkRequest fs settings pdb arguments sources listing).result = .ok request) :
    request.options = linkOptions fs settings arguments
      ∧ givenJob fs request.options.root pdb sources listing = .ok request.job := by
  rw [linkRequest, Task.result_bind, bind_eq_ok] at h
  obtain ⟨remote, -, h⟩ := h
  rw [Task.result_bind, bind_eq_ok] at h
  obtain ⟨revision, -, h⟩ := h
  rw [Task.result_bind, bind_eq_ok] at h
  obtain ⟨job, hjob, h⟩ := h
  rw [Task.result_pure, Except.ok.injEq] at h
  subst h
  exact ⟨rfl, hjob⟩

/-- **The entries of a list of sources.** For every base directory, every list and every remote, the
index has one entry for each line that names a source, in the order of the lines. Its local path is
the line taken from the base directory. Its relative path shows a relative line as the remote shows
that line alone, whatever the base directory is and ends with; an absolute line loses the base
directory if it stands below. And when one symbol file is linked with a list, the lines are taken
from the very directory that entries are relative to. -/
theorem entries_of_sourceList (remote : Remote) (revision : String) (options : LinkOptions)
    (now : Timestamp) :
    (∀ text, (indexContext remote revision (sourcePaths options.root text) options now).paths
        = (sourceLines text).map fun line =>
          ((options.root.join ⟨line⟩).text,
            remote.relativePath
              (if Path.isAbsolute ⟨line⟩ then relativeToRoot line options.root else line)))
      ∧ ∀ fs settings pdb arguments sources listing request,
        (linkRequest fs settings pdb arguments (some sources) listing).result = .ok request →
        ∃ text, fs.readText sources = .ok text
          ∧ request.job.compilables = some (sourcePaths request.options.root text) := by
  refine ⟨fun text => ?_, fun fs settings pdb arguments sources listing request hrequest => ?_⟩
  · rw [paths_indexContext, sourcePaths, List.map_map]
    exact List.map_congr_left fun line _ => entryPaths_of_line remote options.root line
  · exact givenJob_eq_ok (linkRequest_eq_ok hrequest).2

/-- The backslash at the end of the root and the one in front of the line are not shown, and blanks
around a line do not count. -/
example :
    (indexContext ⟨.customUrl false, ""⟩ "" (sourcePaths ⟨"ä\\"⟩ " \\b\\c.cs\r\n\t\n/Ä\\/d.cs")
        ⟨⟨"ä\\"⟩, false, false, .lf⟩ ⟨2024, 3, 5, 14, 7, 9⟩).paths
      = [("ä\\/\\b\\c.cs", "b/c.cs"), ("/Ä\\/d.cs", "Ä//d.cs")] := by
  decide +kernel

end Commands

end SourceServer
