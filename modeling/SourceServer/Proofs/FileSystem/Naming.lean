import SourceServer.Proofs.FileSystem.Entries
import SourceServer.Proofs.FileSystem.Writing

/-!
# Names in a tree

On a disk every entry of a directory can be told apart from the others and is one step of a path.
Writing a file keeps it that way: in one directory a name may be new, and it is a step of the path
that was written.

- `FileSystem.ProperlyNamed`: what every disk takes care of.
- `Node.directory_of_put`: the directories of a tree into which a file was put.
- `FileSystem.ProperlyNamed.write`: names after a file was written.
-/

namespace SourceServer

namespace Node

/-! ## Names of entries -/

theorem names_setEntry (name : String) (node : Node) (entries : List (String × Node)) :
    (setEntry name node entries).map Prod.fst
      = if name ∈ entries.map Prod.fst then entries.map Prod.fst
        else entries.map Prod.fst ++ [name] := by
  induction entries with
  | nil => rfl
  | cons entry rest ih =>
    obtain ⟨other, old⟩ := entry
    rw [setEntry]
    by_cases hother : other = name
    · simp [hother]
    · have hne : name ≠ other := Ne.symm hother
      rw [if_neg hother, List.map_cons, ih]
      simp only [List.map_cons, List.mem_cons, hne, false_or]
      split <;> rfl

theorem names_setEntry_of_lookup {name : String} {old : Node} {entries : List (String × Node)}
    (h : entries.lookup name = some old) (node : Node) :
    (setEntry name node entries).map Prod.fst = entries.map Prod.fst := by
  have hmem : name ∈ entries.map Prod.fst := List.mem_map_of_mem (mem_of_lookup h)
  rw [names_setEntry, if_pos hmem]

/-- Later entries have the same names as earlier ones, but for `name`, which may have come last. -/
def NamesGrow (name : String) (entries later : List (String × Node)) : Prop :=
  later.map Prod.fst = entries.map Prod.fst
    ∨ (name ∉ entries.map Prod.fst ∧ later.map Prod.fst = entries.map Prod.fst ++ [name])

theorem NamesGrow.nodup {name : String} {entries later : List (String × Node)}
    (h : NamesGrow name entries later) (hnodup : (entries.map Prod.fst).Nodup) :
    (later.map Prod.fst).Nodup := by
  rcases h with hsame | ⟨hfresh, hnew⟩
  · rwa [hsame]
  · rw [hnew, List.nodup_append]
    refine ⟨hnodup, List.nodup_singleton name, fun a ha b hb hab => ?_⟩
    rw [List.mem_singleton.mp hb] at hab
    exact hfresh (hab ▸ ha)

/-- What is true of the names before and of `name` is true of the names after. -/
theorem NamesGrow.forall_name {P : String → Prop} {name : String}
    {entries later : List (String × Node)} (h : NamesGrow name entries later) (hname : P name)
    (hold : ∀ entry ∈ entries, P entry.1) : ∀ entry ∈ later, P entry.1 := by
  rw [← List.forall_mem_map] at hold ⊢
  rcases h with hsame | ⟨-, hnew⟩
  · rwa [hsame]
  · rw [hnew, List.forall_mem_append, List.forall_mem_singleton]
    exact ⟨hold, hname⟩

/-- After a file was put into a tree, every directory was one before, and no other name is new in it.
The induction follows the way down to the file. -/
theorem directory_of_put {root : Node} {above : List String} {name : String} {content : ByteArray}
    {place : List String} {later : List (String × Node)}
    (h : (root.put (above ++ [name]) (.file content)).find? place = some (.directory later)) :
    ∃ entries, root.find? place = some (.directory entries) ∧ NamesGrow name entries later := by
  induction above generalizing root place with
  | nil =>
    cases root with
    | file old => cases place <;> simp [put] at h
    | directory entries =>
      rw [List.nil_append, put_name] at h
      cases place with
      | nil =>
        rw [find?_nil, Option.some.injEq, Node.directory.injEq] at h
        refine ⟨entries, find?_nil _, ?_⟩
        rw [NamesGrow, ← h, names_setEntry]
        split
        · exact .inl rfl
        · rename_i hnew
          exact .inr ⟨hnew, rfl⟩
      | cons step rest =>
        rw [find?_directory_cons, lookup_setEntry] at h
        split at h
        · -- nothing is below the file
          cases rest <;> simp at h
        · rw [← find?_directory_cons] at h
          exact ⟨later, h, .inl rfl⟩
  | cons first above ih =>
    cases root with
    | file old => cases place <;> simp [put] at h
    | directory entries =>
      cases hchild : entries.lookup first with
      | none =>
        rw [List.cons_append, put, hchild] at h
        simp only [List.append_eq_nil_iff, List.cons_ne_nil, and_false, if_false] at h
        exact ⟨later, h, .inl rfl⟩
      | some child =>
        rw [List.cons_append, put_below hchild] at h
        cases place with
        | nil =>
          rw [find?_nil, Option.some.injEq, Node.directory.injEq] at h
          refine ⟨entries, find?_nil _, .inl ?_⟩
          rw [← h, names_setEntry_of_lookup hchild]
        | cons step rest =>
          rw [find?_directory_cons, lookup_setEntry] at h
          rw [find?_directory_cons]
          split at h
          · rename_i hstep
            rw [hstep, hchild]
            exact ih h
          · exact ⟨later, h, .inl rfl⟩

end Node

instance (name : String) : Decidable (IsName name) :=
  decidable_of_iff (name ≠ "" ∧ name ≠ "." ∧ name ≠ ".." ∧ '/' ∉ name.toList)
    ⟨fun ⟨hempty, hhere, hup, hslash⟩ => ⟨hempty, hhere, hup, hslash⟩,
      fun ⟨hempty, hhere, hup, hslash⟩ => ⟨hempty, hhere, hup, hslash⟩⟩

namespace FileSystem

/-- What every disk takes care of: entries of a directory have different names, which are steps of
paths, not too long and without NUL. -/
structure ProperlyNamed (fs : FileSystem) : Prop extends fs.WellNamed where
  isName : ∀ {place entries entry}, fs.root.find? place = some (.directory entries) →
    entry ∈ entries → IsName entry.1

/-- Names can be checked directory by directory. -/
theorem properlyNamed_of_directories {fs : FileSystem}
    (h : ∀ entries ∈ fs.root.directories, (entries.map Prod.fst).Nodup
      ∧ ∀ entry ∈ entries, entry.1.utf8ByteSize ≤ longestName ∧ '\x00' ∉ entry.1.toList)
    (hnames : ∀ entries ∈ fs.root.directories, ∀ entry ∈ entries, IsName entry.1) :
    fs.ProperlyNamed where
  toWellNamed := wellNamed_of_directories h
  isName hplace hentry := hnames _ (Node.mem_directories hplace) _ hentry

variable {fs after : FileSystem} {p : Path} {content : ByteArray}

/-- The name of a file that is written can stand in a directory. -/
theorem Opens.isName {above : List String} {name : String} (h : fs.Opens p above name) :
    IsName name ∧ '\x00' ∉ name.toList := by
  have hstep : name ∈ steps p := by
    rw [h.steps_eq]
    exact List.mem_append_right _ List.mem_cons_self
  have hempty : name ≠ "" := by
    obtain ⟨piece, -, hpiece, rfl⟩ := mem_steps_iff.mp hstep
    rw [Ne, ← String.toList_eq_nil_iff, String.toList_ofList]
    exact hpiece
  refine ⟨⟨hempty, h.not_here, h.not_up, slash_notMem_step hstep⟩, fun hnul => ?_⟩
  exact (pathError?_eq_none_iff.mp h.usable).1 (Path.mem_of_mem_step hstep hnul)

/-- Writing a file keeps the names of a tree proper. -/
theorem ProperlyNamed.write (h : fs.ProperlyNamed) (hwrite : fs.write p content = .ok after) :
    after.ProperlyNamed := by
  obtain ⟨place, hplace, rfl⟩ := write_eq_ok.mp hwrite
  obtain ⟨above, name, rfl, hopens⟩ := filePlace_eq_ok hplace
  obtain ⟨hname, hnul⟩ := hopens.isName
  refine { nodup := ?_, not_long := ?_, no_nul := ?_, isName := ?_ }
  · intro place later hlater
    obtain ⟨entries, hentries, hgrow⟩ := Node.directory_of_put hlater
    exact hgrow.nodup (h.nodup hentries)
  · intro place later entry hlater hentry
    obtain ⟨entries, hentries, hgrow⟩ := Node.directory_of_put hlater
    exact hgrow.forall_name (P := fun called => called.utf8ByteSize ≤ longestName)
      (Nat.le_of_not_lt hopens.not_long) (fun _ hold => h.not_long hentries hold) entry hentry
  · intro place later entry hlater hentry
    obtain ⟨entries, hentries, hgrow⟩ := Node.directory_of_put hlater
    exact hgrow.forall_name (P := fun called => '\x00' ∉ called.toList) hnul
      (fun _ hold => h.no_nul hentries hold) entry hentry
  · intro place later entry hlater hentry
    obtain ⟨entries, hentries, hgrow⟩ := Node.directory_of_put hlater
    exact hgrow.forall_name hname (fun _ hold => h.isName hentries hold) entry hentry

end FileSystem

end SourceServer
