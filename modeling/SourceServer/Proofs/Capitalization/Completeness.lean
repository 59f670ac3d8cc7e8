import SourceServer.Proofs.Capitalization.Spelling

/-!
# Which paths are resolved

One directory is chosen for every name and never taken back, so a file could be missed behind a
wrong choice. It is not: a path that is spelled as on disk is followed to the end, for the exact
name wins in every directory; and where no two entries of a directory agree up to case there is
nothing to choose, so the spelling of the path does not matter. Besides files, directories are found
that are too deep to be looked up.

- `Capitalization.Follows.of_lower_eq`: the spelling does not matter without twins.
- `Capitalization.file_of_hasFile`, `Capitalization.file_of_deep_agrees`: what is found without twins.
- `Capitalization.IsComplete`: what resolving a path promises without twins.
- `Capitalization.file_complete`: which paths are found.
-/

namespace SourceServer

namespace Capitalization

variable {fs : FileSystem} {p q : Path} {found : List Component} {names wanted children : List String}

/-- Where no directory has twins, names that agree up to case stand for the same entries. -/
theorem Follows.of_lower_eq {directories : Bool} {place : Path} (hfs : fs.NoCaseTwins)
    (h : Follows fs directories place names children)
    (hlower : wanted.map Unicode.lower = names.map Unicode.lower) :
    Follows fs directories place wanted children := by
  induction h generalizing wanted with
  | nil =>
    rw [List.map_nil, List.map_eq_nil_iff] at hlower
    subst hlower
    exact .nil
  | @cons place name child rest children hchild hrest ih =>
    rw [List.map_cons, List.map_eq_cons_iff] at hlower
    obtain ⟨other, others, rfl, hother, hothers⟩ := hlower
    have hcandidate := isCandidate_of_findChild hchild
    obtain ⟨entries, hlist, -⟩ := hcandidate.listed
    obtain ⟨there, -, hthere⟩ := FileSystem.walk_of_list hlist
    have hempty : others.isEmpty = rest.isEmpty := by
      rw [← List.isEmpty_map, hothers, List.isEmpty_map]
    refine .cons (findChild_alone hlist (hfs hthere) ?_) (ih hothers)
    rw [hempty]
    exact ⟨hcandidate.listed, hcandidate.kind, hcandidate.lower.trans hother.symm⟩

/-- A file is found under every plain path that agrees with it up to case, where no directory has
twins, and under its own spelling in any case. -/
theorem file_of_hasFile (hfs : fs.WellNamed) (hp : p.IsPlain) (hfile : fs.HasFile found)
    (hlower : found.map Component.lower = p.components.map Component.lower)
    (hspelled : fs.NoCaseTwins ∨ found = p.components) :
    ∃ q, file fs p.text = .ok q ∧ q.components = found := by
  obtain ⟨content, hentry⟩ := FileSystem.hasFile_iff.mp hfile
  obtain ⟨children, hne, rfl, hnames, hfollows⟩ :=
    exists_follows_of_hasEntry hfs hp hentry hlower nofun
  -- the entries stand for themselves, and without twins for every spelling of them
  have hown : Follows fs false (start p) p.names children := by
    rcases hspelled with htwins | hsame
    · exact hfollows.of_lower_eq htwins hnames.symm
    · rw [Path.components_of_isPlain hp, List.append_cancel_left_eq, Path.map_name_inj] at hsame
      exact hsame ▸ hfollows
  have hisName := hown.isName fun name hname => Path.isName_of_mem_names hp hname
  exact ⟨_, file_of_follows hfs hp hne hown, components_below_start hisName p⟩

/-- A directory that is too deep is found under every plain path that agrees with it up to case. -/
theorem file_of_deep_agrees (hfs : fs.WellNamed) (htwins : fs.NoCaseTwins) (hp : p.IsPlain)
    (hdeep : fs.IsTooDeep q)
    (hlower : q.components.map Component.lower = p.components.map Component.lower) :
    file fs p.text = .ok q := by
  obtain ⟨hne, htext, hfollows⟩ := follows_of_isTooDeep hfs hp hdeep hlower
  have hnames := Path.map_lower_names_of_lower_eq (Path.isPlain_of_lower_eq hp hlower) hp hlower
  rw [file_of_follows hfs hp hne (hfollows.of_lower_eq htwins hnames.symm), ← htext]

/-- What resolving a path promises where no directory has twins: there is a result exactly when there
is a file that agrees with the path up to case, and then it is this file. -/
def IsComplete (fs : FileSystem) (p : Path) : Prop :=
  ((∃ q, file fs p.text = .ok q)
      ↔ ∃ found, fs.HasFile found ∧ found.map Component.lower = p.components.map Component.lower)
    ∧ ∀ found, fs.HasFile found → found.map Component.lower = p.components.map Component.lower →
        ∃ q, file fs p.text = .ok q ∧ q.components = found

/-- Without twins, a path is found exactly when a file agrees with it up to case, or a directory that
is too deep to be looked up. -/
theorem exists_file_iff (hfs : fs.WellNamed) (htwins : fs.NoCaseTwins) (hp : p.IsPlain) :
    (∃ q, file fs p.text = .ok q)
      ↔ (∃ found, fs.HasFile found ∧ found.map Component.lower = p.components.map Component.lower)
        ∨ ∃ q, fs.IsTooDeep q ∧ q.components.map Component.lower = p.components.map Component.lower
    := by
  constructor
  · rintro ⟨q, hq⟩
    have hresolves := resolves_of_file hq
    by_cases hdeep : fs.IsTooDeep q
    · exact .inr ⟨q, hdeep, hresolves.lower_components⟩
    · exact .inl ⟨q.components, (hresolves.hasFile_iff hfs).mpr hdeep, hresolves.lower_components⟩
  · rintro (⟨found, hfile, hlower⟩ | ⟨q, hdeep, hlower⟩)
    · obtain ⟨q, hq, -⟩ := file_of_hasFile hfs hp hfile hlower (.inl htwins)
      exact ⟨q, hq⟩
    · exact ⟨q, file_of_deep_agrees hfs htwins hp hdeep hlower⟩

/-- Without twins, the promise is kept for a path exactly when no directory that is too deep agrees
with it up to case. -/
theorem isComplete_iff (hfs : fs.WellNamed) (htwins : fs.NoCaseTwins) (hp : p.IsPlain) :
    IsComplete fs p ↔ ¬ ∃ q, fs.IsTooDeep q
      ∧ q.components.map Component.lower = p.components.map Component.lower := by
  constructor
  · rintro ⟨hiff, hreturned⟩ ⟨q, hdeep, hlower⟩
    have hq := file_of_deep_agrees hfs htwins hp hdeep hlower
    obtain ⟨found, hfile, hagree⟩ := hiff.mp ⟨q, hq⟩
    obtain ⟨q', hq', rfl⟩ := hreturned found hfile hagree
    obtain rfl : q = q' := Except.ok.inj (hq.symm.trans hq')
    exact hdeep.not_hasFile hfs (Path.isPlain_of_lower_eq hp hlower) hfile
  · intro hnone
    refine ⟨?_, fun found hfile hlower => file_of_hasFile hfs hp hfile hlower (.inl htwins)⟩
    rw [exists_file_iff hfs htwins hp]
    exact or_iff_left hnone

/-- **Every file can be found.** In a file system with the names that every disk allows, a plain
path that is spelled as a file on disk is resolved to this file, whatever other entries its
directories have. Where no directory has two entries that agree up to case, a file is found under
every plain path that agrees with it up to case. What is found besides are directories that are too
deep to be looked up; a plain path is resolved exactly when there is a file that agrees with it up to
case, and then to this file, if and only if no such directory agrees with it. -/
theorem file_complete (hfs : fs.WellNamed) (hp : p.IsPlain) :
    (∀ content, fs.read p = .ok content → fs.HasFile p.components)
      ∧ (fs.HasFile p.components → ∃ q, file fs p.text = .ok q ∧ q.components = p.components)
      ∧ (fs.NoCaseTwins →
        (∀ found, fs.HasFile found → found.map Component.lower = p.components.map Component.lower →
            ∃ q, file fs p.text = .ok q ∧ q.components = found)
          ∧ ((∃ q, file fs p.text = .ok q)
            ↔ (∃ found, fs.HasFile found
                ∧ found.map Component.lower = p.components.map Component.lower)
              ∨ ∃ q, fs.IsTooDeep q
                ∧ q.components.map Component.lower = p.components.map Component.lower)
          ∧ (IsComplete fs p ↔ ¬ ∃ q, fs.IsTooDeep q
            ∧ q.components.map Component.lower = p.components.map Component.lower)) := by
  refine ⟨fun content hread => FileSystem.hasFile_of_read hp hread, fun hfile => ?_,
    fun htwins => ⟨fun found hfile hlower => ?_, ?_, ?_⟩⟩
  · exact file_of_hasFile hfs hp hfile rfl (.inr rfl)
  · exact file_of_hasFile hfs hp hfile hlower (.inl htwins)
  · exact exists_file_iff hfs htwins hp
  · exact isComplete_iff hfs htwins hp

/-- A recorded path in another case than its file and the directory above. -/
theorem file_complete_of_otherCase :
    ∃ fs : FileSystem, fs.WellNamed ∧ fs.NoCaseTwins ∧ Path.IsPlain ⟨"src/core/LINKER.CS"⟩
      ∧ ∃ q, file fs "src/core/LINKER.CS" = .ok q
        ∧ q.components = [.name "src", .name "Core", .name "Linker.cs"] := by
  let fs : FileSystem :=
    ⟨.directory [("w", .directory [("src", .directory
      [("Core", .directory [("Linker.cs", .file .empty)]), ("core.md", .file .empty)])])], ["w"]⟩
  have hnamed : fs.WellNamed := FileSystem.wellNamed_of_directories (by decide +kernel)
  have htwins : fs.NoCaseTwins := FileSystem.noCaseTwins_of_directories (by decide +kernel)
  have hplain : Path.IsPlain ⟨"src/core/LINKER.CS"⟩ := by
    constructor <;> decide +kernel
  have hlisted : fs.list (listed ⟨"src/Core"⟩) = .ok [("Linker.cs", .file .empty)] := rfl
  have hfile : fs.HasFile [.name "src", .name "Core", .name "Linker.cs"] :=
    ⟨[.name "src", .name "Core"], "Linker.cs", .empty, rfl, ⟨"src/Core"⟩, _, rfl, hlisted,
      List.mem_singleton_self _⟩
  have hlower : [.name "src", .name "Core", .name "Linker.cs"].map Component.lower
      = (Path.components ⟨"src/core/LINKER.CS"⟩).map Component.lower := by decide +kernel
  exact ⟨fs, hnamed, htwins, hplain, ((file_complete hnamed hplain).2.2 htwins).1 _ hfile hlower⟩

/-- A directory in the deepest one is found, though no file has its path. -/
theorem not_isComplete :
    ¬ ∀ (fs : FileSystem) (p : Path), fs.ProperlyNamed → fs.NoCaseTwins → p.IsPlain →
      IsComplete fs p := by
  intro hall
  have hnamed := FileSystem.properlyNamed_narrow
  have htwins : FileSystem.narrow.NoCaseTwins := FileSystem.noCaseTwins_empty _
  have hcomplete := hall _ _ hnamed htwins FileSystem.isPlain_beyondPath
  refine (isComplete_iff hnamed.toWellNamed htwins FileSystem.isPlain_beyondPath).mp hcomplete ?_
  exact ⟨_, FileSystem.isTooDeep_beyondPath, rfl⟩

end Capitalization

end SourceServer
