import SourceServer.Proofs.Capitalization.Choice
import SourceServer.Proofs.FileSystem.Kinds

/-!
# The choice in a directory of a disk

In the listing of a directory the kind of every entry is known; the choice asks for it once more, by
the path of the entry. The answers differ for directories whose paths are too long to be looked up.
Such a directory is not found as a directory, and it is found as a file.

- `Capitalization.isListedDirectory`: the kind of an entry by the listing.
- `Capitalization.KeepsPromise`: the choice by the kinds in the listing.
- `Capitalization.isDirectoryIn_eq_iff`: where the listing and the path of an entry differ.
- `Capitalization.findChild_spec`: the choice in every directory.
-/

namespace SourceServer

namespace Capitalization

open FileSystem (Fits)

variable {fs : FileSystem} {directory : Path} {entries : List (String × Node)}
  {name child : String} {directories : Bool} {node : Node}

/-- Whether an entry is a directory by the listing. -/
def isListedDirectory (entries : List (String × Node)) (entry : RawText) : Bool :=
  match entries.lookup entry.lossy with
  | some node => node.isDirectory
  | none => false

/-- The entry that is found is the one that the name is to stand for, by the kinds in the listing. -/
def KeepsPromise (fs : FileSystem) (directory : Path) (entries : List (String × Node))
    (name : String) (directories : Bool) : Prop :=
  ∃ chosen, findChild fs directory name directories = .ok chosen
    ∧ IsChosen (isListedDirectory entries) (rawNames entries) (.ofText name) directories
        (chosen.map .ofText)

/-- What is found, as the operating system has it. -/
theorem findChild_eq_ok_iff (hlist : fs.list directory = .ok entries) {chosen : Option String} :
    findChild fs directory name directories = .ok chosen
      ↔ choose (isDirectoryIn fs directory) (rawNames entries) (.ofText name) directories
        = chosen.map .ofText := by
  cases chosen with
  | some child => exact findChild_eq_some_iff hlist
  | none =>
    rw [findChild_of_list hlist, Except.ok.injEq, Option.map_eq_none_iff]
    rfl

/-- The promise is kept when both tests of kinds lead to the same choice. -/
theorem keepsPromise_iff (hlist : fs.list directory = .ok entries) :
    KeepsPromise fs directory entries name directories
      ↔ choose (isDirectoryIn fs directory) (rawNames entries) (.ofText name) directories
        = choose (isListedDirectory entries) (rawNames entries) (.ofText name) directories := by
  constructor
  · rintro ⟨chosen, hfound, hchosen⟩
    rw [(findChild_eq_ok_iff hlist).mp hfound, choose_eq_iff.mpr hchosen]
  · intro hsame
    have hfound : findChild fs directory name directories = .ok _ := findChild_of_list hlist
    refine ⟨_, hfound, ?_⟩
    rw [← (findChild_eq_ok_iff hlist).mp hfound, hsame]
    exact choose_eq_iff.mp rfl

/-- The two tests of kinds differ for directories whose paths are too long. -/
theorem isDirectoryIn_eq_iff (hfs : fs.ProperlyNamed) (hlist : fs.list directory = .ok entries)
    (hentry : (child, node) ∈ entries) :
    isDirectoryIn fs directory (.ofText child) = isListedDirectory entries (.ofText child)
      ↔ (node.isDirectory = true → Fits (directory.join ⟨child⟩)) := by
  obtain ⟨place, -, hplace, husable⟩ := FileSystem.place_of_list hlist
  have hlisted : listed directory = directory :=
    FileSystem.listed_of_ne (FileSystem.pathError?_eq_none_iff.mp husable).2.1
  have hlookup : entries.lookup child = some node :=
    FileSystem.lookup_of_mem (hfs.nodup hplace) hentry
  have hname : IsName child := hfs.isName hplace hentry
  have hseen := FileSystem.isDirectory_of_listed hfs.toWellNamed hname (hlisted.symm ▸ hlist) hentry
  rw [isDirectoryIn, isListedDirectory, RawText.lossy_ofText, hseen, hlookup]
  cases hkind : node.isDirectory <;> simp [hkind]

/-- The promise is kept when neither the entry that is found nor the one that the name is to stand for
is a directory whose path is too long. -/
theorem keepsPromise_iff_fits (hfs : fs.ProperlyNamed) (hlist : fs.list directory = .ok entries) :
    KeepsPromise fs directory entries name directories
      ↔ ∀ child inside, (child, .directory inside) ∈ entries →
        findChild fs directory name directories = .ok (some child)
          ∨ IsChosen (isListedDirectory entries) (rawNames entries) (.ofText name) directories
              (some (.ofText child)) →
        Fits (directory.join ⟨child⟩) := by
  rw [keepsPromise_iff hlist, choose_eq_choose_iff]
  constructor
  · intro hagree child inside hentry hfound
    rw [findChild_eq_some_iff hlist, ← choose_eq_iff] at hfound
    exact (isDirectoryIn_eq_iff hfs hlist hentry).mp (hagree _ hfound) rfl
  · intro hfits raw hfound
    have hmem : raw ∈ rawNames entries := by
      rcases hfound with h | h
      · exact (mem_candidates_iff.mp (mem_candidates_of_choose h)).1
      · exact (mem_candidates_iff.mp (mem_candidates_of_choose h)).1
    obtain ⟨child, hchild, rfl⟩ := mem_rawNames_iff.mp hmem
    obtain ⟨⟨_, node⟩, hentry, rfl⟩ := List.mem_map.mp hchild
    rw [isDirectoryIn_eq_iff hfs hlist hentry]
    intro hdirectory
    cases node with
    | file content => cases hdirectory
    | directory inside =>
      rw [← findChild_eq_some_iff hlist, choose_eq_iff] at hfound
      exact hfits _ inside hentry hfound

/-- **The choice in every directory.** Whatever names a directory has, whatever kinds its entries are
seen to be and in whatever order they are listed, a name stands for itself if an entry of the wanted
kind is called exactly so, otherwise for the smallest name, by bytes, of the entries of that kind that
agree with it up to case, and for nothing exactly when there are none. On a disk the entries are seen
to be what they are, but for directories whose paths are too long. So the promise is kept exactly when
neither the entry that is found nor the one that the name is to stand for is such a directory, and in
particular when there is none among the entries that agree with the name. -/
theorem findChild_spec (hfs : fs.ProperlyNamed) (hlist : fs.list directory = .ok entries)
    (name : String) (directories : Bool) :
    (∀ (isDirectory : RawText → Bool) (names : List RawText) (wanted : RawText) (chosen),
        choose isDirectory names wanted directories = chosen
          ↔ IsChosen isDirectory names wanted directories chosen)
      ∧ (∀ (isDirectory : RawText → Bool) (names listing : List RawText) (wanted : RawText),
        listing.Perm names → choose isDirectory listing wanted directories
          = choose isDirectory names wanted directories)
      ∧ (∃ chosen, findChild fs directory name directories = .ok chosen
        ∧ IsChosen (isDirectoryIn fs directory) (rawNames entries) (.ofText name) directories
            (chosen.map .ofText))
      ∧ (KeepsPromise fs directory entries name directories
        ↔ ∀ child inside, (child, .directory inside) ∈ entries →
          findChild fs directory name directories = .ok (some child)
            ∨ IsChosen (isListedDirectory entries) (rawNames entries) (.ofText name) directories
                (some (.ofText child)) →
          Fits (directory.join ⟨child⟩))
      ∧ ((∀ child inside, (child, .directory inside) ∈ entries →
          Unicode.lower child = Unicode.lower name → Fits (directory.join ⟨child⟩)) →
        KeepsPromise fs directory entries name directories) := by
  refine ⟨fun _ _ _ _ => choose_eq_iff, fun _ _ _ _ hperm => ?_, ?_,
    keepsPromise_iff_fits hfs hlist, fun hfits => ?_⟩
  · exact choose_congr fun child => by simp only [mem_candidates_iff, hperm.mem_iff]
  · have hfound : findChild fs directory name directories = .ok _ := findChild_of_list hlist
    exact ⟨_, hfound, choose_eq_iff.mp ((findChild_eq_ok_iff hlist).mp hfound)⟩
  · refine (keepsPromise_iff_fits hfs hlist).mpr fun child inside hentry hfound => ?_
    refine hfits child inside hentry ?_
    -- whatever is found or is to be found agrees with the name
    rcases hfound with hfound | hfound
    · exact (isCandidate_of_findChild hfound).lower
    · obtain ⟨-, -, hlower⟩ := mem_candidates_iff.mp hfound.1
      rwa [RawText.lossy_ofText, RawText.lossy_ofText] at hlower

/-- A directory with exactly the name is passed over when a file is wanted. -/
theorem findChild_spec_of_variants :
    ∃ (fs : FileSystem) (entries : List (String × Node)), fs.ProperlyNamed
      ∧ fs.list ⟨"/"⟩ = .ok entries ∧ KeepsPromise fs ⟨"/"⟩ entries "src" false
      ∧ findChild fs ⟨"/"⟩ "src" false = .ok (some "SRC") := by
  let entries : List (String × Node) :=
    [("src", .directory []), ("Src", .file .empty), ("SRC", .file .empty)]
  let fs : FileSystem := ⟨.directory entries, []⟩
  have hnamed : fs.ProperlyNamed :=
    FileSystem.properlyNamed_of_directories (by decide +kernel) (by decide +kernel)
  have hlist : fs.list ⟨"/"⟩ = .ok entries := rfl
  refine ⟨fs, entries, hnamed, hlist, ?_, by decide +kernel⟩
  refine (findChild_spec hnamed hlist "src" false).2.2.2.2 fun child inside hentry _ => ?_
  have hname : child = "src" := by
    simp only [entries, List.mem_cons, Prod.mk.injEq, reduceCtorEq, and_false, or_false,
      List.not_mem_nil] at hentry
    exact hentry.1
  rw [hname]
  decide +kernel

/-- The directory in the deepest one is not found as a directory. -/
theorem not_keepsPromise :
    ¬ ∀ (fs : FileSystem) (directory : Path) (entries : List (String × Node)) (name : String)
      (directories : Bool), fs.ProperlyNamed → fs.list directory = .ok entries →
      KeepsPromise fs directory entries name directories := by
  intro hall
  have hnamed := FileSystem.properlyNamed_narrow
  have hlist := FileSystem.list_deepestPath
  have hentry : ("s", .directory []) ∈ [("s", Node.directory [])] := List.mem_cons_self
  have hmem : .ofText "s" ∈ rawNames [("s", .directory [])] := List.mem_cons_self
  have hkind : isListedDirectory [("s", .directory [])] (.ofText "s") = true := by
    rw [isListedDirectory, RawText.lossy_ofText]
    rfl
  have hself := choose_self (self_mem_candidates_iff.mpr ⟨hmem, hkind⟩)
  have hsame := (keepsPromise_iff hlist).mp (hall _ _ _ "s" true hnamed hlist)
  have hagree := choose_eq_choose_iff.mp hsame (.ofText "s") (.inr hself)
  exact FileSystem.not_fits_below_deepestPath (by decide)
    ((isDirectoryIn_eq_iff hnamed hlist hentry).mp hagree rfl)

end Capitalization

end SourceServer
