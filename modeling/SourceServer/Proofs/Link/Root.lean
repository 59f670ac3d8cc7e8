import SourceServer.Link
import SourceServer.Proofs.Text.Cut
import SourceServer.Proofs.Unicode.Utf8

/-!
# Taking the root off

The root is taken off a path by its size: where the path has a position behind as many bytes as the
root has, what stands in front of it is compared with the root. ASCII case does not change the size
of a letter, so a root that stands in front in any case is found, and what is cut off is what it is
followed by. Elsewhere the position may fall inside a character, and then there is nothing to compare.

- `Below`: what stands below a root.
- `cutRoot?_of_below`, `cutRoot?_of_outside`: the two outcomes of a cut.
- `relativeToRoot_of_below`, `relativeToRoot_of_outside`, `relativeToRoot_suffix`: what is left.
- `entryPaths_eq`: the entry of a path.
- `relativeToRoot_congr`: roots that cannot be told apart.
- `relativeToRoot_spec`: all of it.
-/

namespace SourceServer

/-- A text that is the root, whose letters may differ in ASCII case, and then `rest`. The root ends
where a name ends. -/
structure Below (root : Path) (text : String) (rest : List Char) : Prop where
  root_ne_empty : root.text ≠ ""
  split : ∃ front, text.toList = front ++ rest
    ∧ front.map Ascii.lowerChar = (trimmedRoot root).map Ascii.lowerChar
  bordered : ∀ c ∈ rest.head?, Remote.isSeparator c = true

theorem isBordered_iff {text : List Char} :
    isBordered text = true ↔ ∀ c ∈ text.head?, Remote.isSeparator c = true := by
  cases text with
  | nil => exact iff_of_true rfl nofun
  | cons c rest => simp [isBordered]

theorem Ascii.equalIgnoringCase_ofList_iff {a b : List Char} :
    equalIgnoringCase (String.ofList a) (String.ofList b) = true
      ↔ a.map lowerChar = b.map lowerChar := by
  rw [equalIgnoringCase, String.toList_ofList, String.toList_ofList, beq_iff_eq]

variable {root other : Path} {text : String} {rest : List Char}

/-! ## Cuts -/

/-- A path below the root is cut behind the root. -/
theorem Below.split? (h : Below root text rest) :
    ∃ front, Cut.split? text.toList (String.ofList (trimmedRoot root)).utf8ByteSize
        = some (front, rest)
      ∧ Ascii.equalIgnoringCase (String.ofList front) (String.ofList (trimmedRoot root)) = true := by
  obtain ⟨front, hsplit, hlower⟩ := h.split
  have hequal := Ascii.equalIgnoringCase_ofList_iff.mpr hlower
  exact ⟨front, Cut.split?_eq_some_iff.mpr
    ⟨hsplit, Ascii.utf8ByteSize_eq_of_equalIgnoringCase hequal⟩, hequal⟩

theorem cutRoot?_of_below (h : Below root text rest) :
    cutRoot? text root = some (String.ofList rest) := by
  obtain ⟨front, hsplit, hequal⟩ := h.split?
  rw [cutRoot?, if_neg h.root_ne_empty]
  simp only [Cut.before?, Cut.behind?, hsplit, Option.map_some, hequal, if_true,
    isBordered_iff.mpr h.bordered]

/-- Outside the root there is nothing to cut off, or what stands in front is not the root, or the
root goes on as another name. -/
theorem cutRoot?_of_outside (h : ¬ ∃ rest, Below root text rest) : cutRoot? text root = some text := by
  rw [cutRoot?]
  split
  · rfl
  · rename_i hroot
    dsimp only [Cut.before?, Cut.behind?]
    cases hsplit : Cut.split? text.toList (String.ofList (trimmedRoot root)).utf8ByteSize with
    | none => rfl
    | some sides =>
      obtain ⟨front, behind⟩ := sides
      dsimp only [Option.map_some]
      split
      · rename_i hequal
        have hborder : isBordered behind ≠ true := fun hbordered =>
          h ⟨behind, hroot, ⟨front, (Cut.split?_eq_some_iff.mp hsplit).1,
            Ascii.equalIgnoringCase_ofList_iff.mp hequal⟩, isBordered_iff.mp hbordered⟩
        rw [if_neg hborder]
      · rfl

/-! ## What is left -/

theorem relativeToRoot_eq {left : String} (h : cutRoot? text root = some left) :
    relativeToRoot text root = left :=
  Option.get_of_eq_some _ h

/-- Below the root, what follows it is kept. -/
theorem relativeToRoot_of_below (h : Below root text rest) :
    relativeToRoot text root = String.ofList rest :=
  relativeToRoot_eq (cutRoot?_of_below h)

/-- Outside the root the whole text is kept. -/
theorem relativeToRoot_of_outside (h : ¬ ∃ rest, Below root text rest) :
    relativeToRoot text root = text :=
  relativeToRoot_eq (cutRoot?_of_outside h)

/-- The empty root leaves every text as it is. -/
theorem relativeToRoot_of_empty (h : root.text = "") : relativeToRoot text root = text := by
  refine relativeToRoot_of_outside ?_
  rintro ⟨rest, hbelow⟩
  exact hbelow.root_ne_empty h

/-- Taking the root off leaves an end of the path. -/
theorem relativeToRoot_suffix (path : String) (root : Path) :
    (relativeToRoot path root).toList <:+ path.toList := by
  by_cases hbelow : ∃ rest, Below root path rest
  · obtain ⟨rest, hrest⟩ := hbelow
    obtain ⟨front, hsplit, -⟩ := hrest.split
    rw [relativeToRoot_of_below hrest, String.toList_ofList, hsplit]
    exact List.suffix_append front rest
  · exact ⟨[], by rw [relativeToRoot_of_outside hbelow, List.nil_append]⟩

/-- The entry of a path that is a text. -/
theorem entryPaths_eq (remote : Remote) (root file : Path) :
    entryPaths remote root file
      = (file.text, remote.relativePath (relativeToRoot file.text root)) := by
  rw [entryPaths, rawEntryPaths, Path.lossy_raw]

/-! ## Roots that cannot be told apart -/

/-- What is below a root is below every root that agrees with it, unless this one is empty: then
the whole text is left by both. -/
theorem relativeToRoot_of_below_other (h : Below root text rest)
    (hsame : (trimmedRoot root).map Ascii.lowerChar = (trimmedRoot other).map Ascii.lowerChar) :
    relativeToRoot text other = String.ofList rest := by
  obtain ⟨front, hsplit, hlower⟩ := h.split
  by_cases hother : other.text = ""
  · have hempty : trimmedRoot other = [] := by
      rw [trimmedRoot, hother]
      rfl
    rw [hsame, hempty, List.map_nil, List.map_eq_nil_iff] at hlower
    rw [relativeToRoot_of_empty hother, ← String.toList_inj, String.toList_ofList, hsplit, hlower,
      List.nil_append]
  · exact relativeToRoot_of_below ⟨hother, ⟨front, hsplit, hlower.trans hsame⟩, h.bordered⟩

/-- Roots that agree up to ASCII case but for the separators at their end leave the same. -/
theorem relativeToRoot_congr
    (hsame : (trimmedRoot root).map Ascii.lowerChar = (trimmedRoot other).map Ascii.lowerChar) :
    relativeToRoot text root = relativeToRoot text other := by
  by_cases hroot : ∃ rest, Below root text rest
  · obtain ⟨rest, hrest⟩ := hroot
    rw [relativeToRoot_of_below hrest, relativeToRoot_of_below_other hrest hsame]
  · by_cases hother : ∃ rest, Below other text rest
    · obtain ⟨rest, hrest⟩ := hother
      rw [relativeToRoot_of_below hrest, relativeToRoot_of_below_other hrest hsame.symm]
    · rw [relativeToRoot_of_outside hroot, relativeToRoot_of_outside hother]

/-- **What is left of a path when a root is taken off.** A path that is the root without its final
separators, in any ASCII case, and then nothing or a separator and more, is left with what follows
the root. Every other path is left as it is. Whatever characters the path and the root consist of, no
cut falls inside one of them: the size of the root is looked for among the positions of the path, and
the path is not cut if it is none. Roots that agree up to ASCII case, but for separators at their
end, leave the same. -/
theorem relativeToRoot_spec (path : String) (root : Path) :
    (∀ rest, Below root path rest → relativeToRoot path root = String.ofList rest)
      ∧ ((¬ ∃ rest, Below root path rest) → relativeToRoot path root = path)
      ∧ cutRoot? path root = some (relativeToRoot path root)
      ∧ ((Cut.before? path.toList (String.ofList (trimmedRoot root)).utf8ByteSize).isSome = true
        ↔ String.Pos.Raw.IsValid path ⟨(String.ofList (trimmedRoot root)).utf8ByteSize⟩)
      ∧ ∀ other : Path, Ascii.equalIgnoringCase (String.ofList (trimmedRoot root))
          (String.ofList (trimmedRoot other)) = true →
        relativeToRoot path root = relativeToRoot path other := by
  refine ⟨fun rest => relativeToRoot_of_below, relativeToRoot_of_outside, ?_, ?_,
    fun other hsame => ?_⟩
  · exact (Option.some_get (isSome_cutRoot? path root)).symm
  · rw [Cut.isSome_before?_iff, String.ofList_toList]
  · exact relativeToRoot_congr (Ascii.equalIgnoringCase_ofList_iff.mp hsame)

/-- Behind the four bytes of the root there is no position in the first path, and another name in
the second one. -/
example :
    relativeToRoot "/a€/b.cs" ⟨"/aé/"⟩ = "/a€/b.cs"
      ∧ relativeToRoot "/aéb/b.cs" ⟨"/aé/"⟩ = "/aéb/b.cs"
      ∧ relativeToRoot "/Aé/b.cs" ⟨"/aé/"⟩ = "/b.cs" := by
  decide

end SourceServer
