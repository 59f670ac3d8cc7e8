import SourceServer.Proofs.Link.Root
import SourceServer.Proofs.Path.AsciiCase

/-!
# Relative paths

An entry shows a path without the root in front, or the whole path if it stands outside the root,
and without leading slashes. Paths on one side of the root are told apart by what is shown of them;
a path outside the root may show the text that a path below the root shows, and paths that are no
texts may be shown alike.

- `Remote.relativePath_eq_iff`: when two texts are shown alike.
- `relativePaths_of_components_ne`: which paths are told apart.
-/

namespace SourceServer

/-! ## What is shown -/

namespace Remote

/-- A character as an entry shows it. -/
def shownChar (remote : Remote) (c : Char) : Char :=
  if isSeparator c then if remote.usesBackslashes then '\\' else '/' else c

theorem isSeparator_shownChar (remote : Remote) (c : Char) :
    isSeparator (remote.shownChar c) = isSeparator c := by
  rw [shownChar]
  split
  · rename_i hc
    rw [hc]
    split <;> rfl
  · rfl

theorem isSeparator_eq {c : Char} (h : c ≠ '\\') : isSeparator c = (c == '/') := by
  simp [isSeparator, h]

/-- Two characters other than the backslash are shown differently. -/
theorem shownChar_inj (remote : Remote) {c d : Char} (hc : c ≠ '\\') (hd : d ≠ '\\') :
    remote.shownChar c = remote.shownChar d ↔ c = d := by
  refine ⟨fun h => ?_, congrArg remote.shownChar⟩
  have hseparator : (c == '/') = (d == '/') := by
    rw [← isSeparator_eq hc, ← isSeparator_eq hd, ← isSeparator_shownChar remote, h,
      isSeparator_shownChar]
  by_cases hslash : c = '/'
  · have hslash' : d = '/' := by simpa [hslash] using hseparator
    rw [hslash, hslash']
  · have hslash' : d ≠ '/' := by simpa [hslash] using hseparator
    rwa [shownChar, shownChar, isSeparator_eq hc, isSeparator_eq hd, if_neg (by simpa using hslash),
      if_neg (by simpa using hslash')] at h

theorem map_shownChar_inj (remote : Remote) {s t : List Char} (hs : '\\' ∉ s) (ht : '\\' ∉ t) :
    s.map remote.shownChar = t.map remote.shownChar ↔ s = t := by
  induction s generalizing t with
  | nil => cases t <;> simp
  | cons c s ih =>
    cases t with
    | nil => simp
    | cons d t =>
      rw [List.mem_cons, not_or] at hs ht
      rw [List.map_cons, List.map_cons, List.cons.injEq, List.cons.injEq, ih hs.2 ht.2,
        remote.shownChar_inj (Ne.symm hs.1) (Ne.symm ht.1)]

theorem dropWhile_isSeparator {text : List Char} (h : '\\' ∉ text) :
    text.dropWhile isSeparator = text.dropWhile (· == '/') := by
  induction text with
  | nil => rfl
  | cons c text ih =>
    rw [List.mem_cons, not_or] at h
    rw [List.dropWhile_cons, List.dropWhile_cons, isSeparator_eq (Ne.symm h.1), ih h.2]

/-- Texts without backslashes are shown alike when they differ in leading slashes only. -/
theorem relativePath_eq_iff (remote : Remote) {s t : String} (hs : '\\' ∉ s.toList)
    (ht : '\\' ∉ t.toList) :
    remote.relativePath s = remote.relativePath t
      ↔ s.toList.dropWhile (· == '/') = t.toList.dropWhile (· == '/') := by
  have hshown : ∀ {text : String}, '\\' ∉ text.toList → (remote.relativePath text).toList
      = (text.toList.dropWhile (· == '/')).map remote.shownChar := by
    intro text htext
    have hkept : isSeparator ∘ remote.shownChar = isSeparator :=
      funext (isSeparator_shownChar remote)
    rw [relativePath, String.toList_ofList, ← dropWhile_isSeparator htext, ← hkept,
      ← List.dropWhile_map, hkept]
    rfl
  have hfree : ∀ {text : List Char}, '\\' ∉ text → '\\' ∉ text.dropWhile (· == '/') :=
    fun htext hmem => htext ((List.dropWhile_suffix _).subset hmem)
  rw [← String.toList_inj, hshown hs, hshown ht, remote.map_shownChar_inj (hfree hs) (hfree ht)]

end Remote

/-! ## Which paths are told apart -/

section Apart

variable {root a b : Path} {rest other : List Char}

/-- The steps of a path below a root are those of the root and those of the rest. -/
theorem steps_lower_of_below (h : Below root a.text rest) (hfree : '\\' ∉ a.text.toList) :
    (FileSystem.steps a).map Ascii.lower
      = (FileSystem.steps ⟨String.ofList (trimmedRoot root)⟩).map Ascii.lower
        ++ (FileSystem.steps ⟨String.ofList rest⟩).map Ascii.lower := by
  obtain ⟨front, hsplit, hlower⟩ := h.split
  have htext : a = ⟨String.ofList (front ++ rest)⟩ := by
    rw [← hsplit, String.ofList_toList]
  have hslash : ∀ c ∈ rest.head?, c = '/' := by
    intro c hc
    have hmem : c ∈ a.text.toList := by
      rw [hsplit]
      exact List.mem_append_right front (List.mem_of_head? hc)
    have hne : c ≠ '\\' := by
      rintro rfl
      exact hfree hmem
    have hseparator := h.bordered c hc
    rw [Remote.isSeparator_eq hne] at hseparator
    simpa using hseparator
  have hroot : Ascii.lower (String.ofList front) = Ascii.lower (String.ofList (trimmedRoot root)) := by
    simp [Ascii.lower, hlower]
  rw [htext, FileSystem.steps_append_bordered hslash, List.map_append, ← FileSystem.steps_lower,
    hroot, FileSystem.steps_lower]

/-- On one side of the root, what is left of two paths tells their steps apart. -/
theorem steps_lower_eq (ha : '\\' ∉ a.text.toList) (hb : '\\' ∉ b.text.toList)
    (hside : (∃ rest, Below root a.text rest) ↔ ∃ rest, Below root b.text rest)
    (h : (relativeToRoot a.text root).toList.dropWhile (· == '/')
      = (relativeToRoot b.text root).toList.dropWhile (· == '/')) :
    (FileSystem.steps a).map Ascii.lower = (FileSystem.steps b).map Ascii.lower := by
  have hleft : ∀ {s t : List Char}, s.dropWhile (· == '/') = t.dropWhile (· == '/') →
      FileSystem.steps ⟨String.ofList s⟩ = FileSystem.steps ⟨String.ofList t⟩ := by
    intro s t heq
    rw [← FileSystem.steps_dropSlashes, heq, FileSystem.steps_dropSlashes]
  by_cases hbelow : ∃ rest, Below root a.text rest
  · obtain ⟨rest, hrest⟩ := hbelow
    obtain ⟨other, hother⟩ := hside.mp ⟨rest, hrest⟩
    rw [relativeToRoot_of_below hrest, relativeToRoot_of_below hother, String.toList_ofList,
      String.toList_ofList] at h
    rw [steps_lower_of_below hrest ha, steps_lower_of_below hother hb, hleft h]
  · rw [relativeToRoot_of_outside hbelow, relativeToRoot_of_outside (mt hside.mpr hbelow)] at h
    have hsteps := hleft h
    rw [String.ofList_toList, String.ofList_toList] at hsteps
    rw [hsteps]

end Apart

/-- **Which paths share a relative path.** Paths are shown as texts, with a replacement for every part
that is not UTF-8. Plain paths without backslashes that differ by more than the case of ASCII letters
when they are shown are indexed under different relative paths if both stand below the root or both
outside it, and both are absolute or both relative. In general they share a relative path exactly
when what is left of them without the root, and without leading slashes, is the same text; for a path
outside the root this is the whole path. Paths that are shown alike share it always. -/
theorem relativePaths_of_components_ne (remote : Remote) (revision : String) (files : List RawText)
    (options : LinkOptions) (now : Timestamp) {i j : Nat} {a b : RawText} (hi : files[i]? = some a)
    (hj : files[j]? = some b) (ha : Path.IsPlain ⟨a.lossy⟩) (hb : Path.IsPlain ⟨b.lossy⟩)
    (hfree : '\\' ∉ a.lossy.toList) (hfree' : '\\' ∉ b.lossy.toList) :
    ∃ x y, (rawIndexContext remote revision files options now).paths[i]? = some (a.lossy, x)
      ∧ (rawIndexContext remote revision files options now).paths[j]? = some (b.lossy, y)
      ∧ (x = y ↔ (relativeToRoot a.lossy options.root).toList.dropWhile (· == '/')
        = (relativeToRoot b.lossy options.root).toList.dropWhile (· == '/'))
      ∧ (∀ rest, Below options.root a.lossy rest → (¬ ∃ other, Below options.root b.lossy other) →
        (x = y ↔ rest.dropWhile (· == '/') = b.lossy.toList.dropWhile (· == '/')))
      ∧ (((∃ rest, Below options.root a.lossy rest) ↔ ∃ rest, Below options.root b.lossy rest) →
        Path.isAbsolute ⟨a.lossy⟩ = Path.isAbsolute ⟨b.lossy⟩ →
        (Path.components ⟨a.lossy⟩).map Component.asciiLower
          ≠ (Path.components ⟨b.lossy⟩).map Component.asciiLower → x ≠ y)
      ∧ (a.lossy = b.lossy → x = y) := by
  have hshared := remote.relativePath_eq_iff
    (fun hmem => hfree ((relativeToRoot_suffix a.lossy options.root).subset hmem))
    (fun hmem => hfree' ((relativeToRoot_suffix b.lossy options.root).subset hmem))
  refine ⟨_, _, ?_, ?_, hshared, ?_, ?_, ?_⟩
  · rw [rawIndexContext, List.getElem?_map, hi]
    rfl
  · rw [rawIndexContext, List.getElem?_map, hj]
    rfl
  · intro rest hbelow houtside
    rw [hshared, relativeToRoot_of_below hbelow, relativeToRoot_of_outside houtside,
      String.toList_ofList]
  · intro hside habsolute hne hequal
    refine hne (Path.components_asciiLower_eq ha hb habsolute ?_)
    exact steps_lower_eq hfree hfree' hside (hshared.mp hequal)
  · intro hsame
    rw [hsame]

/-- Two files below a root. -/
theorem relativePaths_of_components_ne_siblings :
    Path.IsPlain ⟨"/repo/src/A.cs"⟩ ∧ Path.IsPlain ⟨"/repo/src/B.cs"⟩
      ∧ ∃ context x y, context = indexContext
            ⟨.gitHub "a" "b", "https://raw.githubusercontent.com/a/b/\x7b0\x7d/%var2%"⟩ "deadbeef"
            [⟨"/repo/src/A.cs"⟩, ⟨"/repo/src/B.cs"⟩] ⟨⟨"/Repo/"⟩, false, false, .lf⟩
            ⟨2024, 3, 5, 14, 7, 9⟩
          ∧ context.paths[0]? = some ("/repo/src/A.cs", x)
          ∧ context.paths[1]? = some ("/repo/src/B.cs", y) ∧ x ≠ y := by
  have hplain : Path.IsPlain ⟨"/repo/src/A.cs"⟩ := by decide
  have hplain' : Path.IsPlain ⟨"/repo/src/B.cs"⟩ := by decide
  have hborder : ∀ rest : List Char, ∀ c ∈ ('/' :: rest).head?, Remote.isSeparator c = true := by
    rintro rest _ ⟨rfl⟩
    rfl
  have hbelow : Below ⟨"/Repo/"⟩ "/repo/src/A.cs" "/src/A.cs".toList :=
    ⟨by decide, ⟨"/repo".toList, rfl, by decide⟩, hborder _⟩
  have hbelow' : Below ⟨"/Repo/"⟩ "/repo/src/B.cs" "/src/B.cs".toList :=
    ⟨by decide, ⟨"/repo".toList, rfl, by decide⟩, hborder _⟩
  have hdiffer : (Path.components ⟨"/repo/src/A.cs"⟩).map Component.asciiLower
      ≠ (Path.components ⟨"/repo/src/B.cs"⟩).map Component.asciiLower := by decide
  have hspec := relativePaths_of_components_ne
    ⟨.gitHub "a" "b", "https://raw.githubusercontent.com/a/b/\x7b0\x7d/%var2%"⟩ "deadbeef"
    [.ofText "/repo/src/A.cs", .ofText "/repo/src/B.cs"] ⟨⟨"/Repo/"⟩, false, false, .lf⟩
    ⟨2024, 3, 5, 14, 7, 9⟩ (i := 0) (j := 1) rfl rfl
  simp only [RawText.lossy_ofText] at hspec
  obtain ⟨x, y, hx, hy, -, -, hne, -⟩ := hspec hplain hplain' (by decide) (by decide)
  have hside : (∃ rest, Below ⟨"/Repo/"⟩ "/repo/src/A.cs" rest)
      ↔ ∃ rest, Below ⟨"/Repo/"⟩ "/repo/src/B.cs" rest :=
    iff_of_true ⟨_, hbelow⟩ ⟨_, hbelow'⟩
  exact ⟨hplain, hplain', _, x, y, rfl, hx, hy, hne hside (by decide) hdiffer⟩

/-- Two names that are not UTF-8, in one directory below the root. -/
example :
    (rawIndexContext ⟨.gitHub "a" "b", "https://raw.githubusercontent.com/a/b/\x7b0\x7d/%var2%"⟩
      "deadbeef" [⟨Utf8.encode "/r/" ++ [0xff]⟩, ⟨Utf8.encode "/r/" ++ [0xfe]⟩]
      ⟨⟨"/r"⟩, false, false, .lf⟩ ⟨2024, 3, 5, 14, 7, 9⟩).paths
        = [("/r/\ufffd", "\ufffd"), ("/r/\ufffd", "\ufffd")] := by
  decide +kernel

/-- Plain files without backslashes that differ by more than the case of ASCII letters are indexed
under different relative paths. -/
def RelativePathsDiffer (remote : Remote) (revision : String) (files : List Path)
    (options : LinkOptions) (now : Timestamp) : Prop :=
  options.root.text ≠ "" → ∀ (i j : Nat) (a b : Path) (x y : String),
    files[i]? = some a → files[j]? = some b → a.IsPlain → b.IsPlain →
    '\\' ∉ a.text.toList → '\\' ∉ b.text.toList →
    a.components.map Component.asciiLower ≠ b.components.map Component.asciiLower →
    (indexContext remote revision files options now).paths[i]? = some (a.text, x) →
    (indexContext remote revision files options now).paths[j]? = some (b.text, y) → x ≠ y

/-- A file at the top of the file system shares its relative path with the file of that name at the
root. -/
theorem not_relativePathsDiffer :
    ¬ RelativePathsDiffer
      ⟨.gitHub "a" "b", "https://raw.githubusercontent.com/a/b/\x7b0\x7d/%var2%"⟩ "deadbeef"
      [⟨"/repo/a.cs"⟩, ⟨"/a.cs"⟩] ⟨⟨"/repo"⟩, false, false, .lf⟩ ⟨2024, 3, 5, 14, 7, 9⟩ := by
  intro h
  refine h (by decide) 0 1 ⟨"/repo/a.cs"⟩ ⟨"/a.cs"⟩ "a.cs" "a.cs" rfl rfl (by decide) (by decide)
    (by decide) (by decide) (by decide) ?_ ?_ rfl
  · decide +kernel
  · decide +kernel

end SourceServer
