import Mathlib.Data.List.TakeDrop
import SourceServer.Proofs.Path.Tidy

/-!
# File names

The file name of a path is its last component, when this is a name. In the text something may follow
it: slashes, and points that stand for the same directory. A text that ends with neither ends with
its file name.

- `Path.fileName?_eq_some_iff`: the file name among the components.
- `Path.exists_idle_of_fileName?`: where the file name stands in the text.
- `Path.EndsInName`: texts that end with their file name.
- `Path.extension?_eq_some_iff`: the extension is what follows the last point of the file name.
-/

namespace SourceServer

namespace Path

variable {p : Path} {pieces : List (List Char)} {name : String}

/-! ## Pieces that count -/

theorem dropIdle_append (pieces : List (List Char)) :
    ∃ idle, pieces = dropIdle pieces ++ idle ∧ ∀ piece ∈ idle, isIdle piece = true := by
  refine ⟨(pieces.reverse.takeWhile isIdle).reverse, ?_, ?_⟩
  · rw [dropIdle, ← List.reverse_append, List.takeWhile_append_dropWhile, List.reverse_reverse]
  · intro piece hpiece
    rw [List.mem_reverse] at hpiece
    exact List.all_eq_true.mp List.all_takeWhile piece hpiece

/-- The last of the pieces that are kept counts. -/
theorem isIdle_of_getLast?_dropIdle {last : List Char}
    (h : (dropIdle pieces).getLast? = some last) : isIdle last = false := by
  have hfirst := List.head?_dropWhile_not isIdle pieces.reverse
  rw [dropIdle, List.getLast?_reverse] at h
  rw [h] at hfirst
  exact hfirst

/-- Pieces that do not count at the end add nothing. -/
theorem flatMap_dropIdle (pieces : List (List Char)) :
    (dropIdle pieces).flatMap pieceComponent = pieces.flatMap pieceComponent := by
  obtain ⟨idle, hpieces, hidle⟩ := dropIdle_append pieces
  have hall := congrArg (List.flatMap pieceComponent) hpieces
  rw [List.flatMap_append, flatMap_pieceComponent_of_isIdle hidle, List.append_nil] at hall
  exact hall.symm

/-! ## The last component -/

/-- The file name is the last component, when this is a name. -/
theorem fileName?_eq_some_iff :
    p.fileName? = some name ↔ p.components.getLast? = some (.name name) := by
  rw [fileName?, components, ← flatMap_dropIdle]
  cases hlast : (dropIdle p.pieces).getLast? with
  | none =>
    refine iff_of_false (by simp) ?_
    rw [List.getLast?_eq_none_iff] at hlast
    rw [hlast, List.flatMap_nil, List.append_nil]
    intro hname
    exact name_notMem_headComponent _ name (List.mem_of_getLast? hname)
  | some piece =>
    have hidle := isIdle_of_getLast?_dropIdle hlast
    obtain ⟨before, hpieces⟩ := List.getLast?_eq_some_iff.mp hlast
    rw [hpieces, List.flatMap_append, List.flatMap_singleton, ← List.append_assoc]
    by_cases hup : piece = ['.', '.']
    · have hcomponent : pieceComponent piece = [.up] := by
        rw [pieceComponent, hidle, hup]
        rfl
      rw [hcomponent, List.getLast?_concat]
      simp [hup]
    · have hcomponent : pieceComponent piece = [.name (String.ofList piece)] := by
        rw [pieceComponent, hidle, if_neg hup]
        rfl
      rw [hcomponent, List.getLast?_concat]
      simp [hup]

/-! ## The end of the text -/

/-- Pieces with slashes between them, parted at one of them. -/
theorem exists_front_of_intercalate (before : List (List Char)) (piece : List Char)
    (idle : List (List Char)) :
    ∃ front, ['/'].intercalate (before ++ piece :: idle)
      = front ++ piece ++ idle.flatMap fun other => '/' :: other := by
  have hbehind : ∀ (piece : List Char) (idle : List (List Char)),
      ['/'].intercalate (piece :: idle) = piece ++ idle.flatMap fun other => '/' :: other := by
    intro piece idle
    induction idle generalizing piece with
    | nil => simp [List.intercalate]
    | cons other idle ih =>
      rw [List.intercalate_cons_cons, ih other, List.flatMap_cons, List.append_assoc]
      rfl
  induction before with
  | nil => exact ⟨[], hbehind piece idle⟩
  | cons first before ih =>
    obtain ⟨front, hfront⟩ := ih
    refine ⟨first ++ '/' :: front, ?_⟩
    cases before with
    | nil =>
      rw [List.nil_append] at hfront
      rw [List.cons_append, List.nil_append, List.intercalate_cons_cons, hfront]
      simp
    | cons second before =>
      rw [List.cons_append, List.cons_append, List.intercalate_cons_cons, ← List.cons_append,
        hfront]
      simp

/-- In the text of a path, only pieces that do not count follow the file name. -/
theorem exists_idle_of_fileName? (h : p.fileName? = some name) :
    ∃ front idle, p.text.toList = front ++ name.toList ++ List.flatMap (fun piece => '/' :: piece) idle
      ∧ ∀ piece ∈ idle, isIdle piece = true := by
  rw [fileName?] at h
  cases hlast : (dropIdle p.pieces).getLast? with
  | none =>
    rw [hlast] at h
    cases h
  | some piece =>
    have hname : name.toList = piece := by
      rw [hlast] at h
      by_cases hup : piece = ['.', '.']
      · simp [hup] at h
      · simp only [if_neg hup, Option.some.injEq] at h
        rw [← h, String.toList_ofList]
    obtain ⟨before, hkept⟩ := List.getLast?_eq_some_iff.mp hlast
    obtain ⟨idle, hpieces, hidle⟩ := dropIdle_append p.pieces
    rw [hkept, List.append_assoc, List.singleton_append] at hpieces
    obtain ⟨front, hfront⟩ := exists_front_of_intercalate before piece idle
    refine ⟨(splitHead p.text.toList).1 ++ front, idle, ?_, hidle⟩
    have hbody : (splitHead p.text.toList).2
        = front ++ piece ++ idle.flatMap fun other => '/' :: other := by
      rw [← hfront, ← hpieces, Path.pieces, List.intercalate_splitOn]
    have htext := splitHead_append p.text.toList
    rw [hbody, ← List.append_assoc, ← List.append_assoc] at htext
    rw [hname]
    exact htext.symm

/-- A text that ends with neither a slash nor a point behind one. -/
structure EndsInName (p : Path) : Prop where
  not_slash : ¬ ['/'] <:+ p.text.toList
  not_point : ¬ ['/', '.'] <:+ p.text.toList

/-- Such a text ends with the file name. -/
theorem EndsInName.suffix (hp : p.EndsInName) (h : p.fileName? = some name) :
    name.toList <:+ p.text.toList := by
  obtain ⟨front, idle, htext, hidle⟩ := exists_idle_of_fileName? h
  rcases List.eq_nil_or_concat idle with rfl | ⟨others, last, rfl⟩
  · rw [htext]
    exact ⟨front, by simp⟩
  · have hend : ('/' :: last) <:+ p.text.toList := by
      rw [htext, List.concat_eq_append, List.flatMap_append, List.flatMap_singleton,
        ← List.append_assoc]
      exact List.suffix_append _ _
    have hlast := hidle last (by simp)
    simp only [isIdle, Bool.or_eq_true, beq_iff_eq] at hlast
    rcases hlast with rfl | rfl
    · exact absurd hend hp.not_slash
    · exact absurd hend hp.not_point

/-! ## The extension -/

/-- The extension of a path is what follows the last point of its file name. -/
theorem extension?_eq_some_iff {ending : String} (hname : p.fileName? = some name) :
    p.extension? = some ending
      ↔ '.' ∉ ending.toList ∧ ∃ stem, stem ≠ "" ∧ name = stem ++ "." ++ ending := by
  rw [extension?, hname]
  dsimp only
  rw [List.span_eq_takeWhile_dropWhile]
  constructor
  · intro h
    have hsplit := List.takeWhile_append_dropWhile (p := (· != '.')) (l := name.toList.reverse)
    have hfirst := List.head?_dropWhile_not (· != '.') name.toList.reverse
    have hfree : ∀ c ∈ name.toList.reverse.takeWhile (· != '.'), (c != '.') = true :=
      fun c hc => List.all_eq_true.mp List.all_takeWhile c hc
    split at h
    · cases h
    · cases h
    · rename_i reversed point before hne heq
      obtain ⟨hreversed, hbefore⟩ := Prod.mk.inj heq
      rw [hreversed] at hsplit hfree
      rw [hbefore] at hsplit hfirst
      cases before with
      | nil => exact absurd rfl hne
      | cons c before =>
        obtain rfl : ending = String.ofList reversed.reverse := (Option.some.inj h).symm
        obtain rfl : point = '.' := by simpa using hfirst
        refine ⟨fun hmem => ?_, String.ofList (c :: before).reverse, ?_, ?_⟩
        · rw [String.toList_ofList, List.mem_reverse] at hmem
          simpa using hfree '.' hmem
        · rw [Ne, ← String.toList_eq_nil_iff, String.toList_ofList]
          simp
        · apply String.toList_inj.mp
          rw [← List.reverse_inj, ← hsplit]
          simp
  · rintro ⟨hpoint, stem, hstem, rfl⟩
    have hreverse : (stem ++ "." ++ ending).toList.reverse
        = ending.toList.reverse ++ '.' :: stem.toList.reverse := by
      simp
    have hfree : ∀ c ∈ ending.toList.reverse, (c != '.') = true := by
      intro c hc
      rw [bne_iff_ne]
      rintro rfl
      exact hpoint (List.mem_reverse.mp hc)
    have hrest : stem.toList.reverse ≠ [] := by
      rw [Ne, List.reverse_eq_nil_iff, String.toList_eq_nil_iff]
      exact hstem
    rw [hreverse, List.takeWhile_append_of_pos hfree, List.dropWhile_append_of_pos hfree]
    cases hcases : stem.toList.reverse with
    | nil => exact absurd hcases hrest
    | cons c before => simp

end Path

end SourceServer
