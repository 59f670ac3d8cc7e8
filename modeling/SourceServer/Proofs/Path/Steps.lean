import SourceServer.FileSystem

/-!
# Steps of a path

The components of a path are its meaning, and the steps are what a file system follows. The names
among the components are the steps but for the points, so what is known of the names holds along the
walk.

- `Path.name_mem_components_iff`: names and steps.
- `FileSystem.steps_join`: the steps of a path taken from a directory.
- `FileSystem.steps_append`, `Path.fileName?_append`: a text put behind the last name.
-/

namespace SourceServer

/-! ## Pieces between slashes -/

/-- The last piece between the slashes of a text takes up what is put behind the text. -/
theorem splitOn_append (text : List Char) :
    ∃ before last, '/' ∉ last ∧ text.splitOn '/' = before ++ [last]
      ∧ ∀ tail, '/' ∉ tail → (text ++ tail).splitOn '/' = before ++ [last ++ tail] := by
  -- a character in front begins a new piece or goes to the first one, and both are as before
  -- what is put behind
  induction text with
  | nil => exact ⟨[], [], by simp, rfl, fun tail htail => List.splitOn_eq_singleton htail⟩
  | cons c text ih =>
    obtain ⟨before, last, hlast, hsplit, hbehind⟩ := ih
    by_cases hc : c = '/'
    · refine ⟨[] :: before, last, hlast, ?_, fun tail htail => ?_⟩
      · rw [List.splitOn_cons_eq_if_modifyHead, if_pos (by simp [hc]), hsplit, List.cons_append]
      · rw [List.cons_append, List.splitOn_cons_eq_if_modifyHead, if_pos (by simp [hc]),
          hbehind tail htail, List.cons_append]
    · cases before with
      | nil =>
        refine ⟨[], c :: last, by simp [Ne.symm hc, hlast], ?_, fun tail htail => ?_⟩
        · rw [List.splitOn_cons_eq_if_modifyHead, if_neg (by simp [hc]), hsplit]
          rfl
        · rw [List.cons_append, List.splitOn_cons_eq_if_modifyHead, if_neg (by simp [hc]),
            hbehind tail htail]
          rfl
      | cons first before =>
        refine ⟨(c :: first) :: before, last, hlast, ?_, fun tail htail => ?_⟩
        · rw [List.splitOn_cons_eq_if_modifyHead, if_neg (by simp [hc]), hsplit]
          rfl
        · rw [List.cons_append, List.splitOn_cons_eq_if_modifyHead, if_neg (by simp [hc]),
            hbehind tail htail]
          rfl

/-- No piece holds a slash. -/
theorem slash_notMem_piece {text piece : List Char} (h : piece ∈ text.splitOn '/') :
    '/' ∉ piece := by
  induction text generalizing piece with
  | nil =>
    rw [List.splitOn_nil, List.mem_singleton] at h
    simp [h]
  | cons c text ih =>
    rw [List.splitOn_cons_eq_if_modifyHead] at h
    split at h
    · rcases List.mem_cons.mp h with rfl | h
      · simp
      · exact ih h
    · rename_i hc
      cases hsplit : text.splitOn '/' with
      | nil => exact absurd hsplit (List.splitOn_ne_nil '/' text)
      | cons first rest =>
        rw [hsplit] at h ih
        rcases List.mem_cons.mp h with rfl | h
        · have hfirst := ih List.mem_cons_self
          simp only [beq_iff_eq] at hc
          simp [Ne.symm hc, hfirst]
        · exact ih (List.mem_cons_of_mem first h)

/-- A character of a piece is one of the text. -/
theorem mem_of_mem_piece {text piece : List Char} (h : piece ∈ text.splitOn '/') {c : Char}
    (hc : c ∈ piece) : c ∈ text := by
  induction text generalizing piece with
  | nil =>
    rw [List.splitOn_nil, List.mem_singleton] at h
    rwa [h] at hc
  | cons d text ih =>
    rw [List.splitOn_cons_eq_if_modifyHead] at h
    split at h
    · rcases List.mem_cons.mp h with rfl | h
      · cases hc
      · exact List.mem_cons_of_mem d (ih h hc)
    · cases hsplit : text.splitOn '/' with
      | nil => exact absurd hsplit (List.splitOn_ne_nil '/' text)
      | cons first rest =>
        rw [hsplit] at h ih
        rcases List.mem_cons.mp h with rfl | h
        · rcases List.mem_cons.mp hc with rfl | hc
          · exact List.mem_cons_self
          · exact List.mem_cons_of_mem d (ih List.mem_cons_self hc)
        · exact List.mem_cons_of_mem d (ih (List.mem_cons_of_mem first h) hc)

/-- A character that is no slash is in one of the pieces. -/
theorem exists_piece_of_mem {text : List Char} {c : Char} (hc : c ∈ text) (hslash : c ≠ '/') :
    ∃ piece ∈ text.splitOn '/', c ∈ piece := by
  induction text with
  | nil => cases hc
  | cons d text ih =>
    rw [List.splitOn_cons_eq_if_modifyHead]
    rcases List.mem_cons.mp hc with rfl | hc
    · rw [if_neg (by simpa using hslash)]
      cases hsplit : text.splitOn '/' with
      | nil => exact absurd hsplit (List.splitOn_ne_nil '/' text)
      | cons first rest => exact ⟨c :: first, List.mem_cons_self, List.mem_cons_self⟩
    · obtain ⟨piece, hpiece, hmem⟩ := ih hc
      split
      · exact ⟨piece, List.mem_cons_of_mem [] hpiece, hmem⟩
      · cases hsplit : text.splitOn '/' with
        | nil => exact absurd hsplit (List.splitOn_ne_nil '/' text)
        | cons first rest =>
          rw [hsplit] at hpiece
          rcases List.mem_cons.mp hpiece with rfl | hpiece
          · exact ⟨d :: piece, List.mem_cons_self, List.mem_cons_of_mem d hmem⟩
          · exact ⟨piece, List.mem_cons_of_mem (d :: first) hpiece, hmem⟩

namespace Path

theorem isIdle_eq_false {piece : List Char} :
    isIdle piece = false ↔ piece ≠ [] ∧ piece ≠ ['.'] := by
  simp [isIdle]

/-- The body of a path has the pieces of the whole text, but for such as do not count in front. -/
theorem exists_common_pieces (p : Path) :
    ∃ front before rest, (∀ piece ∈ front, isIdle piece = true)
      ∧ (∀ piece ∈ before, isIdle piece = true)
      ∧ p.text.toList.splitOn '/' = front ++ rest ∧ p.pieces = before ++ rest := by
  rw [pieces]
  unfold splitHead
  split
  · rename_i rest htext
    refine ⟨[[]], [], rest.splitOn '/', by simp [isIdle], by simp, ?_, rfl⟩
    rw [htext, List.splitOn_cons_eq_if_modifyHead]
    rfl
  · rename_i htext
    refine ⟨[['.']], [[]], [], by simp [isIdle], by simp [isIdle], ?_, rfl⟩
    rw [htext]
    rfl
  · rename_i rest htext
    refine ⟨[['.']], [[]], rest.splitOn '/', by simp [isIdle], by simp [isIdle], ?_, ?_⟩
    · rw [htext, List.splitOn_cons_eq_if_modifyHead, List.splitOn_cons_eq_if_modifyHead]
      rfl
    · rw [List.splitOn_cons_eq_if_modifyHead]
      rfl
  · exact ⟨[], [], _, by simp, by simp, rfl, rfl⟩

/-- A last piece that counts is the last one of the body. -/
theorem exists_pieces_concat {p : Path} {others : List (List Char)} {last : List Char}
    (hlast : isIdle last = false) (h : p.text.toList.splitOn '/' = others ++ [last]) :
    ∃ others, p.pieces = others ++ [last] := by
  obtain ⟨front, before, rest, hfront, -, hsplit, hpieces⟩ := p.exists_common_pieces
  rw [h] at hsplit
  rcases List.eq_nil_or_concat rest with rfl | ⟨rest, final, rfl⟩
  · -- the body is not empty, for the last piece is none that does not count
    have hmem : last ∈ front := by
      rw [List.append_nil] at hsplit
      rw [← hsplit]
      exact List.mem_append_right others (List.mem_singleton_self last)
    rw [hfront last hmem] at hlast
    cases hlast
  · rw [List.concat_eq_append, ← List.append_assoc] at hsplit hpieces
    rw [(List.append_inj' hsplit rfl).2] at *
    exact ⟨_, hpieces⟩

theorem dropIdle_concat (others : List (List Char)) {last : List Char}
    (h : isIdle last = false) : dropIdle (others ++ [last]) = others ++ [last] := by
  rw [dropIdle, List.reverse_append, List.reverse_singleton, List.singleton_append,
    List.dropWhile_cons_of_neg (by simp [h]), List.reverse_cons, List.reverse_reverse]

theorem mem_pieces_iff {p : Path} {piece : List Char} (h : isIdle piece = false) :
    piece ∈ p.pieces ↔ piece ∈ p.text.toList.splitOn '/' := by
  obtain ⟨front, before, rest, hfront, hbefore, hsplit, hpieces⟩ := p.exists_common_pieces
  rw [hsplit, hpieces, List.mem_append, List.mem_append]
  constructor
  · rintro (hmem | hmem)
    · rw [hbefore piece hmem] at h
      cases h
    · exact .inr hmem
  · rintro (hmem | hmem)
    · rw [hfront piece hmem] at h
      cases h
    · exact .inr hmem

theorem name_mem_pieceComponent_iff {piece : List Char} {name : String} :
    .name name ∈ pieceComponent piece
      ↔ isIdle piece = false ∧ piece ≠ ['.', '.'] ∧ name = String.ofList piece := by
  rw [pieceComponent]
  cases hidle : isIdle piece with
  | true => simp
  | false =>
    by_cases hup : piece = ['.', '.']
    · simp [hup]
    · simp [hup]

theorem name_notMem_headComponent (head : List Char) (name : String) :
    .name name ∉ headComponent head := by
  unfold headComponent
  split <;> simp

end Path

namespace FileSystem

theorem mem_steps_iff {p : Path} {step : String} :
    step ∈ steps p ↔ ∃ piece ∈ p.text.toList.splitOn '/', piece ≠ [] ∧ step = String.ofList piece
    := by
  simp only [steps, List.mem_map, List.mem_filter, decide_eq_true_eq, ne_eq]
  constructor
  · rintro ⟨piece, ⟨hpiece, hempty⟩, rfl⟩
    exact ⟨piece, hpiece, hempty, rfl⟩
  · rintro ⟨piece, hpiece, hempty, rfl⟩
    exact ⟨piece, ⟨hpiece, hempty⟩, rfl⟩

theorem slash_notMem_step {p : Path} {step : String} (h : step ∈ steps p) : '/' ∉ step.toList := by
  obtain ⟨piece, hpiece, -, rfl⟩ := mem_steps_iff.mp h
  rw [String.toList_ofList]
  exact slash_notMem_piece hpiece

end FileSystem

namespace Path

/-- The names among the components are the steps that are no points. -/
theorem name_mem_components_iff {p : Path} {name : String} :
    .name name ∈ p.components ↔ name ∈ FileSystem.steps p ∧ name ≠ "." ∧ name ≠ ".." := by
  have hhere : "." = String.ofList ['.'] := rfl
  have hup : ".." = String.ofList ['.', '.'] := rfl
  rw [components, List.mem_append, or_iff_right (name_notMem_headComponent _ name),
    List.mem_flatMap, FileSystem.mem_steps_iff, hhere, hup]
  constructor
  · rintro ⟨piece, hpiece, hname⟩
    obtain ⟨hidle, hpoints, rfl⟩ := name_mem_pieceComponent_iff.mp hname
    obtain ⟨hempty, hpoint⟩ := isIdle_eq_false.mp hidle
    refine ⟨⟨piece, (mem_pieces_iff hidle).mp hpiece, hempty, rfl⟩, ?_, ?_⟩
    · exact fun h => hpoint (String.ofList_injective h)
    · exact fun h => hpoints (String.ofList_injective h)
  · rintro ⟨⟨piece, hpiece, hempty, rfl⟩, hpoint, hpoints⟩
    have hidle : isIdle piece = false :=
      isIdle_eq_false.mpr ⟨hempty, fun h => hpoint (congrArg String.ofList h)⟩
    exact ⟨piece, (mem_pieces_iff hidle).mpr hpiece, name_mem_pieceComponent_iff.mpr
      ⟨hidle, fun h => hpoints (congrArg String.ofList h), rfl⟩⟩

end Path

/-! ## Paths put together -/

namespace FileSystem

theorem steps_of_splitOn {p : Path} {first second : List (List Char)}
    (h : p.text.toList.splitOn '/' = first ++ second) :
    steps p = (first.filter (· ≠ [])).map String.ofList
      ++ (second.filter (· ≠ [])).map String.ofList := by
  rw [steps, h, List.filter_append, List.map_append]

/-- A name is its own only step. -/
theorem steps_name {name : String} (hslash : '/' ∉ name.toList) (hempty : name ≠ "") :
    steps ⟨name⟩ = [name] := by
  have hcharacters : name.toList ≠ [] := fun h => hempty (String.toList_eq_nil_iff.mp h)
  simp [steps, List.splitOn_eq_singleton hslash, hcharacters]

/-- The steps of a path taken from a directory are those of the directory and its own. -/
theorem steps_join (directory p : Path) :
    steps (directory.join p) = if p.isAbsolute then steps p else steps directory ++ steps p := by
  rw [Path.join]
  split
  · rfl
  · split
    · rename_i hend
      rcases hend with hend | hend
      · -- nothing stands in front
        rw [steps, steps, steps, hend, String.toList_append]
        rfl
      · obtain ⟨front, hfront⟩ := List.getLast?_eq_some_iff.mp hend
        have hsplit : (directory.text ++ p.text).toList.splitOn '/'
            = front.splitOn '/' ++ p.text.toList.splitOn '/' := by
          rw [String.toList_append, hfront, List.append_assoc, List.singleton_append,
            List.splitOn_append_cons_self]
        have hdirectory : directory.text.toList.splitOn '/' = front.splitOn '/' ++ [[]] := by
          rw [hfront, List.splitOn_append_cons_self]
          rfl
        rw [steps_of_splitOn hsplit, steps_of_splitOn hdirectory, steps]
        simp
    · have hsplit : (directory.text ++ "/" ++ p.text).toList.splitOn '/'
          = directory.text.toList.splitOn '/' ++ p.text.toList.splitOn '/' := by
        rw [String.toList_append, String.toList_append, List.append_assoc]
        exact List.splitOn_append_cons_self _ _
      rw [steps_of_splitOn hsplit, steps, steps]

/-- Behind the text of a path, a longer text without slash becomes the end of the last step, and
this step is the file name. -/
theorem steps_append (p : Path) {tail : String} (hslash : '/' ∉ tail.toList)
    (hlong : 2 < tail.toList.length) :
    ∃ before name, steps ⟨p.text ++ tail⟩ = before ++ [name] ∧ before ⊆ steps p
      ∧ Path.fileName? ⟨p.text ++ tail⟩ = some name := by
  obtain ⟨before, last, -, hsplit, hbehind⟩ := splitOn_append p.text.toList
  have htail := hbehind tail.toList hslash
  rw [← String.toList_append] at htail
  have hlength : 2 < (last ++ tail.toList).length := by
    rw [List.length_append]
    omega
  have hempty : last ++ tail.toList ≠ [] := by
    intro h
    simp [h] at hlength
  have hup : last ++ tail.toList ≠ ['.', '.'] := by
    intro h
    simp [h] at hlength
  have hidle : Path.isIdle (last ++ tail.toList) = false := by
    refine Path.isIdle_eq_false.mpr ⟨hempty, fun h => ?_⟩
    simp [h] at hlength
  refine ⟨(before.filter (· ≠ [])).map String.ofList, String.ofList (last ++ tail.toList), ?_, ?_,
    ?_⟩
  · rw [steps_of_splitOn htail]
    simp [hempty]
  · rw [steps_of_splitOn hsplit]
    exact List.subset_append_left _ _
  · obtain ⟨others, hpieces⟩ := Path.exists_pieces_concat (p := ⟨p.text ++ tail⟩) hidle htail
    rw [Path.fileName?, hpieces, Path.dropIdle_concat others hidle, List.getLast?_concat]
    simp [hup]

end FileSystem

end SourceServer
