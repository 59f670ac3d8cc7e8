import SourceServer.Proofs.Capitalization.Completeness

/-!
# Spellings of one path

Recorded paths are gathered by the lower case of their whole texts, and looked up name by name. Both
say the same: a slash ends every word, so the lower case of a text has the lower cases of its pieces
between its slashes. Where no directory has two entries that agree up to case, it does not matter
which spelling of a path is looked up.

- `Unicode.splitOn_lowerText`: lower case piece by piece.
- `Path.components_lower`: the components of a text in lower case.
- `Capitalization.file_cases_of_lower_eq`: all spellings of a path are resolved alike.
-/

namespace SourceServer

/-! ## Low characters -/

namespace Unicode

/-- A low character in front of a lower case stands in front of the text. -/
theorem exists_cons_of_lowerAfter {before s rest : List Char} {x : Char} (hx : isLow x)
    (h : lowerAfter before s = x :: rest) :
    ∃ tail, s = x :: tail ∧ rest = lowerAfter (x :: before) tail := by
  cases s with
  | nil => cases h
  | cons c tail =>
    rw [lowerAfter_cons] at h
    obtain ⟨y, block, hblock⟩ := List.exists_cons_of_ne_nil (lowerFirst_ne_nil before c tail)
    rw [hblock, List.cons_append, List.cons.injEq] at h
    obtain ⟨rfl, hrest⟩ := h
    obtain rfl : y = c :=
      (low_mem_lowerFirst_iff hx before c tail).mp (by rw [hblock]; exact List.mem_cons_self)
    rw [lowerFirst_of_low hx, List.cons.injEq] at hblock
    refine ⟨tail, rfl, ?_⟩
    rw [← hrest, ← hblock.2, List.nil_append]

/-- A row of low characters is the lower case of nothing but itself. -/
theorem lowerText_eq_iff_of_low {s t : List Char} (ht : ∀ c ∈ t, isLow c) :
    lowerText s = t ↔ s = t := by
  have hself : lowerText t = t := lowerAfter_of_low ht []
  constructor
  · intro h
    have hlower : lower (String.ofList s) = lower (String.ofList t) := by
      rw [lower, lower, String.toList_ofList, String.toList_ofList, h, hself]
    exact String.ofList_injective (eq_of_lower_eq hlower (by rwa [String.toList_ofList]))
  · rintro rfl
    exact hself

/-- The pieces of a lower case are those of the text in lower case. -/
theorem splitOn_lowerText (s : List Char) :
    (lowerText s).splitOn '/' = (s.splitOn '/').map lowerText := by
  have hpieces : ∀ piece ∈ (s.splitOn '/').map lowerText, '/' ∉ piece := by
    intro piece hpiece
    obtain ⟨original, hmem, rfl⟩ := List.mem_map.mp hpiece
    have hslash := slash_notMem_piece hmem
    rwa [lowerText, low_mem_lowerAfter_iff (by decide)]
  have hne : (s.splitOn '/').map lowerText ≠ [] := by simp [List.splitOn_ne_nil]
  have hwhole : lowerText s = ['/'].intercalate ((s.splitOn '/').map lowerText) := by
    rw [← lowerText_intercalate, List.intercalate_splitOn]
  rw [hwhole, List.splitOn_intercalate '/' hpieces hne]

end Unicode

/-! ## Components -/

namespace Path

open Unicode (isLow lowerText)

theorem isIdle_lowerText (piece : List Char) : isIdle (lowerText piece) = isIdle piece := by
  have hpoint : ∀ c ∈ ['.'], isLow c := by
    rw [List.forall_mem_singleton]
    decide
  rw [Bool.eq_iff_iff]
  simp [isIdle, Unicode.lowerText_eq_iff_of_low (t := []) (by simp),
    Unicode.lowerText_eq_iff_of_low hpoint]

theorem pieceComponent_lowerText (piece : List Char) :
    pieceComponent (lowerText piece) = (pieceComponent piece).map Component.lower := by
  have hpoints : ∀ c ∈ ['.', '.'], isLow c := by
    rw [List.forall_mem_cons, List.forall_mem_singleton]
    decide
  rw [pieceComponent, pieceComponent, isIdle_lowerText]
  split
  · rfl
  · by_cases hup : piece = ['.', '.']
    · rw [if_pos hup, if_pos ((Unicode.lowerText_eq_iff_of_low hpoints).mpr hup)]
      rfl
    · rw [if_neg hup, if_neg (mt (Unicode.lowerText_eq_iff_of_low hpoints).mp hup)]
      simp [Component.lower, Unicode.lower]

/-- A path begins as its lower case begins. -/
theorem splitHead_lowerText (text : List Char) :
    splitHead (lowerText text) = ((splitHead text).1, lowerText (splitHead text).2) := by
  have hslash : isLow '/' := by decide
  have hpoint : isLow '.' := by decide
  have hstep : ∀ rest, lowerText ('/' :: rest) = '/' :: lowerText rest := fun rest =>
    Unicode.lowerText_append_slash [] rest
  have hself : lowerText ['.'] = ['.'] :=
    (Unicode.lowerText_eq_iff_of_low (by simpa using hpoint)).mpr rfl
  rw [splitHead.eq_def text]
  split
  · rw [hstep]
    rfl
  · rw [hself]
    rfl
  · rename_i rest
    have hbegin := Unicode.lowerText_append_slash ['.'] rest
    rw [hself] at hbegin
    show splitHead (lowerText (['.'] ++ '/' :: rest)) = _
    rw [hbegin, hstep]
    rfl
  · rename_i hroot hhere hpointed
    -- a lower case with another beginning would come from a text with this beginning
    show splitHead (lowerText text) = ([], lowerText text)
    unfold splitHead
    split
    · rename_i rest heq
      obtain ⟨tail, rfl, -⟩ := Unicode.exists_cons_of_lowerAfter hslash heq
      exact absurd rfl (hroot tail)
    · rename_i heq
      obtain rfl := (Unicode.lowerText_eq_iff_of_low (by simpa using hpoint)).mp heq
      exact absurd rfl hhere
    · rename_i rest heq
      obtain ⟨behind, rfl, hbehind⟩ := Unicode.exists_cons_of_lowerAfter hpoint heq
      obtain ⟨tail, rfl, -⟩ := Unicode.exists_cons_of_lowerAfter hslash hbehind.symm
      exact absurd rfl (hpointed tail)
    · rfl

/-- The components of a text in lower case are those of the text in lower case. -/
theorem components_lower (text : String) :
    components ⟨Unicode.lower text⟩ = (components ⟨text⟩).map Component.lower := by
  have hhead : ∀ head, (headComponent head).map Component.lower = headComponent head := by
    intro head
    unfold headComponent
    split <;> rfl
  rw [components, components, pieces, pieces, Unicode.lower, String.toList_ofList,
    splitHead_lowerText, Unicode.splitOn_lowerText, List.map_append, hhead, List.flatMap_map,
    List.map_flatMap]
  exact congrArg _ (List.flatMap_congr fun piece _ => pieceComponent_lowerText piece)

theorem map_lower_components_of_lower_eq {a b : String} (h : Unicode.lower a = Unicode.lower b) :
    (components ⟨a⟩).map Component.lower = (components ⟨b⟩).map Component.lower := by
  rw [← components_lower, ← components_lower, h]

end Path

/-! ## Files -/

namespace Capitalization

variable {fs : FileSystem} {a b : String} {q : Path}

/-- A file is found under every spelling of its path. -/
theorem file_of_lower_eq (hfs : fs.NoCaseTwins) (hlower : Unicode.lower a = Unicode.lower b)
    (h : file fs b = .ok q) : file fs a = .ok q := by
  obtain ⟨hplain, hnul, hnames, children, hfollows, rfl⟩ := file_eq_ok_iff.mp h
  have hcomponents := Path.map_lower_components_of_lower_eq hlower
  have hplain' : Path.IsPlain ⟨a⟩ := Path.isPlain_of_lower_eq hplain hcomponents
  have hnul' : '\x00' ∉ a.toList := by
    have hlow : Unicode.isLow '\x00' := by decide
    rwa [← Unicode.low_mem_lower_iff hlow, hlower, Unicode.low_mem_lower_iff hlow]
  have hown := Path.map_lower_names_of_lower_eq hplain' hplain hcomponents
  have hnames' : Path.names ⟨a⟩ ≠ [] := by
    intro hnil
    rw [hnil, List.map_nil, eq_comm, List.map_eq_nil_iff] at hown
    exact hnames hown
  have hstart : start ⟨a⟩ = start ⟨b⟩ :=
    start_eq_of_isAbsolute_eq (Path.isAbsolute_eq_of_lower_eq hcomponents)
  refine file_eq_ok_iff.mpr ⟨hplain', hnul', hnames', children, ?_, by rw [hstart]⟩
  rw [hstart]
  exact hfollows.of_lower_eq hfs hown

/-- All spellings of a path are resolved alike; only the cause of a failure quotes them. -/
theorem file_cases_of_lower_eq (hfs : fs.NoCaseTwins) (hlower : Unicode.lower a = Unicode.lower b) :
    (∃ path, file fs a = .ok path ∧ file fs b = .ok path)
      ∨ ∃ cause cause', file fs a = .error cause ∧ file fs b = .error cause' := by
  cases hb : file fs b with
  | ok path => exact .inl ⟨path, file_of_lower_eq hfs hlower hb, rfl⟩
  | error cause =>
    cases ha : file fs a with
    | ok path =>
      rw [file_of_lower_eq hfs hlower.symm ha] at hb
      cases hb
    | error cause' => exact .inr ⟨cause', cause, rfl, rfl⟩

end Capitalization

end SourceServer
