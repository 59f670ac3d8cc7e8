import SourceServer.Proofs.Index.Names
import SourceServer.Proofs.Index.Unbroken
import SourceServer.Proofs.Text.Replacing

/-!
# Reading an index

A reader looks for the line above the entries, takes the lines down to the terminator and cuts each
of them at its stars. The format has no escapes, so the texts in it may hold neither line ends nor,
in a path, a star; then the reader finds what was written, even in paths that look like other lines
of an index.

- `Index.readPaths?`: the paths that a reader finds.
- `Index.Plain`: contexts whose texts the format can carry.
- `Index.Plain.readPaths?_textOf`: the paths of a plain context are read back.
- `Index.endsLines_textOf`, `Index.replaceAll_textOf`: the line ends of an index.
- `Index.render_reads_back`: the paths are read back, so they are known from the text.
-/

namespace SourceServer

namespace Index

/-- The fields of an entry. -/
def fields (line : String) : List String :=
  (line.toList.splitOn '*').map String.ofList

/-- The local and the relative path of an entry: its two fields, or the first and the seventh of
eight. -/
def pathsOf? (dialect : Dialect) (line : String) : Option (String × String) :=
  match dialect, fields line with
  | .generic, [file, relative] => some (file, relative)
  | .teamFoundation, [file, _, _, _, _, _, relative, _] => some (file, relative)
  | _, _ => none

/-- The lines between the first line that announces entries and the next terminator. -/
def entriesOf? (lines : List String) : Option (List String) :=
  match lines.dropWhile (· ≠ entriesHeader) with
  | [] => none
  | _ :: below =>
    if terminator ∈ below then some (below.takeWhile (· ≠ terminator)) else none

/-- The paths that a reader finds in a text. -/
def readPaths? (dialect : Dialect) (ending : LineEnding) (text : String) :
    Option (List (String × String)) :=
  match entriesOf? (splitText ending text) with
  | none => none
  | some entries => entries.mapM (pathsOf? dialect)

/-- A text that an entry can hold as a field. -/
def IsField (text : String) : Prop :=
  Unbroken text.toList ∧ '*' ∉ text.toList

instance (text : String) : Decidable (IsField text) :=
  inferInstanceAs (Decidable (_ ∧ _))

/-- The texts of a context can be carried by the format. -/
structure Plain (context : Context) : Prop where
  revision : Unbroken context.revision.toList
  template : Unbroken context.template.toList
  metadata : ∀ metavariable ∈ context.metadata, Unbroken metavariable.2.toList
  paths : ∀ paths ∈ context.paths, IsField paths.1 ∧ IsField paths.2

/-- The ends of the lines: an LF follows a CR, or there is no CR. -/
def EndsLines : LineEnding → List Char → Prop
  | .crlf, text => ∀ front back, text = front ++ '\n' :: back → front.getLast? = some '\r'
  | .lf, text => '\r' ∉ text

/-! ## Entries -/

theorem fields_of_toList_eq {line : String} {texts : List (List Char)}
    (h : line.toList = ['*'].intercalate texts) (htexts : texts ≠ [])
    (hstar : ∀ text ∈ texts, '*' ∉ text) : fields line = texts.map String.ofList := by
  rw [fields, h, List.splitOn_intercalate '*' hstar htexts]

/-- The two paths of an entry are read back. -/
theorem pathsOf?_entry (dialect : Dialect) {paths : String × String}
    (hfile : '*' ∉ paths.1.toList) (hrelative : '*' ∉ paths.2.toList) :
    pathsOf? dialect (entry dialect paths) = some paths := by
  cases dialect with
  | generic =>
    have htoList : (entry .generic paths).toList
        = ['*'].intercalate [paths.1.toList, paths.2.toList] := by
      simp [entry, genericEntry, List.intercalate_cons_cons]
    have hfields := fields_of_toList_eq htoList (by simp) (by simp [hfile, hrelative])
    simp [pathsOf?, hfields]
  | teamFoundation =>
    have htoList : (entry .teamFoundation paths).toList
        = ['*'].intercalate [paths.1.toList, "TFS_COLLECTION".toList, "TFS_TEAM_PROJECT".toList,
          "TFS_REPO".toList, "TFS_COMMIT".toList, "TFS_SHORT_COMMIT".toList, paths.2.toList,
          "TFS_APPLY_FILTERS".toList] := by
      simp [entry, teamFoundationEntry, List.intercalate_cons_cons]
    have hfields := fields_of_toList_eq htoList (by simp) (by simp [hfile, hrelative])
    simp [pathsOf?, hfields]

/-- An entry has a star. -/
theorem star_mem_entry (dialect : Dialect) (paths : String × String) :
    '*' ∈ (entry dialect paths).toList := by
  cases dialect <;> simp [entry, genericEntry, teamFoundationEntry]

theorem terminator_notMem_entries (dialect : Dialect) (paths : List (String × String)) :
    terminator ∉ paths.map (entry dialect) := by
  intro h
  obtain ⟨path, -, heq⟩ := List.mem_map.mp h
  have hstar := star_mem_entry dialect path
  rw [heq] at hstar
  exact absurd hstar (by decide)

/-- The entries of an index are found between the line that announces them and the terminator. -/
theorem entriesOf?_layout {context : Context} {head : List String} (h : Head context head) :
    entriesOf? (layout context head ++ [""])
      = some (context.paths.map (entry context.dialect)) := by
  have habove : ∀ line ∈ head, decide (line ≠ entriesHeader) = true := by
    intro line hline
    rw [decide_eq_true_iff]
    rintro rfl
    exact h.entriesHeader_notMem hline
  have hentries : ∀ line ∈ context.paths.map (entry context.dialect),
      decide (line ≠ terminator) = true := by
    intro line hline
    rw [decide_eq_true_iff]
    rintro rfl
    exact terminator_notMem_entries _ _ hline
  have hdrop : (layout context head ++ [""]).dropWhile (· ≠ entriesHeader)
      = entriesHeader :: (context.paths.map (entry context.dialect) ++ [terminator, ""]) := by
    rw [layout, List.append_assoc, List.append_assoc, List.append_assoc,
      List.dropWhile_append_of_pos habove, List.singleton_append, List.dropWhile_cons_of_neg]
    · rfl
    · simp
  rw [entriesOf?, hdrop]
  simp only [List.mem_append, List.mem_cons, true_or, or_true, if_true,
    List.takeWhile_append_of_pos hentries]
  simp

/-- All entries are read back in their order. -/
theorem mapM_pathsOf?_map_entry (dialect : Dialect) {paths : List (String × String)}
    (h : ∀ path ∈ paths, '*' ∉ path.1.toList ∧ '*' ∉ path.2.toList) :
    (paths.map (entry dialect)).mapM (pathsOf? dialect) = some paths := by
  induction paths with
  | nil => rfl
  | cons path paths ih =>
    rw [List.forall_mem_cons] at h
    rw [List.map_cons, List.mapM_cons, pathsOf?_entry dialect h.1.1 h.1.2, ih h.2]
    rfl

/-! ## Plain contexts -/

theorem mem_of_lookup_eq_some {entries : List (String × String)} {key value : String}
    (h : entries.lookup key = some value) : (key, value) ∈ entries := by
  obtain ⟨front, back, rfl, -⟩ := List.lookup_eq_some_iff.mp h
  simp

theorem Plain.unbroken_shown {context : Context} (h : Plain context) :
    ∀ text ∈ shown context, Unbroken text.toList := by
  rw [shown]
  cases context.dialect with
  | generic =>
    simp only [List.forall_mem_cons, rawUrl, String.toList_ofList]
    exact ⟨Search.unbroken_replaceAll h.revision h.template, h.revision, by simp⟩
  | teamFoundation =>
    rw [List.forall_mem_cons]
    refine ⟨h.revision, fun text htext => ?_⟩
    obtain ⟨key, -, hvalue⟩ := List.mem_filterMap.mp htext
    exact h.metadata (key, text) (mem_of_lookup_eq_some hvalue)

theorem Plain.unbroken_layout {context : Context} {head : List String} (h : Plain context)
    (hhead : Head context head) : ∀ line ∈ layout context head, Unbroken line.toList :=
  (unbroken_layout_iff hhead).mpr
    ⟨h.unbroken_shown, fun paths hpaths =>
      ⟨(h.paths paths hpaths).1.1, (h.paths paths hpaths).2.1⟩⟩

/-- The paths of a plain context are read back. -/
theorem Plain.readPaths?_textOf {context : Context} {head : List String} (h : Plain context)
    (hhead : Head context head) :
    readPaths? context.dialect context.lineEnding
        (textOf context.lineEnding (layout context head))
      = some context.paths := by
  rw [readPaths?, splitText_textOf (h.unbroken_layout hhead), entriesOf?_layout hhead]
  exact mapM_pathsOf?_map_entry _ fun path hpath =>
    ⟨(h.paths path hpath).1.2, (h.paths path hpath).2.2⟩

/-- A plain context and its text, as lines. -/
theorem Plain.render_eq_ok {context : Context} {text : String} (h : Plain context)
    (hrender : render context = .ok text) :
    ∃ head, Head context head ∧ text = textOf context.lineEnding (layout context head)
      ∧ ∀ line ∈ layout context head, Unbroken line.toList := by
  obtain ⟨lines, hlines, htext⟩ := Index.render_eq_ok.mp hrender
  obtain ⟨head, hhead, rfl⟩ := lines_eq_ok hlines
  exact ⟨head, hhead, htext, h.unbroken_layout hhead⟩

/-! ## Line ends -/

/-- In lines that end with CR LF, an LF stands behind a CR. -/
theorem getLast?_of_crlf {lines : List (List Char)} (h : ∀ line ∈ lines, '\n' ∉ line)
    {front back : List Char}
    (heq : lines.flatMap (· ++ ['\r', '\n']) = front ++ '\n' :: back) :
    front.getLast? = some '\r' := by
  induction lines generalizing front with
  | nil => simp at heq
  | cons line rest ih =>
    rw [List.forall_mem_cons] at h
    rw [List.flatMap_cons, List.append_eq_append_iff] at heq
    rcases heq with ⟨front', rfl, heq⟩ | ⟨back', hline, hback⟩
    · -- the LF ends a later line
      rw [List.getLast?_append, ih h.2 heq]
      rfl
    · cases back' with
      | nil =>
        -- no line begins with an LF
        have hfirst : ([] : List Char).getLast? = some '\r' := ih h.2 hback.symm
        cases hfirst
      | cons c back' =>
        obtain rfl : '\n' = c := (List.cons.inj hback).1
        rcases List.eq_nil_or_concat back' with rfl | ⟨back', last, rfl⟩
        · have hend : line ++ ['\r'] ++ ['\n'] = front ++ ['\n'] := by simpa using hline
          rw [← List.append_cancel_right hend]
          simp
        · -- an LF in front of the last one would be in the line
          have hend : line ++ ['\r'] ++ ['\n'] = front ++ '\n' :: back' ++ [last] := by
            simpa using hline
          have hmem : '\n' ∈ line ++ ['\r'] := by simp [(List.append_inj' hend rfl).1]
          simp [h.1] at hmem

/-- Unbroken lines have the ends that they were given. -/
theorem endsLines_textOf {lines : List String} (h : ∀ line ∈ lines, Unbroken line.toList)
    (ending : LineEnding) : EndsLines ending (textOf ending lines).toList := by
  rw [toList_textOf]
  cases ending with
  | crlf =>
    intro front back
    refine getLast?_of_crlf ?_
    simp only [List.forall_mem_map]
    exact fun line hline => (h line hline).notMem rfl
  | lf =>
    intro hmem
    simp only [List.mem_flatMap, List.mem_map, List.mem_append] at hmem
    obtain ⟨-, ⟨line, hline, rfl⟩, hmem | hmem⟩ := hmem
    · exact (h line hline).notMem rfl hmem
    · exact absurd hmem (by decide)

/-- Both ends give the same text when each CR LF becomes an LF. -/
theorem replaceAll_textOf {lines : List String} (h : ∀ line ∈ lines, Unbroken line.toList) :
    Search.replaceAll ['\r', '\n'] ['\n'] (textOf .crlf lines).toList
      = (textOf .lf lines).toList := by
  rw [toList_textOf, toList_textOf]
  induction lines with
  | nil => rfl
  | cons line rest ih =>
    rw [List.forall_mem_cons] at h
    have hline : ¬ ['\r', '\n'] <:+: line.toList := fun hfound =>
      h.1.notMem (c := '\r') rfl (hfound.subset (by simp))
    have hborder : ∀ t, Search.Parted ['\r', '\n'] line.toList ('\r' :: t) :=
      Search.parted_of_notMem_tail (by decide) _
    have hend := Search.replaceAll_occurrence (List.cons_ne_nil '\r' ['\n']) ['\n']
      ((rest.map String.toList).flatMap (· ++ LineEnding.crlf.text.toList))
    rw [List.map_cons, List.flatMap_cons, List.flatMap_cons, ← ih h.2, List.append_assoc,
      List.append_assoc]
    exact (Search.replaceAll_append (hborder _) _).trans
      (congrArg₂ (· ++ ·) (Search.replaceAll_of_not_infix hline _) hend)

/-! ## What a text tells -/

/-- The line that tells the version of the format. -/
def versionLine : Dialect → String
  | .generic => "VERSION=2"
  | .teamFoundation => "VERSION=3"

theorem Head.version {context : Context} {head : List String} (h : Head context head) :
    ∃ rest, head = iniHeader :: versionLine context.dialect :: rest := by
  cases h with
  | generic hdialect hretrieval =>
    rw [hdialect]
    exact ⟨_, rfl⟩
  | teamFoundation hdialect hshort =>
    rw [hdialect]
    exact ⟨_, rfl⟩

theorem mem_textOf_crlf {lines : List String} (h : lines ≠ []) :
    '\r' ∈ (textOf .crlf lines).toList := by
  obtain ⟨first, rest, rfl⟩ := List.exists_cons_of_ne_nil h
  rw [toList_textOf]
  simp [LineEnding.text]

/-- Line ends are told apart by their CR. -/
theorem lineEnding_eq_of_textOf_eq {first second : List String} {a b : LineEnding}
    (hfirst : ∀ line ∈ first, Unbroken line.toList)
    (hsecond : ∀ line ∈ second, Unbroken line.toList) (hfirstLine : first ≠ [])
    (hsecondLine : second ≠ []) (h : textOf a first = textOf b second) : a = b := by
  have hfirstEnds := endsLines_textOf hfirst a
  have hsecondEnds := endsLines_textOf hsecond b
  cases a <;> cases b
  · rfl
  · rw [← h] at hsecondEnds
    exact absurd (mem_textOf_crlf hfirstLine) hsecondEnds
  · rw [h] at hfirstEnds
    exact absurd (mem_textOf_crlf hsecondLine) hfirstEnds
  · rfl

theorem layout_ne_nil (context : Context) (head : List String) : layout context head ≠ [] := by
  simp [layout]

/-- Plain contexts with one text have the same paths, whatever their dialects and line ends. -/
theorem Plain.paths_eq {context other : Context} {text : String} (h : Plain context)
    (hother : Plain other) (hrender : render context = .ok text)
    (hrenderOther : render other = .ok text) : other.paths = context.paths := by
  obtain ⟨head, hhead, htext, hlines⟩ := h.render_eq_ok hrender
  obtain ⟨head', hhead', htext', hlines'⟩ := hother.render_eq_ok hrenderOther
  have hending : context.lineEnding = other.lineEnding :=
    lineEnding_eq_of_textOf_eq hlines hlines' (layout_ne_nil _ _) (layout_ne_nil _ _)
      (htext.symm.trans htext')
  have hended : layout context head ++ [""] = layout other head' ++ [""] := by
    rw [← splitText_textOf hlines context.lineEnding, ← splitText_textOf hlines' context.lineEnding,
      ← htext, htext', hending]
  have hlayout : layout context head = layout other head' := List.append_cancel_right hended
  have hversion : versionLine context.dialect = versionLine other.dialect := by
    obtain ⟨rest, rfl⟩ := hhead.version
    obtain ⟨rest', rfl⟩ := hhead'.version
    simp only [layout, List.cons_append, List.cons.injEq] at hlayout
    exact hlayout.2.1
  have hdialect : context.dialect = other.dialect := by
    cases hgeneric : context.dialect <;> cases hforeign : other.dialect <;>
      simp [hgeneric, hforeign, versionLine] at hversion ⊢
  have hpaths := h.readPaths?_textOf hhead
  rw [← htext, htext', hending, hdialect, hother.readPaths?_textOf hhead', Option.some.injEq]
    at hpaths
  exact hpaths

/-- Only the line ends of the text depend on the choice of line end. -/
theorem Plain.render_lf {context : Context} {text : String} (h : Plain context)
    (hrender : render context = .ok text) :
    ∃ crlf, render { context with lineEnding := .crlf } = .ok crlf
      ∧ render { context with lineEnding := .lf }
        = .ok (String.ofList (Search.replaceAll ['\r', '\n'] ['\n'] crlf.toList)) := by
  obtain ⟨lines, hlines, -⟩ := Index.render_eq_ok.mp hrender
  obtain ⟨head, hhead, rfl⟩ := lines_eq_ok hlines
  have hany : ∀ ending, render { context with lineEnding := ending }
      = .ok (textOf ending (layout context head)) := fun ending =>
    Index.render_eq_ok.mpr ⟨_, hlines, rfl⟩
  refine ⟨_, hany .crlf, ?_⟩
  rw [hany .lf, replaceAll_textOf (h.unbroken_layout hhead), String.ofList_toList]

/-- **An index is read back.** The reader finds the paths of a plain context, in their order, so
they are known from the text. The text ends with the terminator and one line end; its lines end the
way that the context asks for, and otherwise do not depend on it. -/
theorem render_reads_back {context : Context} {text : String} (hplain : Plain context)
    (hrender : render context = .ok text) :
    readPaths? context.dialect context.lineEnding text = some context.paths
      ∧ (∀ other, Plain other → render other = .ok text → other.paths = context.paths)
      ∧ (∃ above, splitText context.lineEnding text = above ++ [terminator, ""])
      ∧ EndsLines context.lineEnding text.toList
      ∧ ∃ crlf, render { context with lineEnding := .crlf } = .ok crlf
        ∧ render { context with lineEnding := .lf }
          = .ok (String.ofList (Search.replaceAll ['\r', '\n'] ['\n'] crlf.toList)) := by
  obtain ⟨head, hhead, htext, hlines⟩ := hplain.render_eq_ok hrender
  refine ⟨?_, fun other hother => hplain.paths_eq hother hrender, ?_, ?_,
    hplain.render_lf hrender⟩
  · rw [htext]
    exact hplain.readPaths?_textOf hhead
  · rw [htext, splitText_textOf hlines, layout]
    exact ⟨_, List.append_assoc _ [terminator] [""]⟩
  · rw [htext]
    exact endsLines_textOf hlines _

/-- Paths that look like other lines of an index are read back, too. -/
theorem render_reads_back_imitations :
    ∃ context text,
      context.paths
          = [("SRCSRV: source files ---------------------------------------", "RAWURL=x"),
            ("SRCSRV: end ------------------------------------------------", "SRCSRVCMD=x")]
      ∧ render context = .ok text
      ∧ readPaths? context.dialect context.lineEnding text = some context.paths := by
  have hrender : render
      ⟨"deadbeef00", "https://dev.azure.com/a/b/_apis/git/repositories/c/items",
        [("SRCSRV: source files ---------------------------------------", "RAWURL=x"),
          ("SRCSRV: end ------------------------------------------------", "SRCSRVCMD=x")],
        .direct, .teamFoundation, [("TFS_REPO", "c")], ⟨2024, 3, 5, 14, 7, 9⟩, .crlf⟩
      = .ok _ := rfl
  have hread := render_reads_back ⟨by decide, by decide, by decide, by decide⟩ hrender
  exact ⟨_, _, rfl, hrender, hread.1⟩

end Index

end SourceServer
