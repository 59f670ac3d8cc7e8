import SourceServer.Link
import SourceServer.Proofs.Index.Names
import SourceServer.Proofs.Index.Unbroken
import SourceServer.Proofs.Remote.Template

/-!
# The URL of a file

The revision and the path of a file reach the user's address in two steps: placeholders are
rewritten, an index puts the revision in, and the debugger puts in the path. Nothing that is put in
on the way is taken for a placeholder, so the file is fetched from the address that the user meant.

- `Index.readVariable?`: what the debugger reads in a variable.
- `Remote.filled`: the address that the user meant.
- `Revision.IsHexadecimal`: revisions that no placeholder resembles.
- `Index.fetches_filled`: the debugger fetches it.
-/

namespace SourceServer

open Index (revisionPlaceholder pathPlaceholder)
open Search (Insulated replaceAll splitAll)

namespace Revision

/-- A revision of at least eight hexadecimal digits. -/
def IsHexadecimal (revision : List Char) : Prop :=
  Index.shortLength ≤ revision.length ∧ revision.all Ascii.isHexDigit = true

instance (revision : List Char) : Decidable (IsHexadecimal revision) :=
  inferInstanceAs (Decidable (_ ∧ _))

variable {revision pattern : List Char}

theorem IsHexadecimal.isHexDigit (h : IsHexadecimal revision) :
    ∀ c ∈ revision, Ascii.isHexDigit c = true :=
  List.all_eq_true.mp h.2

theorem IsHexadecimal.unbroken (h : IsHexadecimal revision) : Unbroken revision :=
  unbroken_of_all (by decide) (by decide) h.isHexDigit

/-- A text with another character does not occur in a revision. -/
theorem IsHexadecimal.not_infix (h : IsHexadecimal revision)
    (hpattern : pattern.all Ascii.isHexDigit = false) : ¬ pattern <:+: revision := by
  intro hfound
  rw [List.all_eq_true.mpr fun c hc => h.isHexDigit c (hfound.subset hc)] at hpattern
  cases hpattern

/-- The user's placeholder of the path has other characters near its ends. -/
theorem IsHexadecimal.insulated_userFilename (h : IsHexadecimal revision) :
    Insulated Remote.userFilename.toList revision :=
  Search.insulated_of_all h.isHexDigit h.1 (by decide) (by decide)

theorem IsHexadecimal.insulated_path (h : IsHexadecimal revision) :
    Insulated pathPlaceholder.toList revision :=
  Search.insulated_of_all h.isHexDigit h.1 (by decide) (by decide)

end Revision

namespace Remote

/-- The address of a file that the user meant: its placeholders are filled in, or revision and path
follow it. -/
def filled (url revision path : List Char) : List Char :=
  if HasPlaceholder url then
    replaceAll userFilename.toList path (replaceAll userRevision.toList revision url)
  else dropFinalSlashes url ++ '/' :: (revision ++ '/' :: path)

variable {url revision : List Char}

/-- The placeholder of the path without its last character. -/
def pathBeginning : List Char := ['%', 'v', 'a', 'r', '2']

/-- The placeholder of the path resembles itself in its last character only, so a piece without its
beginning forms no placeholder with one that follows. -/
theorem parted_path_of_not_infix {piece : List Char} (h : ¬ pathBeginning <:+: piece)
    (t : List Char) : Search.Parted pathPlaceholder.toList piece (pathPlaceholder.toList ++ t) := by
  intro front back hpattern hfront hback hends hbegins
  have hresembles : ∀ back ∈ pathPlaceholder.toList.tails, back ≠ [] →
      back <+: pathPlaceholder.toList → back = pathPlaceholder.toList ∨ back = ['%'] := by
    decide
  have hlength : back.length ≤ pathPlaceholder.toList.length := by
    rw [hpattern, List.length_append]
    omega
  have hbegins' : back <+: pathPlaceholder.toList :=
    List.prefix_of_prefix_length_le hbegins (List.prefix_append _ t) hlength
  rcases hresembles back ((List.mem_tails _ _).mpr ⟨front, hpattern.symm⟩) hback hbegins'
    with rfl | rfl
  · exact hfront (List.self_eq_append_left.mp hpattern)
  · have hbeginning : pathBeginning ++ ['%'] = front ++ ['%'] := hpattern
    rw [← List.append_cancel_right hbeginning] at hends
    exact h hends.isInfix

/-- Putting the path in for both kinds of placeholder is the same. -/
theorem replaceAll_path_replaceAll_userFilename {s : List Char} (h : ¬ pathBeginning <:+: s)
    (path : List Char) :
    replaceAll pathPlaceholder.toList path
        (replaceAll userFilename.toList pathPlaceholder.toList s)
      = replaceAll userFilename.toList path s := by
  rw [Search.replaceAll_eq_intercalate userFilename.toList pathPlaceholder.toList,
    Search.replaceAll_eq_intercalate userFilename.toList path,
    Search.replaceAll_intercalate_self (by decide)]
  intro piece hpiece
  have hplain : ¬ pathBeginning <:+: piece := fun hfound =>
    h (hfound.trans (Search.infix_of_mem_splitAll (by decide) hpiece))
  refine ⟨fun hfound => hplain (List.IsInfix.trans ?_ hfound), parted_path_of_not_infix hplain⟩
  exact ⟨[], ['%'], rfl⟩

/-- A rewritten address is its pieces, joined by the placeholder of the revision. -/
theorem rewritten_eq_intercalate (url : List Char) :
    rewritten url = revisionPlaceholder.toList.intercalate
      ((splitAll userRevision.toList url).map
        (replaceAll userFilename.toList pathPlaceholder.toList)) := by
  have hself : replaceAll userFilename.toList pathPlaceholder.toList revisionPlaceholder.toList
      = revisionPlaceholder.toList := by decide
  rw [rewritten, Search.replaceAll_eq_intercalate userRevision.toList,
    Search.replaceAll_intercalate insulated_userFilename_revision, hself]

/-- The revision is put in where the user asked for it. -/
theorem replaceAll_revision_rewritten (hurl : ¬ revisionPlaceholder.toList <:+: url)
    (revision : List Char) :
    replaceAll revisionPlaceholder.toList revision (rewritten url)
      = revision.intercalate
        ((splitAll userRevision.toList url).map
          (replaceAll userFilename.toList pathPlaceholder.toList)) := by
  rw [rewritten_eq_intercalate, Search.replaceAll_intercalate_self (by decide)]
  rw [List.forall_mem_map]
  intro piece hpiece
  refine ⟨?_, fun t => Search.parted_of_notMem_tail (by decide) _ _⟩
  -- the pieces of a piece hold no placeholder, and what joins them keeps them apart
  rw [Search.replaceAll_eq_intercalate]
  refine Search.not_infix_intercalate insulated_revision_path (by decide) (by decide) ?_
  intro part hpart hfound
  exact hurl ((hfound.trans (Search.infix_of_mem_splitAll (by decide) hpart)).trans
    (Search.infix_of_mem_splitAll (by decide) hpiece))

/-- **Two-step substitution is direct substitution** in an address with placeholders. -/
theorem replaceAll_path_revision_rewritten (hrevision : Revision.IsHexadecimal revision)
    (hurl : ¬ revisionPlaceholder.toList <:+: url) (hpath : ¬ pathBeginning <:+: url)
    (path : List Char) :
    replaceAll pathPlaceholder.toList path
        (replaceAll revisionPlaceholder.toList revision (rewritten url))
      = replaceAll userFilename.toList path (replaceAll userRevision.toList revision url) := by
  have hpathKept : replaceAll pathPlaceholder.toList path revision = revision :=
    Search.replaceAll_of_not_infix (hrevision.not_infix (by decide)) _
  have hfilenameKept : replaceAll userFilename.toList path revision = revision :=
    Search.replaceAll_of_not_infix (hrevision.not_infix (by decide)) _
  rw [replaceAll_revision_rewritten hurl, Search.replaceAll_intercalate hrevision.insulated_path,
    hpathKept, Search.replaceAll_eq_intercalate userRevision.toList,
    Search.replaceAll_intercalate hrevision.insulated_userFilename, hfilenameKept, List.map_map]
  congr 1
  refine List.map_congr_left fun piece hpiece => ?_
  exact replaceAll_path_replaceAll_userFilename
    (fun hfound => hpath (hfound.trans (Search.infix_of_mem_splitAll (by decide) hpiece))) path

/-- Putting revision and path behind an address. -/
theorem replaceAll_path_revision_appended (hrevision : Revision.IsHexadecimal revision)
    (hurl : ¬ revisionPlaceholder.toList <:+: url) (hpath : ¬ pathPlaceholder.toList <:+: url)
    (path : List Char) :
    replaceAll pathPlaceholder.toList path
        (replaceAll revisionPlaceholder.toList revision
          (url ++ '/' :: (revisionPlaceholder.toList ++ '/' :: pathPlaceholder.toList)))
      = url ++ '/' :: (revision ++ '/' :: path) := by
  have hother : replaceAll revisionPlaceholder.toList revision pathPlaceholder.toList
      = pathPlaceholder.toList :=
    Search.replaceAll_of_not_infix (by decide) _
  have hfirst : replaceAll revisionPlaceholder.toList revision
        (url ++ '/' :: (revisionPlaceholder.toList ++ '/' :: pathPlaceholder.toList))
      = url ++ '/' :: (revision ++ '/' :: pathPlaceholder.toList) := by
    rw [Search.replaceAll_append_cons (by decide) (by decide), Search.replaceAll_of_not_infix hurl,
      Search.replaceAll_append_cons (by decide) (by decide), Search.replaceAll_self (by decide),
      hother]
  rw [hfirst, Search.replaceAll_append_cons (by decide) (by decide),
    Search.replaceAll_of_not_infix hpath, Search.replaceAll_append_cons (by decide) (by decide),
    Search.replaceAll_of_not_infix (hrevision.not_infix (by decide)),
    Search.replaceAll_self (by decide)]

/-- The template of an address leads to what the user meant. -/
theorem LeadsTo.replaceAll_path_revision {url template : String} (h : LeadsTo url template)
    (hrevision : Revision.IsHexadecimal revision)
    (hurl : ¬ revisionPlaceholder.toList <:+: url.toList) (hpath : ¬ pathBeginning <:+: url.toList)
    (path : List Char) :
    replaceAll pathPlaceholder.toList path
        (replaceAll revisionPlaceholder.toList revision template.toList)
      = filled url.toList revision path := by
  rw [filled]
  rcases h with htemplate | ⟨hnone, rfl⟩
  · rw [if_pos (hasPlaceholder_of_templateOf? htemplate hurl), (templateOf?_eq_some htemplate).1]
    exact replaceAll_path_revision_rewritten hrevision hurl hpath path
  · obtain ⟨hplain, -, hpath'⟩ := templateOf?_eq_none hnone
    have hfront := (prefix_dropFinalSlashes url.toList).isInfix
    rw [if_neg hplain]
    simp only [String.toList_append, String.toList_ofList, List.append_assoc]
    exact replaceAll_path_revision_appended hrevision (fun h => hurl (h.trans hfront))
      (fun h => hpath' (h.trans hfront)) path

end Remote

namespace Index

/-- What a line assigns: the part behind its first `=`. -/
def valueOf (line : String) : String :=
  String.ofList (line.toList.dropWhile (· != '=')).tail

/-- What the debugger reads in a variable: the value that the first line with its name assigns. -/
def readVariable? (name : String) (lines : List String) : Option String :=
  (lines.find? (nameOf · = name)).map valueOf

theorem valueOf_variable {name : String} (hname : '=' ∉ name.toList) (value : String) :
    valueOf (name ++ "=" ++ value) = value := by
  have hequals : ("=".toList ++ value.toList).dropWhile (· != '=') = '=' :: value.toList := rfl
  rw [valueOf, String.toList_append, String.toList_append, List.append_assoc,
    List.dropWhile_append_of_pos (bne_of_notMem hname), hequals, List.tail_cons, String.ofList_toList]

/-- The debugger reads the template with the revision put in. -/
theorem readVariable?_rawUrl {context : Context} {text : String}
    (hdialect : context.dialect = .generic) (hrender : render context = .ok text)
    (hunbroken : Unbroken (rawUrl context).toList) :
    readVariable? "RAWURL" (splitText context.lineEnding text) = some (rawUrl context) := by
  obtain ⟨lines, hlines, rfl⟩ := render_eq_ok.mp hrender
  obtain ⟨head, hhead, rfl⟩ := lines_eq_ok hlines
  cases hhead with
  | teamFoundation hforeign hshort =>
    rw [hdialect] at hforeign
    cases hforeign
  | @generic retrieval _ hretrieval =>
    -- the lines from the fifth on may be broken, but they are not read
    have hlayout : ∃ below, layout context (genericHead context retrieval)
        = [iniHeader, "VERSION=2", variablesHeader, "RAWURL=" ++ rawUrl context] ++ below :=
      ⟨_, rfl⟩
    obtain ⟨below, hbelow⟩ := hlayout
    have hfront : ∀ line ∈ [iniHeader, "VERSION=2", variablesHeader, "RAWURL=" ++ rawUrl context],
        Unbroken line.toList := by
      simp only [List.forall_mem_cons, String.toList_append, unbroken_append_iff]
      exact ⟨unbroken_of_eq rfl (by decide), by decide, unbroken_of_eq rfl (by decide),
        ⟨by decide, hunbroken⟩, by simp⟩
    have hini : nameOf iniHeader ≠ "RAWURL" := by decide
    have hversion : nameOf "VERSION=2" ≠ "RAWURL" := by decide
    have hvariables : nameOf variablesHeader ≠ "RAWURL" := by decide
    have hraw : nameOf ("RAWURL=" ++ rawUrl context) = "RAWURL" := (nameOf_append rfl _).trans rfl
    have hfound : [iniHeader, "VERSION=2", variablesHeader, "RAWURL=" ++ rawUrl context].find?
        (nameOf · = "RAWURL") = some ("RAWURL=" ++ rawUrl context) := by
      simp only [List.find?_cons, hini, hversion, hvariables, hraw, decide_true, decide_false]
    rw [hbelow, splitText_textOf_append hfront, readVariable?, List.find?_append, hfound]
    exact congrArg some (valueOf_variable (show '=' ∉ "RAWURL".toList by decide) _)

/-- **The debugger fetches the address that the user meant.** It reads one variable and puts in the
path of an entry; the result is the address with revision and path filled in. -/
theorem fetches_filled {url revision text : String} {remote : Remote} {files : List Path}
    {options : LinkOptions} {now : Timestamp}
    (hremote : Remote.gitDaemon url = .ok remote
      ∨ ∃ backslashes, Remote.customUrl url backslashes = .ok remote)
    (hunbroken : Unbroken url.toList) (hurl : ¬ revisionPlaceholder.toList <:+: url.toList)
    (hpath : ¬ Remote.pathBeginning <:+: url.toList)
    (hrevision : Revision.IsHexadecimal revision.toList)
    (hrender : render (indexContext remote revision files options now) = .ok text) :
    ∃ value, readVariable? "RAWURL" (splitText options.lineEnding text) = some value
      ∧ ∀ paths ∈ (indexContext remote revision files options now).paths,
        replaceAll pathPlaceholder.toList paths.2.toList value.toList
          = Remote.filled url.toList revision.toList paths.2.toList := by
  obtain ⟨hservice, htemplate⟩ := Remote.leadsTo_of_accepted hremote
  have hdialect : (indexContext remote revision files options now).dialect = .generic := by
    rcases hservice with h | ⟨backslashes, h⟩ <;> simp [indexContext_eq, Remote.dialect, h]
  have hraw : Unbroken (rawUrl (indexContext remote revision files options now)).toList := by
    rw [rawUrl, String.toList_ofList]
    exact Search.unbroken_replaceAll hrevision.unbroken (htemplate.unbroken_iff.mpr hunbroken)
  have hread := readVariable?_rawUrl hdialect hrender hraw
  refine ⟨rawUrl (indexContext remote revision files options now), hread, fun paths _ => ?_⟩
  rw [rawUrl, String.toList_ofList]
  exact htemplate.replaceAll_path_revision hrevision hurl hpath paths.2.toList

/-- A plain Git server whose address has both placeholders. -/
theorem fetches_filled_gitDaemon :
    ∃ text value,
      render
          (indexContext ⟨.gitDaemon, "git://h/\x7b0\x7d/%var2%/s"⟩ "deadbeef" [⟨"/s/c.cs"⟩]
            ⟨⟨"/s"⟩, false, false, .crlf⟩ ⟨2024, 3, 5, 14, 7, 9⟩)
        = .ok text
      ∧ readVariable? "RAWURL" (splitText .crlf text) = some value
      ∧ replaceAll pathPlaceholder.toList "c.cs".toList value.toList
        = "git://h/deadbeef/c.cs/s".toList := by
  have hremote : Remote.gitDaemon "git://h/\x7brevision\x7d/\x7bfilename\x7d/s"
    = .ok ⟨.gitDaemon, "git://h/\x7b0\x7d/%var2%/s"⟩ := by decide
  have hrender : render
      (indexContext ⟨.gitDaemon, "git://h/\x7b0\x7d/%var2%/s"⟩ "deadbeef" [⟨"/s/c.cs"⟩]
        ⟨⟨"/s"⟩, false, false, .crlf⟩ ⟨2024, 3, 5, 14, 7, 9⟩)
      = .ok _ := rfl
  obtain ⟨value, hvalue, hpaths⟩ := fetches_filled (.inl hremote) (by decide) (by decide)
    (by decide) (by decide) hrender
  exact ⟨_, value, hrender, hvalue, (hpaths ("/s/c.cs", "c.cs") (by decide)).trans (by decide)⟩

end Index

end SourceServer
