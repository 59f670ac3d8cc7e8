import SourceServer.Proofs.Index.Layout
import SourceServer.Proofs.Link.RelativePath
import SourceServer.Proofs.Remote.Unbroken
import SourceServer.Proofs.Url.Authority

/-!
# Line ends in an index

An index is read line by line. Its own words end no line inside; what it shows of the remote, of the
revision and of the files is written as it is, with the line ends that it holds.

- `Index.splitText`: the lines that a reader finds.
- `Index.splitText_textOf`: they are the lines that were written when these are unbroken.
- `Index.splitText_iff`: so it is exactly when the address and the revision are unbroken.
-/

namespace SourceServer

namespace Index

/-- The lines that a reader finds in a text, and what follows the last end. -/
def splitText (ending : LineEnding) (text : String) : List String :=
  (Search.splitAll ending.text.toList text.toList).map String.ofList

/-- The beginning of a line that gives the debugger a command to run. -/
def commandKey : List Char := "SRCSRVCMD=".toList

/-- A line that gives the debugger a command to run. -/
def isCommand (line : String) : Bool :=
  commandKey.isPrefixOf line.toList

/-- The last of some lines may be a command, and no other is. -/
def CommandLast (lines : List String) : Prop :=
  ∃ front last, lines = front ++ [last] ∧ ∀ line ∈ front, isCommand line = false

/-- The texts that a head shows besides the words of its dialect. -/
def shown (context : Context) : List String :=
  match context.dialect with
  | .generic => [rawUrl context, context.revision]
  | .teamFoundation =>
    context.revision
      :: [collectionKey, projectKey, repositoryKey].filterMap fun key => context.metadata.lookup key

/-! ## Taking an index apart -/

theorem toList_textOf (ending : LineEnding) (lines : List String) :
    (textOf ending lines).toList = (lines.map String.toList).flatMap (· ++ ending.text.toList) := by
  rw [textOf]
  induction lines with
  | nil => rfl
  | cons line rest ih => simp [String.join_cons, ih]

/-- Unbroken lines in front are read back, whichever way they end and whatever follows them. -/
theorem splitText_textOf_append {front : List String}
    (h : ∀ line ∈ front, Unbroken line.toList) (ending : LineEnding) (back : List String) :
    splitText ending (textOf ending (front ++ back))
      = front ++ splitText ending (textOf ending back) := by
  have hbreak : ∀ c, isLineBreak c = true → ∀ line ∈ front.map String.toList, c ∉ line := by
    simp only [List.forall_mem_map]
    exact fun c hc line hline => (h line hline).notMem hc
  -- both ends begin with a character that no line holds
  have hsplit : Search.splitAll ending.text.toList (textOf ending (front ++ back)).toList
      = front.map String.toList ++ Search.splitAll ending.text.toList (textOf ending back).toList := by
    rw [toList_textOf, toList_textOf, List.map_append, List.flatMap_append]
    cases ending with
    | crlf => exact Search.splitAll_ended (hbreak '\r' rfl) _
    | lf => exact Search.splitAll_ended (hbreak '\n' rfl) _
  rw [splitText, splitText, hsplit]
  simp

/-- Unbroken lines are read back, and nothing follows the last end. -/
theorem splitText_textOf {lines : List String} (h : ∀ line ∈ lines, Unbroken line.toList)
    (ending : LineEnding) : splitText ending (textOf ending lines) = lines ++ [""] := by
  have hread := splitText_textOf_append h ending []
  rw [List.append_nil] at hread
  rw [hread]
  rfl

/-! ## The words of an index -/

theorem isCommand_of_eq {line : String} {characters : List Char}
    (h : line = String.ofList characters) : isCommand line = commandKey.isPrefixOf characters := by
  rw [isCommand, h, String.toList_ofList]

theorem isCommand_append {first : String} {characters : List Char}
    (h : first = String.ofList characters) (rest : String) :
    isCommand (first ++ rest) = commandKey.isPrefixOf (characters ++ rest.toList) := by
  rw [isCommand, String.toList_append, h, String.toList_ofList]

theorem unbroken_digits (n : Nat) : Unbroken (Nat.toDigits 10 n) :=
  unbroken_of_all (by decide) (by decide) fun _ hc =>
    Nat.isDigit_of_mem_toDigits (by decide) (by decide) hc

end Index

namespace Timestamp

theorem unbroken_padded (width n : Nat) : Unbroken (padded width n).toList := by
  rw [padded, String.toList_ofList, unbroken_append_iff]
  refine ⟨fun c hc => ?_, Index.unbroken_digits n⟩
  rw [List.eq_of_mem_replicate hc]
  rfl

theorem unbroken_getD {names : List String} (h : ∀ name ∈ names, Unbroken name.toList) (n : Nat) :
    Unbroken (names.getD n "").toList := by
  rw [List.getD_eq_getElem?_getD]
  cases hname : names[n]? with
  | none => exact unbroken_nil
  | some name => exact h name (List.mem_of_getElem? hname)

theorem unbroken_yearText (year : Int) : Unbroken (yearText year).toList := by
  rw [yearText]
  split
  · rw [String.toList_append, unbroken_append_iff]
    exact ⟨by decide, unbroken_padded _ _⟩
  · split
    · rw [String.toList_append, unbroken_append_iff]
      exact ⟨by decide, unbroken_padded _ _⟩
    · exact unbroken_padded _ _

theorem unbroken_render (t : Timestamp) : Unbroken t.render.toList := by
  have hspace : Unbroken " ".toList := by decide
  have hcolon : Unbroken ":".toList := by decide
  have hweekday : Unbroken (weekdayName t.weekday).toList := unbroken_getD (by decide) _
  have hmonth : Unbroken (monthName t.month).toList := unbroken_getD (by decide) _
  simp only [render, String.toList_append, unbroken_append_iff, hspace, hcolon, hweekday, hmonth,
    unbroken_padded, unbroken_yearText, and_true]

end Timestamp

namespace Index

theorem isLineBreak_lowerChar (c : Char) : isLineBreak (Ascii.lowerChar c) = isLineBreak c := by
  rw [Ascii.lowerChar]
  split
  · rename_i hcapital
    exact Ascii.forall_capital
      (P := fun c => isLineBreak (Char.ofNat (c.toNat + 32)) = isLineBreak c) (by decide) hcapital
  · rfl

/-- The scheme of a URL holds letters, digits and a few signs. -/
theorem unbroken_scheme {text : String} {url : Url} (h : Url.parse text = .ok url) :
    Unbroken url.scheme.toList := by
  obtain ⟨scheme, rest, hsplit, -, hname⟩ := Url.parse_eq_ok_iff.mp h
  obtain ⟨letters, -, rfl, hletters, -⟩ := Url.splitScheme?_eq_some_iff.mp hsplit
  rw [hname, String.toList_ofList]
  intro c hc
  obtain ⟨x, hx, rfl⟩ := List.mem_map.mp hc
  rw [isLineBreak_lowerChar]
  exact unbroken_of_all (by decide) (by decide) hletters x hx

/-- How files are obtained is told in unbroken lines. -/
theorem unbroken_retrievalLines {context : Context} {lines : List String}
    (h : retrievalLines context = .ok lines) : ∀ line ∈ lines, Unbroken line.toList := by
  rw [retrievalLines] at h
  cases hretrieval : context.retrieval with
  | archive =>
    rw [hretrieval] at h
    rw [← Except.ok.inj h]
    simp only [List.forall_mem_cons, String.toList_append, unbroken_append_iff]
    refine ⟨?_, ?_, ?_, ?_, ⟨⟨⟨?_, ?_⟩, ?_⟩, ?_⟩, ?_, ?_, by simp⟩
    all_goals exact unbroken_of_eq rfl (by decide)
  | powershell =>
    rw [hretrieval] at h
    rw [← Except.ok.inj h]
    simp only [List.forall_mem_cons, String.toList_append, unbroken_append_iff]
    refine ⟨?_, ?_, ⟨⟨?_, ?_⟩, ?_⟩, by simp⟩
    all_goals exact unbroken_of_eq rfl (by decide)
  | direct =>
    rw [hretrieval] at h
    dsimp only at h
    cases hurl : Url.parse context.template with
    | error fault => rw [hurl] at h; cases h
    | ok url =>
      rw [hurl] at h
      rw [← Except.ok.inj h]
      simp only [List.forall_mem_cons, String.toList_append, unbroken_append_iff]
      exact ⟨⟨by decide, unbroken_scheme hurl⟩, by decide, by simp⟩

/-- How files are obtained is told with one command at most. -/
theorem commandLast_retrievalLines {context : Context} {lines : List String}
    (h : retrievalLines context = .ok lines) : CommandLast lines := by
  rw [retrievalLines] at h
  cases hretrieval : context.retrieval with
  | archive =>
    rw [hretrieval] at h
    rw [← Except.ok.inj h]
    refine ⟨[_, _, _, _, _, _], _, rfl, ?_⟩
    simp only [List.forall_mem_cons, String.append_assoc, isCommand_append rfl]
    exact ⟨(isCommand_of_eq rfl).trans rfl, (isCommand_of_eq rfl).trans rfl,
      (isCommand_of_eq rfl).trans rfl, (isCommand_of_eq rfl).trans rfl, rfl,
      (isCommand_of_eq rfl).trans rfl, by simp⟩
  | powershell =>
    rw [hretrieval] at h
    rw [← Except.ok.inj h]
    refine ⟨[_, _], _, rfl, ?_⟩
    simp only [List.forall_mem_cons]
    exact ⟨(isCommand_of_eq rfl).trans rfl, (isCommand_of_eq rfl).trans rfl, by simp⟩
  | direct =>
    rw [hretrieval] at h
    dsimp only at h
    cases hurl : Url.parse context.template with
    | error fault => rw [hurl] at h; cases h
    | ok url =>
      rw [hurl] at h
      rw [← Except.ok.inj h]
      refine ⟨[_], _, rfl, ?_⟩
      simp only [List.forall_mem_singleton]
      exact (isCommand_append rfl _).trans rfl

/-! ## Heads -/

theorem shortRevision_eq_ok {revision short : String} (h : shortRevision revision = .ok short) :
    short = String.ofList (revision.toList.take shortLength) := by
  simp only [shortRevision] at h
  split at h
  · exact (Except.ok.inj h).symm
  · cases h

/-- A variable whose name begins otherwise is no command, whatever it holds. -/
theorem isCommand_of_mem_metadataLine {context : Context} {key line : String}
    {characters : List Char} (hkey : key = String.ofList characters)
    (hother : ∀ rest, commandKey.isPrefixOf (characters ++ rest) = false)
    (h : line ∈ metadataLine context key) : isCommand line = false := by
  rw [metadataLine] at h
  cases hvalue : context.metadata.lookup key with
  | none => simp [hvalue] at h
  | some value =>
    rw [hvalue] at h
    rw [List.mem_singleton.mp h, String.append_assoc, isCommand_append hkey]
    exact hother _

/-- A head gives one command at most, whatever the remote and the revision hold. -/
theorem Head.commandLast {context : Context} {head : List String} (h : Head context head) :
    CommandLast head := by
  cases h with
  | generic hdialect hretrieval =>
    -- the command is among the lines that say how files are obtained, and these stand last
    obtain ⟨front, last, rfl, hfront⟩ := commandLast_retrievalLines hretrieval
    refine ⟨_, last, (List.append_assoc _ front [last]).symm, ?_⟩
    simp only [List.forall_mem_append, List.forall_mem_cons]
    refine ⟨⟨(isCommand_of_eq rfl).trans rfl, (isCommand_of_eq rfl).trans rfl,
      (isCommand_of_eq rfl).trans rfl, (isCommand_append rfl _).trans rfl,
      (isCommand_append rfl _).trans rfl, by simp⟩, hfront⟩
  | @teamFoundation short hdialect hshort =>
    refine ⟨_ ++ _ ++ _ ++ _ ++ [_, _, _, _, _, _, _], "SRCSRVCMD=%TFS_EXTRACT_CMD%",
      (List.append_assoc _ [_, _, _, _, _, _, _] [_]).symm, ?_⟩
    simp only [List.forall_mem_append, List.forall_mem_cons, String.append_assoc]
    refine ⟨⟨⟨⟨?_, ?_⟩, ?_⟩, ?_⟩, ?_⟩
    · exact ⟨(isCommand_of_eq rfl).trans rfl, (isCommand_of_eq rfl).trans rfl,
        (isCommand_of_eq rfl).trans rfl, (isCommand_of_eq rfl).trans rfl,
        (isCommand_append rfl _).trans rfl, (isCommand_of_eq rfl).trans rfl,
        (isCommand_of_eq rfl).trans rfl, (isCommand_of_eq rfl).trans rfl,
        (isCommand_append rfl _).trans rfl, by simp⟩
    · exact fun line => isCommand_of_mem_metadataLine rfl fun _ => rfl
    · exact fun line => isCommand_of_mem_metadataLine rfl fun _ => rfl
    · exact fun line => isCommand_of_mem_metadataLine rfl fun _ => rfl
    · exact ⟨(isCommand_append rfl _).trans rfl, (isCommand_append rfl _).trans rfl,
        (isCommand_of_eq rfl).trans rfl, (isCommand_of_eq rfl).trans rfl,
        (isCommand_of_eq rfl).trans rfl, (isCommand_of_eq rfl).trans rfl,
        (isCommand_of_eq rfl).trans rfl, by simp⟩

theorem unbroken_metadataLine_iff {context : Context} {key : String}
    (hkey : Unbroken key.toList) :
    (∀ line ∈ metadataLine context key, Unbroken line.toList)
      ↔ ∀ value, context.metadata.lookup key = some value → Unbroken value.toList := by
  have hequals : Unbroken "=".toList := by decide
  rw [metadataLine]
  cases context.metadata.lookup key with
  | none => simp
  | some value =>
    simp only [List.forall_mem_singleton, String.toList_append, unbroken_append_iff, hkey, hequals,
      true_and, Option.some.injEq, forall_eq']

/-- The lines of a head are unbroken exactly when the texts that it shows are. -/
theorem Head.unbroken_iff {context : Context} {head : List String} (h : Head context head) :
    (∀ line ∈ head, Unbroken line.toList) ↔ ∀ text ∈ shown context, Unbroken text.toList := by
  cases h with
  | generic hdialect hretrieval =>
    have hini : Unbroken iniHeader.toList := unbroken_of_eq rfl (by decide)
    have hversion : Unbroken "VERSION=2".toList := unbroken_of_eq rfl (by decide)
    have hvariables : Unbroken variablesHeader.toList := unbroken_of_eq rfl (by decide)
    have hraw : Unbroken "RAWURL=".toList := unbroken_of_eq rfl (by decide)
    have hrevision : Unbroken "GITREVISION=".toList := unbroken_of_eq rfl (by decide)
    have hretrieved := unbroken_retrievalLines hretrieval
    simp only [genericHead, shown, hdialect, List.forall_mem_append, List.forall_mem_cons,
      String.toList_append, unbroken_append_iff, hini, hversion, hvariables, hraw, hrevision,
      true_and, and_iff_left hretrieved]
  | @teamFoundation short hdialect hshort =>
    have hshown : (∀ text ∈ shown context, Unbroken text.toList)
        ↔ Unbroken context.revision.toList
          ∧ (∀ line ∈ metadataLine context collectionKey, Unbroken line.toList)
          ∧ (∀ line ∈ metadataLine context projectKey, Unbroken line.toList)
          ∧ ∀ line ∈ metadataLine context repositoryKey, Unbroken line.toList := by
      rw [unbroken_metadataLine_iff (by decide), unbroken_metadataLine_iff (by decide),
        unbroken_metadataLine_iff (by decide), shown, hdialect]
      simp [List.mem_filterMap, or_imp, forall_and]
    -- the short revision is a part of the revision, so it adds no condition
    have hshortened : Unbroken context.revision.toList → Unbroken short.toList := by
      intro hrevision
      rw [shortRevision_eq_ok hshort, String.toList_ofList]
      exact hrevision.mono (List.take_subset _ _)
    rw [hshown]
    simp only [teamFoundationHead, List.forall_mem_append, List.forall_mem_cons,
      String.toList_append, unbroken_append_iff]
    constructor
    · rintro ⟨⟨⟨⟨-, hcollection⟩, hproject⟩, hrepository⟩, ⟨-, hrevision⟩, -⟩
      exact ⟨hrevision, hcollection, hproject, hrepository⟩
    · rintro ⟨hrevision, hcollection, hproject, hrepository⟩
      refine ⟨⟨⟨⟨⟨?_, ?_, ?_, ?_, ⟨?_, Timestamp.unbroken_render _⟩, ?_, ?_, ?_, ⟨⟨?_, ?_⟩, ?_⟩,
        by simp⟩, hcollection⟩, hproject⟩, hrepository⟩, ⟨?_, hrevision⟩,
        ⟨?_, hshortened hrevision⟩, ?_, ?_, ?_, ?_, ?_, ?_, by simp⟩
      all_goals exact unbroken_of_eq rfl (by decide)

/-! ## The whole index -/

theorem unbroken_entry_iff (dialect : Dialect) (paths : String × String) :
    Unbroken (entry dialect paths).toList ↔ Unbroken paths.1.toList ∧ Unbroken paths.2.toList := by
  have hstar : Unbroken "*".toList := by decide
  have htokens : Unbroken
      "*TFS_COLLECTION*TFS_TEAM_PROJECT*TFS_REPO*TFS_COMMIT*TFS_SHORT_COMMIT*".toList :=
    unbroken_of_eq rfl (by decide)
  have hfilters : Unbroken "*TFS_APPLY_FILTERS".toList := by decide
  cases dialect <;> simp only [entry, genericEntry, teamFoundationEntry, String.toList_append,
    unbroken_append_iff, hstar, htokens, hfilters, and_true]

/-- The lines of an index are unbroken exactly when everything that it shows is. -/
theorem unbroken_layout_iff {context : Context} {head : List String} (h : Head context head) :
    (∀ line ∈ layout context head, Unbroken line.toList)
      ↔ (∀ text ∈ shown context, Unbroken text.toList)
        ∧ ∀ paths ∈ context.paths, Unbroken paths.1.toList ∧ Unbroken paths.2.toList := by
  have hentries : Unbroken entriesHeader.toList := unbroken_of_eq rfl (by decide)
  have hterminator : Unbroken terminator.toList := unbroken_of_eq rfl (by decide)
  rw [← h.unbroken_iff, layout]
  simp only [List.forall_mem_append, List.forall_mem_singleton, hentries, hterminator, and_true,
    List.forall_mem_map, unbroken_entry_iff]

end Index

namespace Remote

section TeamServices

variable {remote : Remote} {collection project repository : String}

theorem dialect_of_teamServices (h : remote.service = .teamServices collection project repository) :
    remote.dialect = .teamFoundation := by
  rw [dialect, h]

theorem metadata_of_teamServices
    (h : remote.service = .teamServices collection project repository) :
    remote.metadata = [(Index.collectionKey, collection), (Index.repositoryKey, repository),
      (Index.projectKey, project)] := by
  rw [metadata, h]

end TeamServices

theorem unbroken_relativePath (remote : Remote) {path : String} (h : Unbroken path.toList) :
    Unbroken (remote.relativePath path).toList := by
  rw [relativePath, String.toList_ofList]
  refine Unbroken.mono ?_ (List.dropWhile_suffix _).subset
  intro c hc
  obtain ⟨x, hx, rfl⟩ := List.mem_map.mp hc
  split
  · split <;> rfl
  · exact h x hx

end Remote

namespace Index

variable {url revision : String} {remote : Remote} {files : List Path} {options : LinkOptions}
  {now : Timestamp}

/-- An index for Team Services shows the revision and the parts of the remote. -/
theorem shown_of_teamServices {context : Context} {collection project repository : String}
    (h : remote.service = .teamServices collection project repository)
    (hdialect : context.dialect = remote.dialect) (hmetadata : context.metadata = remote.metadata) :
    shown context = [context.revision, collection, project, repository] := by
  simp only [shown, hdialect, hmetadata, Remote.dialect_of_teamServices h,
    Remote.metadata_of_teamServices h]
  rfl

/-- What an index shows of the remote and the revision is unbroken exactly when the address and the
revision are. -/
theorem unbroken_shown_iff (hremote : Remote.detect url = .ok remote) :
    (∀ text ∈ shown (indexContext remote revision files options now), Unbroken text.toList)
      ↔ Unbroken url.toList ∧ Unbroken revision.toList := by
  cases hdialect : remote.dialect with
  | generic =>
    simp only [shown, indexContext_eq, hdialect, List.forall_mem_cons, rawUrl,
      String.toList_ofList]
    rw [← Remote.unbroken_template_iff hremote]
    -- the revision is put into the template, where it replaces an unbroken placeholder
    constructor
    · rintro ⟨hraw, hrevision, -⟩
      exact ⟨Search.unbroken_of_replaceAll (by decide) (by decide) hraw, hrevision⟩
    · rintro ⟨htemplate, hrevision⟩
      exact ⟨Search.unbroken_replaceAll hrevision htemplate, hrevision, by simp⟩
  | teamFoundation =>
    rw [← Remote.unbroken_metadata_iff hremote hdialect]
    cases hservice : remote.service with
    | teamServices collection project repository =>
      have hshown : shown (indexContext remote revision files options now)
          = [revision, collection, project, repository] :=
        shown_of_teamServices hservice rfl rfl
      rw [hshown, Remote.metadata_of_teamServices hservice]
      simp only [List.forall_mem_cons]
      constructor
      · rintro ⟨hrevision, hcollection, hproject, hrepository, -⟩
        exact ⟨⟨hcollection, hrepository, hproject, by simp⟩, hrevision⟩
      · rintro ⟨⟨hcollection, hrepository, hproject, -⟩, hrevision⟩
        exact ⟨hrevision, hcollection, hproject, hrepository, by simp⟩
    | gitDaemon => simp [Remote.dialect, hservice] at hdialect
    | gitHub owner repository => simp [Remote.dialect, hservice] at hdialect
    | customUrl backslashes => simp [Remote.dialect, hservice] at hdialect

/-- A reader of an index finds the head of the dialect, one line for each file and the terminator,
with no line end inside a line. One line of the head at most is a command. -/
def ReadsAsWritten (context : Context) (rendered : String) : Prop :=
  ∃ head, Head context head ∧ CommandLast head
    ∧ splitText context.lineEnding rendered = layout context head ++ [""]
    ∧ ∀ line ∈ splitText context.lineEnding rendered, Unbroken line.toList

theorem ReadsAsWritten.unbroken {rendered : String} (hremote : Remote.detect url = .ok remote)
    (h : ReadsAsWritten (indexContext remote revision files options now) rendered) :
    Unbroken url.toList ∧ Unbroken revision.toList := by
  obtain ⟨head, hhead, -, hsplit, hunbroken⟩ := h
  rw [hsplit] at hunbroken
  have hlayout := (List.forall_mem_append.mp hunbroken).1
  exact (unbroken_shown_iff hremote).mp ((unbroken_layout_iff hhead).mp hlayout).1

/-- **An index reads as it was written exactly when the address and the revision are unbroken.** An
address or a revision may be accepted with a line end inside; then it adds a line to the index, and
that line may be a command. -/
theorem readsAsWritten_iff {rendered : String} (hremote : Remote.detect url = .ok remote)
    (hfiles : ∀ file ∈ files, Unbroken file.text.toList)
    (hrendered : render (indexContext remote revision files options now) = .ok rendered) :
    ReadsAsWritten (indexContext remote revision files options now) rendered
      ↔ Unbroken url.toList ∧ Unbroken revision.toList := by
  refine ⟨fun h => h.unbroken hremote, fun h => ?_⟩
  have hpaths : ∀ paths ∈ (indexContext remote revision files options now).paths,
      Unbroken paths.1.toList ∧ Unbroken paths.2.toList := by
    intro paths hpath
    rw [paths_indexContext] at hpath
    obtain ⟨file, hfile, rfl⟩ := List.mem_map.mp hpath
    have htext := hfiles file hfile
    rw [entryPaths_eq]
    exact ⟨htext, remote.unbroken_relativePath
      (htext.mono (relativeToRoot_suffix file.text options.root).subset)⟩
  obtain ⟨lines, hlines, rfl⟩ := render_eq_ok.mp hrendered
  obtain ⟨head, hhead, rfl⟩ := lines_eq_ok hlines
  have hlayout := (unbroken_layout_iff hhead).mpr ⟨(unbroken_shown_iff hremote).mpr h, hpaths⟩
  have hsplit := splitText_textOf hlayout
    (indexContext remote revision files options now).lineEnding
  refine ⟨head, hhead, hhead.commandLast, hsplit, ?_⟩
  rw [hsplit, List.forall_mem_append, List.forall_mem_singleton]
  exact ⟨hlayout, unbroken_nil⟩

/-- An ordinary address and revision. -/
theorem readsAsWritten_of_gitHub :
    ∃ rendered,
      render
          (indexContext ⟨.gitHub "a" "b", "https://raw.githubusercontent.com/a/b/\x7b0\x7d/%var2%"⟩
            "deadbeef" [⟨"/s/c.cs"⟩] ⟨⟨"/s"⟩, true, false, .crlf⟩ ⟨2024, 3, 5, 14, 7, 9⟩)
        = .ok rendered
      ∧ ReadsAsWritten
        (indexContext ⟨.gitHub "a" "b", "https://raw.githubusercontent.com/a/b/\x7b0\x7d/%var2%"⟩
          "deadbeef" [⟨"/s/c.cs"⟩] ⟨⟨"/s"⟩, true, false, .crlf⟩ ⟨2024, 3, 5, 14, 7, 9⟩)
        rendered := by
  have hremote : Remote.detect "https://github.com/a/b" = .ok _ := rfl
  exact ⟨_, rfl, (readsAsWritten_iff hremote (by decide) rfl).mpr (by decide)⟩

/-- An accepted address that adds a command to an index. -/
theorem not_readsAsWritten :
    ∃ url remote rendered, Remote.detect url = .ok remote
      ∧ Revision.ofText "deadbeef" = .ok "deadbeef"
      ∧ render (indexContext remote "deadbeef" [] ⟨⟨""⟩, true, false, .lf⟩ ⟨2024, 3, 5, 14, 7, 9⟩)
        = .ok rendered
      ∧ ¬ ReadsAsWritten
        (indexContext remote "deadbeef" [] ⟨⟨""⟩, true, false, .lf⟩ ⟨2024, 3, 5, 14, 7, 9⟩)
        rendered := by
  have hremote : Remote.detect "https://github.com/a\nSRCSRVCMD=calc/b" = .ok _ := rfl
  refine ⟨_, _, _, hremote, by decide, rfl, fun h => ?_⟩
  exact absurd (h.unbroken hremote).1 (by decide)

end Index

end SourceServer
