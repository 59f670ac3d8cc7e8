import SourceServer.Index

/-!
# Layout of an index

Whatever the dialect, the lines of an index are a head of header and variable lines, the line above
the entries, one line for each file and the terminator.

- `Index.Head`: the heads that the dialects have.
- `Index.entry`: the line of a file.
- `Index.lines_eq_ok`: the layout.
- `Index.render_eq_ok`: the text of the lines.
-/

namespace SourceServer

namespace Index

/-- The header and variable lines of the generic dialect; how files are obtained stands last. -/
def genericHead (context : Context) (retrieval : List String) : List String :=
  [iniHeader, "VERSION=2", variablesHeader, "RAWURL=" ++ rawUrl context,
    "GITREVISION=" ++ context.revision] ++ retrieval

/-- The header and variable lines of the Team Foundation dialect. -/
def teamFoundationHead (context : Context) (short : String) : List String :=
  [iniHeader, "VERSION=3", "INDEXVERSION=2", "VERCTRL=Team Foundation Server",
      "DATETIME=" ++ context.timestamp.render, "INDEXER=TFSTB", variablesHeader,
      "TFS_EXTRACT_TARGET=%targ%\\%var5%\\%fnvar%(%var6%)\\%fnbksl%(%var7%)",
      "TFS_EXTRACT_CMD=tf.exe git view /collection:%fnvar%(%var2%) "
        ++ "/teamproject:\"%fnvar%(%var3%)\" /repository:\"%fnvar%(%var4%)\" "
        ++ "/commitId:%fnvar%(%var5%) /path:\"%var7%\" /output:%SRCSRVTRG% %fnvar%(%var8%)"]
    ++ metadataLine context collectionKey ++ metadataLine context projectKey
    ++ metadataLine context repositoryKey
    ++ ["TFS_COMMIT=" ++ context.revision, "TFS_SHORT_COMMIT=" ++ short,
      "TFS_APPLY_FILTERS=/applyfilters", "SRCSRVVERCTRL=git", "SRCSRVERRDESC=access",
      "SRCSRVERRVAR=var2", "SRCSRVTRG=%TFS_EXTRACT_TARGET%", "SRCSRVCMD=%TFS_EXTRACT_CMD%"]

/-- The lines that stand above the entries in the dialect of a context. -/
inductive Head (context : Context) : List String → Prop
  | generic {retrieval : List String} (hdialect : context.dialect = .generic)
      (hretrieval : retrievalLines context = .ok retrieval) :
      Head context (genericHead context retrieval)
  | teamFoundation {short : String} (hdialect : context.dialect = .teamFoundation)
      (hshort : shortRevision context.revision = .ok short) :
      Head context (teamFoundationHead context short)

/-- The line of a file in a dialect. -/
def entry : Dialect → String × String → String
  | .generic => genericEntry
  | .teamFoundation => teamFoundationEntry

/-- The lines of an index with this head. -/
def layout (context : Context) (head : List String) : List String :=
  head ++ [entriesHeader] ++ context.paths.map (entry context.dialect) ++ [terminator]

/-- Lines as a text, each with its end. -/
def textOf (ending : LineEnding) (lines : List String) : String :=
  String.join (lines.map (· ++ ending.text))

/-- The lines of an index are a head of its dialect, the entries in the order of the files, and the
terminator. -/
theorem lines_eq_ok {context : Context} {lines : List String}
    (h : Index.lines context = .ok lines) :
    ∃ head, Head context head ∧ lines = layout context head := by
  rw [Index.lines] at h
  split at h
  · cases h
  · cases hdialect : context.dialect with
    | generic =>
      simp only [hdialect, genericLines] at h
      split at h
      · cases h
      · cases hretrieval : retrievalLines context with
        | error fault => simp [hretrieval] at h
        | ok retrieval =>
          simp only [hretrieval, Except.ok.injEq] at h
          refine ⟨_, .generic hdialect hretrieval, ?_⟩
          rw [← h, layout, hdialect]
          rfl
    | teamFoundation =>
      simp only [hdialect, teamFoundationLines] at h
      cases hshort : shortRevision context.revision with
      | error fault => simp [hshort] at h
      | ok short =>
        simp only [hshort, Except.ok.injEq] at h
        refine ⟨_, .teamFoundation hdialect hshort, ?_⟩
        rw [← h, layout, hdialect, teamFoundationHead]
        simp [entry]

theorem render_eq_ok {context : Context} {text : String} :
    render context = .ok text ↔
      ∃ lines, Index.lines context = .ok lines ∧ text = textOf context.lineEnding lines := by
  rw [render]
  cases Index.lines context <;> simp [textOf, eq_comm]

end Index

end SourceServer
