import SourceServer.Text.Search
import SourceServer.Timestamp
import SourceServer.Unicode.Blank
import SourceServer.Url

/-!
# Source indexes

A source index tells a debugger how to fetch the files that a symbol file was compiled from. It is a
text of lines: a header, variables, one entry for each file, and a terminator. The debugger reads
these exact tokens; entries separate their fields with `*`.

- `Index.Context`: everything an index says.
- `Index.lines`: its lines, or why there is none.
- `Index.render`: its text.
-/

namespace SourceServer

namespace Index

/-- How the debugger obtains a file in the generic dialect (`DownloadStrategy`). -/
inductive Retrieval where
  /-- The debugger fetches the URL itself. -/
  | direct
  /-- A whole revision is archived, unpacked and used. -/
  | archive
  /-- One file is downloaded by a PowerShell command. -/
  | powershell
deriving DecidableEq

/-- The form of an index (`IndexDialect`). -/
inductive Dialect where
  | generic
  /-- Files are extracted by the command of a Team Foundation collection. -/
  | teamFoundation
deriving DecidableEq

/-- How a line ends. -/
inductive LineEnding where
  | crlf
  | lf
deriving DecidableEq

/-- The characters that end a line. -/
def LineEnding.text : LineEnding → String
  | .crlf => "\r\n"
  | .lf => "\n"

/-- The place of the revision in a URL template (`REVISION_PLACEHOLDER`). -/
def revisionPlaceholder : String := "\x7b0\x7d"

/-- The place of an entry's relative path in a URL template (`PATH_PLACEHOLDER`). -/
def pathPlaceholder : String := "%var2%"

/-- The name of the variable that holds a Team Foundation collection. -/
def collectionKey : String := "TFS_COLLECTION"

/-- The name of the variable that holds a team project. -/
def projectKey : String := "TFS_TEAM_PROJECT"

/-- The name of the variable that holds a repository. -/
def repositoryKey : String := "TFS_REPO"

/-- Whether a template or remote speaks the protocol of a plain Git server. -/
def isGitUrl (url : String) : Bool :=
  (Ascii.dropPrefixIgnoringCase? "git://".toList url.toList).isSome

/-- A plain Git server can only be asked for archives (`DownloadStrategy::for_template`); from all
others files are fetched. -/
def Retrieval.ofTemplate (template : String) (powershell : Bool) : Retrieval :=
  if isGitUrl template then .archive else if powershell then .powershell else .direct

/-- Everything an index says (`SourceIndexContext`). -/
structure Context where
  revision : String
  /-- The URL of a file, with a placeholder for the revision and one for the path. -/
  template : String
  /-- The local and the relative path of each file, in the order of the entries. -/
  paths : List (String × String)
  retrieval : Retrieval
  dialect : Dialect
  /-- Variables of the host by their names. -/
  metadata : List (String × String)
  timestamp : Timestamp
  lineEnding : LineEnding

/-- Why an index cannot be written. -/
inductive Fault where
  | emptyRevision
  | emptyTemplate
  /-- The revision does not begin with eight hexadecimal digits. -/
  | noShortRevision (revision : String)
  | invalidTemplate (template : String) (fault : Url.Fault)
deriving DecidableEq

/-- The length of the short form of a revision (`SHORT_REVISION_LEN`). -/
def shortLength : Nat := 8

/-- The wording of a fault. -/
def Fault.message : Fault → String
  | .emptyRevision => "revision is empty"
  | .emptyTemplate => "raw URL template is empty"
  | .noShortRevision revision =>
    "revision '" ++ revision ++ "' must start with " ++ toString shortLength ++ " hex characters"
  | .invalidTemplate template fault =>
    "raw URL template '" ++ template ++ "' is not a URL: " ++ fault.message

/-- The first eight characters of a revision, which must be hexadecimal digits
(`short_revision`). -/
def shortRevision (revision : String) : Except Fault String :=
  let short := revision.toList.take shortLength
  if short.length = shortLength ∧ short.all Ascii.isHexDigit then .ok (String.ofList short)
  else .error (.noShortRevision revision)

/-! ## Lines -/

/-- The line above the entries. -/
def entriesHeader : String :=
  "SRCSRV: source files ---------------------------------------"

/-- The line below the entries. -/
def terminator : String :=
  "SRCSRV: end ------------------------------------------------"

/-- The first line. -/
def iniHeader : String :=
  "SRCSRV: ini ------------------------------------------------"

/-- The line above the variables. -/
def variablesHeader : String :=
  "SRCSRV: variables ------------------------------------------"

/-- The template with the revision put in. -/
def rawUrl (context : Context) : String :=
  String.ofList
    (Search.replaceAll revisionPlaceholder.toList context.revision.toList context.template.toList)

/-- The variables that say how a file is obtained. -/
def retrievalLines (context : Context) : Except Fault (List String) :=
  match context.retrieval with
  | .archive =>
    .ok
      ["TRGFILE=%fnbksl%(%targ%\\%GITREVISION%\\%var2%)",
        "TMPZIP=%fnbksl%(%targ%\\%fnfile%(%var2%)).zip",
        "SRCSRVTRG=%TRGFILE%",
        "CMDGITARCHIVE=git.exe archive --format zip --remote %RAWURL% -o \"%TMPZIP%\"",
        "CMDUNZIP=powershell invoke-command -scriptblock \x7b\x7d; "
          ++ "Add-Type -AssemblyName System.IO.Compression.FileSystem; "
          ++ "[System.IO.Compression.ZipFile]::ExtractToDirectory("
          ++ "'%TMPZIP%', '%targ%\\%GITREVISION%');",
        -- the second quote closes the one that the command line below opens
        "CMDDELZIP=del \"%TMPZIP%\"\"",
        "SRCSRVCMD=cmd /c \"%CMDGITARCHIVE% && %CMDUNZIP% && %CMDDELZIP%"]
  | .powershell =>
    .ok
      ["TRGFILE=%fnbksl%(%targ%%var2%)",
        "SRCSRVTRG=%TRGFILE%",
        "SRCSRVCMD=powershell invoke-command -scriptblock "
          ++ "\x7bparam($url='%RAWURL%', $output='%TRGFILE%'); "
          ++ "(New-Object System.Net.WebClient).DownloadFile($url, $output)\x7d"]
  | .direct =>
    match Url.parse context.template with
    | .error fault => .error (.invalidTemplate context.template fault)
    | .ok url => .ok ["SRCSRVVERCTRL=" ++ url.scheme, "SRCSRVTRG=%RAWURL%"]

/-- The entry of a file in the generic dialect. -/
def genericEntry (paths : String × String) : String :=
  paths.1 ++ "*" ++ paths.2

/-- The lines of an index in the generic dialect (`render_generic`). -/
def genericLines (context : Context) : Except Fault (List String) :=
  if Unicode.onlyBlanks context.template then .error .emptyTemplate
  else
    match retrievalLines context with
    | .error fault => .error fault
    | .ok retrieval =>
      .ok
        ([iniHeader, "VERSION=2", variablesHeader, "RAWURL=" ++ rawUrl context,
            "GITREVISION=" ++ context.revision]
          ++ retrieval ++ [entriesHeader] ++ context.paths.map genericEntry ++ [terminator])

/-- The line of a variable of the host, when the host has it. -/
def metadataLine (context : Context) (key : String) : List String :=
  match context.metadata.lookup key with
  | some value => [key ++ "=" ++ value]
  | none => []

/-- The entry of a file in the Team Foundation dialect. -/
def teamFoundationEntry (paths : String × String) : String :=
  paths.1 ++ "*TFS_COLLECTION*TFS_TEAM_PROJECT*TFS_REPO*TFS_COMMIT*TFS_SHORT_COMMIT*" ++ paths.2
    ++ "*TFS_APPLY_FILTERS"

/-- The lines of an index in the Team Foundation dialect (`render_team_foundation`). -/
def teamFoundationLines (context : Context) : Except Fault (List String) :=
  match shortRevision context.revision with
  | .error fault => .error fault
  | .ok short =>
    .ok
      ([iniHeader, "VERSION=3", "INDEXVERSION=2", "VERCTRL=Team Foundation Server",
          "DATETIME=" ++ context.timestamp.render, "INDEXER=TFSTB", variablesHeader,
          "TFS_EXTRACT_TARGET=%targ%\\%var5%\\%fnvar%(%var6%)\\%fnbksl%(%var7%)",
          "TFS_EXTRACT_CMD=tf.exe git view /collection:%fnvar%(%var2%) "
            ++ "/teamproject:\"%fnvar%(%var3%)\" /repository:\"%fnvar%(%var4%)\" "
            ++ "/commitId:%fnvar%(%var5%) /path:\"%var7%\" /output:%SRCSRVTRG% %fnvar%(%var8%)"]
        ++ metadataLine context collectionKey ++ metadataLine context projectKey
        ++ metadataLine context repositoryKey
        ++ ["TFS_COMMIT=" ++ context.revision, "TFS_SHORT_COMMIT=" ++ short,
          "TFS_APPLY_FILTERS=/applyfilters", "SRCSRVVERCTRL=git", "SRCSRVERRDESC=access",
          "SRCSRVERRVAR=var2", "SRCSRVTRG=%TFS_EXTRACT_TARGET%", "SRCSRVCMD=%TFS_EXTRACT_CMD%",
          entriesHeader]
        ++ context.paths.map teamFoundationEntry ++ [terminator])

/-- The lines of an index in its dialect. -/
def lines (context : Context) : Except Fault (List String) :=
  if Unicode.onlyBlanks context.revision then .error .emptyRevision
  else
    match context.dialect with
    | .generic => genericLines context
    | .teamFoundation => teamFoundationLines context

/-- The text of an index (`build_source_index`): every line with its end. -/
def render (context : Context) : Except Fault String :=
  match lines context with
  | .error fault => .error fault
  | .ok lines => .ok (String.join (lines.map (· ++ context.lineEnding.text)))

end Index

end SourceServer
