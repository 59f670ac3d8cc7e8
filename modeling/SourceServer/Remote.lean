import SourceServer.Index
import SourceServer.Remote.Shape

/-!
# Remotes

A remote is the place that serves the source files of every revision. It is chosen once from the
address that the user gives, and decides the URL template, the dialect of the index and the
separator of its relative paths.

- `Remote.detect`: the first kind of remote that accepts an address.
- `Remote.gitDaemon`, `Remote.gitHub`, `Remote.teamServices`, `Remote.customUrl`: the kinds one by
  one.
- `Remote.relativePath`: how a path is written in an entry.
- `Revision.ofText`: the revision that the user gives.
-/

namespace SourceServer

namespace Remote

/-- What kind of service a remote is (`Provider`). -/
inductive Service where
  /-- A plain Git server that hands out archives. -/
  | gitDaemon
  | gitHub (owner repository : String)
  | teamServices (collection project repository : String)
  /-- Any other server of the web. -/
  | customUrl (backslashes : Bool)
deriving DecidableEq

/-- Why an address or a revision is refused. -/
inductive Fault where
  | emptyUrl
  | notGitDaemon (url : String)
  /-- A plain Git server needs both placeholders. -/
  | missingPlaceholders (url : String)
  /-- Each placeholder has to occur once. -/
  | unevenPlaceholders (url : String)
  | notGitHub (url : String)
  | notTeamServices (url : String)
  | invalidUrl (url : String) (fault : Url.Fault)
  | unsupportedScheme (scheme url : String)
  | noRevision
deriving DecidableEq

/-- The place of the revision in an address (`USER_REVISION_PLACEHOLDER`). -/
def userRevision : String := "\x7brevision\x7d"

/-- The place of the file's path in an address (`USER_FILENAME_PLACEHOLDER`). -/
def userFilename : String := "\x7bfilename\x7d"

/-- The wording of a fault. -/
def Fault.message : Fault → String
  | .emptyUrl => "remote URL is empty"
  | .notGitDaemon url => "'" ++ url ++ "' is not a git:// remote"
  | .missingPlaceholders url =>
    "git remote '" ++ url ++ "' needs both " ++ userRevision ++ " and " ++ userFilename
      ++ " placeholders"
  | .unevenPlaceholders url =>
    "'" ++ url ++ "' must contain exactly one " ++ userRevision ++ " and one " ++ userFilename
      ++ " placeholder"
  | .notGitHub url => "'" ++ url ++ "' is not a GitHub repository URL"
  | .notTeamServices url => "'" ++ url ++ "' is not a Team Services repository URL"
  | .invalidUrl url fault => "'" ++ url ++ "' is not a valid URL: " ++ fault.message
  | .unsupportedScheme scheme url => "unsupported scheme '" ++ scheme ++ "' in '" ++ url ++ "'"
  | .noRevision => "no revision supplied"

end Remote

/-- A place that serves source files. -/
structure Remote where
  service : Remote.Service
  /-- The URL of a file, with a placeholder for the revision and one for the path. -/
  template : String
deriving DecidableEq

namespace Remote

/-- The template of an address with placeholders (`rewrite_placeholders`): `none` when it has no
placeholder at all. -/
def templateOf? (url : String) : Except Fault (Option String) :=
  let revised :=
    Search.replaceAll userRevision.toList Index.revisionPlaceholder.toList url.toList
  let template := Search.replaceAll userFilename.toList Index.pathPlaceholder.toList revised
  match Search.occurrences Index.revisionPlaceholder.toList template,
    Search.occurrences Index.pathPlaceholder.toList template with
  | 0, 0 => .ok none
  | 1, 1 => .ok (some (String.ofList template))
  | _, _ => .error (.unevenPlaceholders url)

/-- A plain Git server (`Provider::git_daemon`). -/
def gitDaemon (url : String) : Except Fault Remote :=
  if Shape.isGitDaemon url then
    match templateOf? url with
    | .error fault => .error fault
    | .ok none => .error (.missingPlaceholders url)
    | .ok (some template) => .ok ⟨.gitDaemon, template⟩
  else .error (.notGitDaemon url)

/-- A repository of GitHub, whose files have a host of their own (`Provider::github`). -/
def gitHub (url : String) : Except Fault Remote :=
  match Shape.gitHubParts? url with
  | none => .error (.notGitHub url)
  | some (owner, repository) =>
    .ok
      ⟨.gitHub owner repository,
        "https://raw.githubusercontent.com/" ++ owner ++ "/" ++ repository ++ "/"
          ++ Index.revisionPlaceholder ++ "/" ++ Index.pathPlaceholder⟩

/-- A repository of Team Services (`Provider::team_services`). -/
def teamServices (url : String) : Except Fault Remote :=
  match Shape.teamServicesParts? url with
  | none => .error (.notTeamServices url)
  | some (collection, project, repository) =>
    .ok
      ⟨.teamServices collection project repository,
        collection ++ project ++ "/_apis/git/repositories/" ++ repository
          ++ "/items?api-version=1.0&versionType=commit&version=" ++ Index.revisionPlaceholder
          ++ "&scopePath=" ++ Index.pathPlaceholder⟩

/-- An address without the slashes at its end. -/
def dropFinalSlashes (url : List Char) : List Char :=
  (url.reverse.dropWhile (· == '/')).reverse

/-- Any other server of the web (`Provider::custom_url`). Without placeholders, revision and path
follow the address. -/
def customUrl (url : String) (backslashes : Bool) : Except Fault Remote :=
  match Url.parse url with
  | .error fault => .error (.invalidUrl url fault)
  | .ok parsed =>
    if parsed.scheme = "http" ∨ parsed.scheme = "https" then
      match templateOf? url with
      | .error fault => .error fault
      | .ok (some template) => .ok ⟨.customUrl backslashes, template⟩
      | .ok none =>
        .ok
          ⟨.customUrl backslashes,
            String.ofList (dropFinalSlashes url.toList) ++ "/" ++ Index.revisionPlaceholder ++ "/"
              ++ Index.pathPlaceholder⟩
    else .error (.unsupportedScheme parsed.scheme url)

/-- The first kind of remote that accepts an address (`Provider::detect`). An address with the
scheme of a plain Git server can be nothing else. -/
def detect (url : String) : Except Fault Remote :=
  if Unicode.onlyBlanks url then .error .emptyUrl
  else if Index.isGitUrl url then gitDaemon url
  else
    match gitHub url with
    | .ok remote => .ok remote
    | .error _ =>
      match teamServices url with
      | .ok remote => .ok remote
      | .error _ => customUrl url false

/-- What a remote is called. -/
def name (remote : Remote) : String :=
  match remote.service with
  | .gitDaemon => "git daemon"
  | .gitHub .. => "GitHub"
  | .teamServices .. => "Team Services"
  | .customUrl _ => "custom URL"

/-- Whether relative paths are written with backslashes (`uses_backslashes`). -/
def usesBackslashes (remote : Remote) : Bool :=
  match remote.service with
  | .customUrl backslashes => backslashes
  | _ => false

/-- The dialect of the indexes for a remote. -/
def dialect (remote : Remote) : Index.Dialect :=
  match remote.service with
  | .teamServices .. => .teamFoundation
  | _ => .generic

/-- The variables that indexes for a remote carry (`host_metadata`). -/
def metadata (remote : Remote) : List (String × String) :=
  match remote.service with
  | .teamServices collection project repository =>
    [(Index.collectionKey, collection), (Index.repositoryKey, repository),
      (Index.projectKey, project)]
  | _ => []

/-- A slash or a backslash. -/
def isSeparator (c : Char) : Bool :=
  c == '/' || c == '\\'

/-- A path as an entry shows it (`relative_path_for_url`): with one kind of separator, and none in
front. -/
def relativePath (remote : Remote) (path : String) : String :=
  let separator := if remote.usesBackslashes then '\\' else '/'
  String.ofList
    ((path.toList.map fun c => if isSeparator c then separator else c).dropWhile isSeparator)

end Remote

namespace Revision

/-- The revision that the user gives, without surrounding blanks (`FixedRevision`). -/
def ofText (text : String) : Except Remote.Fault String :=
  let revision := Unicode.trim text
  if revision = "" then .error .noRevision else .ok revision

end Revision

end SourceServer
