import SourceServer.Url.Host

/-!
# URLs

A text is read as an absolute URL: surrounding blanks are dropped, tabs and line ends inside are
passed over, and the scheme in front decides how the host is found. Paths, queries and fragments
cannot make a URL invalid, so they are not kept.

- `Url`: the scheme and the host.
- `Url.parse`: the URL of a text, or why it is none.
-/

namespace SourceServer

/-- An absolute URL, as far as it can be judged. -/
structure Url where
  /-- The scheme in lower case. -/
  scheme : String
  host : Url.Host
deriving DecidableEq

namespace Url

/-- The characters in which a URL is read. -/
def significant (text : String) : List Char :=
  let blank (c : Char) : Bool := decide (c.toNat ≤ 0x20)
  (((text.toList.dropWhile blank).reverse.dropWhile blank).reverse).filter
    fun c => c != '\t' && c != '\n' && c != '\r'

/-- A character that a scheme may hold behind its first letter. -/
def isSchemeChar (c : Char) : Bool :=
  Ascii.isLetter c || Ascii.isDigit c || c == '+' || c == '-' || c == '.'

/-- The scheme in lower case, and what follows its colon. -/
def splitScheme? (text : List Char) : Option (List Char × List Char) :=
  match text with
  | [] => none
  | first :: _ =>
    if Ascii.isLetter first then
      match text.span isSchemeChar with
      | (scheme, ':' :: rest) => some (scheme.map Ascii.lowerChar, rest)
      | _ => none
    else none

/-- How the scheme treats what follows it. -/
inductive SchemeKind where
  /-- A scheme of the web: it has a host, and a backslash separates like a slash. -/
  | web
  /-- A file: the host may be missing. -/
  | file
  /-- Any other scheme. -/
  | other
deriving DecidableEq

/-- The kind of a scheme. -/
def schemeKind (scheme : List Char) : SchemeKind :=
  if [['h', 't', 't', 'p'], ['h', 't', 't', 'p', 's'], ['w', 's'], ['w', 's', 's'],
      ['f', 't', 'p']].contains scheme then .web
  else if scheme = ['f', 'i', 'l', 'e'] then .file
  else .other

/-- A slash or a backslash. -/
def isSlash (c : Char) : Bool :=
  c == '/' || c == '\\'

/-- Whether a character ends the part of a URL that names its host. -/
def endsAuthority (kind : SchemeKind) (c : Char) : Bool :=
  c == '/' || c == '?' || c == '#' || (kind != .other && c == '\\')

/-- The host part and the port of an authority: a colon in brackets belongs to the host. -/
def splitPort : Bool → List Char → List Char × Option (List Char)
  | _, [] => ([], none)
  | inBrackets, c :: rest =>
    if c = ':' ∧ !inBrackets then ([], some rest)
    else
      let (host, port) := splitPort (c == '[' || (inBrackets && c != ']')) rest
      (c :: host, port)

/-- A port is a number below 65536 or nothing; a backslash ends it. -/
def isPort (text : List Char) : Bool :=
  let digits := text.takeWhile (· != '\\')
  digits.all Ascii.isDigit
    && match numberIn 10 digits with
      | some n => decide (n ≤ 65535)
      | none => true

/-- The name and password in front of the last `@`, when there is one, and what follows. -/
def splitUser (authority : List Char) : Option (List Char) × List Char :=
  match authority.reverse.span (· != '@') with
  | (_, []) => (none, authority)
  | (host, _ :: user) => (some user.reverse, host.reverse)

/-- The host of a scheme of the web. -/
def webHost (authority : List Char) : Except Fault Host :=
  let (host, port) := splitPort false (splitUser authority).2
  if host.isEmpty then .error .emptyHost
  else
    match Host.parse host with
    | .error fault => .error fault
    | .ok parsed =>
      if port.all isPort then .ok parsed else .error .invalidPort

/-- The host of a scheme that the web does not know; `followed` says whether anything stands behind
the authority. A user asks for a host, and so does a port. -/
def otherHost (authority : List Char) (followed : Bool) : Except Fault Host :=
  let (user, rest) := splitUser authority
  let (host, port) := splitPort false rest
  if user = some [] ∧ rest.isEmpty ∧ followed then .error .emptyHost
  else
    match Host.parsePlain host with
    | .error fault => .error fault
    | .ok parsed =>
      if parsed = .absent ∧ port.isSome then .error .emptyHost
      else if !port.all isPort then .error .invalidPort
      else if parsed = .absent ∧ user.any (fun name => name ≠ [] ∧ name ≠ [':']) then
        .error .emptyHost
      else .ok parsed

/-- A letter with a colon or a bar, which names a drive and no host. -/
def isDrive (text : List Char) : Bool :=
  match text with
  | [letter, mark] => Ascii.isLetter letter && (mark == ':' || mark == '|')
  | _ => false

/-- The host of a file. -/
def fileHost (text : List Char) : Except Fault Host :=
  match text with
  | a :: b :: rest =>
    if isSlash a && isSlash b then
      let host := rest.takeWhile fun c => !endsAuthority .file c
      if host.isEmpty || isDrive host then .ok .absent else Host.parse host
    else .ok .absent
  | _ => .ok .absent

/-- The host of a URL, from what follows the colon of its scheme. -/
def parseHost (kind : SchemeKind) (rest : List Char) : Except Fault Host :=
  match kind with
  | .web => webHost ((rest.dropWhile isSlash).takeWhile fun c => !endsAuthority .web c)
  | .file => fileHost rest
  | .other =>
    match Search.dropPrefix? ['/', '/'] rest with
    | none => .ok .absent
    | some rest =>
      let (authority, tail) := rest.span fun c => !endsAuthority .other c
      otherHost authority (!tail.isEmpty)

/-- The URL of a text. -/
def parse (text : String) : Except Fault Url :=
  match splitScheme? (significant text) with
  | none => .error .noScheme
  | some (scheme, rest) =>
    match parseHost (schemeKind scheme) rest with
    | .error fault => .error fault
    | .ok host => .ok ⟨String.ofList scheme, host⟩

end Url

end SourceServer
