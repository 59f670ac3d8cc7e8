import SourceServer.Text.Ascii

/-!
# Shapes of repository addresses

Hosting services are recognised by the shape of an address. Its fixed parts are matched without
regard to case, where the long s and the Kelvin sign count as letters s and k.

- `matchesLetter`, `dropFixed?`: fixed text up to case.
- `gitHubParts?`: owner and repository.
- `teamServicesParts?`: collection, project and repository.
- `isGitDaemon`: the address of a plain Git server.
-/

namespace SourceServer

namespace Remote

namespace Shape

/-- Whether `c` is the lower-case letter or sign `fixed` up to case. -/
def matchesLetter (fixed c : Char) : Bool :=
  Ascii.lowerChar c == fixed || (fixed == 's' && c.toNat == 0x17f)
    || (fixed == 'k' && c.toNat == 0x212a)

/-- What follows the fixed text in front, which is given in lower case. -/
def dropFixed? : List Char → List Char → Option (List Char)
  | [], text => some text
  | _ :: _, [] => none
  | f :: fixed, c :: text => if matchesLetter f c then dropFixed? fixed text else none

/-- The text without an optional fixed part in front. -/
def dropOptional (fixed text : List Char) : List Char :=
  (dropFixed? fixed text).getD text

/-- A non-empty part up to the first slash, and what follows that slash. -/
def part? (text : List Char) : Option (List Char × List Char) :=
  match text.span (· != '/') with
  | ([], _) => none
  | (part, _ :: rest) => some (part, rest)
  | (_, []) => none

/-- A final name: not empty, without slashes, question marks and number signs; one slash may
follow it. -/
def finalName? (text : List Char) : Option (List Char) :=
  let name := if text.getLast? = some '/' then text.dropLast else text
  if name.isEmpty || name.any (fun c => c == '/' || c == '?' || c == '#') then none
  else some name

/-- Whether a text is the fixed one up to case. -/
def isFixed (fixed text : List Char) : Bool :=
  dropFixed? fixed text == some []

/-- The ending that a repository's address may have. -/
def gitEnding : List Char := ['.', 'g', 'i', 't']

/-- A name without its final `.git`, unless nothing would be left. -/
def dropGitEnding (name : List Char) : List Char :=
  let split := name.length - gitEnding.length
  if 0 < split ∧ isFixed gitEnding (name.drop split) then name.take split else name

/-- The address without an optional scheme of the web. -/
def dropWebScheme (text : List Char) : List Char :=
  match dropFixed? "http".toList text with
  | none => text
  | some rest => (dropFixed? "://".toList (dropOptional ['s'] rest)).getD text

/-- The owner and the repository of a GitHub address. -/
def gitHubParts? (url : String) : Option (String × String) :=
  match dropFixed? "github.com/".toList (dropOptional "www.".toList (dropWebScheme url.toList)) with
  | none => none
  | some rest =>
    match part? rest with
    | none => none
    | some (owner, rest) =>
      match finalName? rest with
      | none => none
      | some name => some (String.ofList owner, String.ofList (dropGitEnding name))

/-- A character of an account name. -/
def isAccountChar (c : Char) : Bool :=
  ('a' ≤ Ascii.lowerChar c ∧ Ascii.lowerChar c ≤ 'z') || Ascii.isDigit c || c == '-'
    || c.toNat == 0x17f || c.toNat == 0x212a

/-- A non-empty account name, and what follows it. -/
def account? (text : List Char) : Option (List Char × List Char) :=
  match text.span isAccountChar with
  | ([], _) => none
  | parts => some parts

/-- What follows the collection in the older form of address. -/
def afterAccountHost? (text : List Char) : Option (List Char) :=
  match dropFixed? "https://".toList text with
  | none => none
  | some rest =>
    match account? rest with
    | none => none
    | some (_, rest) => dropFixed? ".visualstudio.com/".toList rest

/-- What follows the collection in the newer form of address. -/
def afterSharedHost? (text : List Char) : Option (List Char) :=
  match dropFixed? "https://dev.azure.com/".toList text with
  | none => none
  | some rest =>
    match account? rest with
    | none => none
    | some (_, rest) => dropFixed? ['/'] rest

/-- Project and repository behind a collection. -/
def projectParts? (rest : List Char) : Option (List Char × List Char) :=
  match part? rest with
  | none => none
  | some (project, rest) =>
    match dropFixed? "_git/".toList rest with
    | none => none
    | some rest => (finalName? rest).map fun name => (project, name)

/-- The parts of an address whose collection is followed by `rest`. -/
def partsBehind? (text : List Char) (rest : Option (List Char)) :
    Option (String × String × String) :=
  match rest with
  | none => none
  | some rest =>
    (projectParts? rest).map fun (project, repository) =>
      (String.ofList (text.take (text.length - rest.length)), String.ofList project,
        String.ofList repository)

/-- The collection, the project and the repository of a Team Services address. -/
def teamServicesParts? (url : String) : Option (String × String × String) :=
  match partsBehind? url.toList (afterAccountHost? url.toList) with
  | some parts => some parts
  | none => partsBehind? url.toList (afterSharedHost? url.toList)

/-- The address of a plain Git server: its scheme and at least one character on the same line. -/
def isGitDaemon (url : String) : Bool :=
  match dropFixed? "git://".toList url.toList with
  | some (c :: _) => c != '\n'
  | _ => false

end Shape

end Remote

end SourceServer
