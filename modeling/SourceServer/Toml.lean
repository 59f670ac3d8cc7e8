import SourceServer.Toml.Scalar

/-!
# TOML documents

A document is read line by line: pairs, headers of tables, comments. Nothing that is wrong anywhere
in a document is passed over.

- `Toml.value?`: a value of any form.
- `Toml.parse`: the table of a document, or nothing.
-/

namespace SourceServer

namespace Toml

/-- Arrays and tables in braces do not nest deeper, and dotted keys are not longer. -/
def depthLimit : Nat := 80

/-- A character of a key without quotes. -/
def isKeyChar (c : Char) : Bool :=
  Ascii.isLetter c || Ascii.isDigit c || c == '-' || c == '_'

/-- One part of a key. -/
def simpleKey? (text : List Char) : Option (String × List Char) :=
  match text with
  | '"' :: _ | '\'' :: _ => lineText? text
  | _ =>
    match text.span isKeyChar with
    | ([], _) => none
    | (key, rest) => some (String.ofList key, rest)

/-- A key: parts with points between them; `fuel` bounds their number. -/
def keyParts? : Nat → List Char → Option (List String × List Char)
  | 0, _ => none
  | fuel + 1, text =>
    match simpleKey? (skipSpace text) with
    | none => none
    | some (part, rest) =>
      match skipSpace rest with
      | '.' :: behind =>
        match keyParts? fuel behind with
        | some (parts, rest) => some (part :: parts, rest)
        | none => none
      | rest => some ([part], rest)

/-- A key as the path to its table and the last part, and what follows it. -/
def key? (text : List Char) : Option (List String × String × List Char) :=
  match keyParts? (text.length + 1) text with
  | none => none
  | some (parts, rest) =>
    if depthLimit ≤ parts.length then none
    else (parts.getLast?).map fun last => (parts.dropLast, last, rest)

/-- What follows a comment, its line end included in that. -/
def skipComment (text : List Char) : List Char :=
  match text with
  | '#' :: rest => rest.dropWhile isVisible
  | _ => text

/-- What follows spaces, line ends and comments; `fuel` bounds the number of lines. -/
def skipBlank : Nat → List Char → List Char
  | 0, text => text
  | fuel + 1, text =>
    let rest := skipComment (skipSpace text)
    match lineEnd? rest with
    | some rest => skipBlank fuel rest
    | none => rest

mutual

/-- A value of any form; `fuel` bounds the number of steps, and `depth` counts the brackets and
braces around. -/
def value? : Nat → Nat → List Char → Option (Value × List Char)
  | 0, _, _ => none
  | fuel + 1, depth, text =>
    match text with
    | '"' :: _ | '\'' :: _ => (quotedText? text).map fun (s, rest) => (.text s, rest)
    | '[' :: rest =>
      if depthLimit ≤ depth + 1 then none
      else (items? fuel (depth + 1) [] rest).map fun (items, rest) => (.array items, rest)
    | '\x7b' :: rest =>
      if depthLimit ≤ depth + 1 then none
      else
        match skipSpace rest with
        | '\x7d' :: rest => some (.table .braces [], rest)
        | rest =>
          (pairs? fuel (depth + 1) [] rest).map fun (entries, rest) =>
            (.table .braces entries, rest)
    | _ => bareValue? text

/-- The rest of an array: values with commas between them and perhaps one behind. -/
def items? : Nat → Nat → List Value → List Char → Option (List Value × List Char)
  | 0, _, _, _ => none
  | fuel + 1, depth, read, text =>
    match skipBlank (text.length + 1) text with
    | ']' :: rest => some (read.reverse, rest)
    | text =>
      match value? fuel depth text with
      | none => none
      | some (item, rest) =>
        match skipBlank (rest.length + 1) rest with
        | ',' :: rest => items? fuel depth (item :: read) rest
        | ']' :: rest => some ((item :: read).reverse, rest)
        | _ => none

/-- The rest of a table in braces: at least one pair, with commas between pairs only. -/
def pairs? : Nat → Nat → Entries → List Char → Option (Entries × List Char)
  | 0, _, _, _ => none
  | fuel + 1, depth, read, text =>
    match key? text with
    | none => none
    | some (path, key, rest) =>
      match rest with
      | '=' :: rest =>
        match value? fuel depth (skipSpace rest) with
        | none => none
        | some (value, rest) =>
          match addPair .header read path key value with
          | none => none
          | some read =>
            match skipSpace rest with
            | ',' :: rest => pairs? fuel depth read rest
            | '\x7d' :: rest => some (read, rest)
            | _ => none
      | _ => none

end

/-- A document on its way: the table so far, and the header under which pairs stand. -/
structure State where
  root : Entries
  header : List String

/-- What follows the rest of a line, which may hold a comment only. -/
def lineRest? (text : List Char) : Option (List Char) :=
  match skipComment (skipSpace text) with
  | [] => some []
  | rest => lineEnd? rest

/-- A pair on a line of its own. -/
def pairLine? (s : State) (text : List Char) : Option (State × List Char) :=
  match key? text with
  | none => none
  | some (path, key, rest) =>
    match rest with
    | '=' :: rest =>
      match value? (2 * rest.length + 2) 0 (skipSpace rest) with
      | none => none
      | some (value, rest) =>
        let add (_ : Origin) (entries : Entries) := addPair .header entries path key value
        match lineRest? rest, within false add s.header .header s.root with
        | some rest, some root => some ({ s with root }, rest)
        | _, _ => none
    | _ => none

/-- A header on a line of its own. -/
def headerLine? (s : State) (text : List Char) : Option (State × List Char) :=
  let (double, text) :=
    match text with
    | '[' :: rest => (true, rest)
    | _ => (false, text)
  match key? text with
  | none => none
  | some (path, key, rest) =>
    let rest := if double then Search.dropPrefix? [']', ']'] rest else char? ']' rest
    match rest.bind lineRest? with
    | none => none
    | some rest =>
      (if double then openArrayTable s.root path key else openTable s.root path key).map
        fun root => (⟨root, path ++ [key]⟩, rest)

/-- Reads lines to the end; `fuel` bounds their number. -/
def lines? : Nat → State → List Char → Option State
  | 0, _, _ => none
  | fuel + 1, s, text =>
    match skipSpace text with
    | [] => some s
    | '[' :: rest =>
      match headerLine? s rest with
      | some (s, rest) => lines? fuel s rest
      | none => none
    | c :: rest =>
      if c = '#' ∨ c = '\n' ∨ c = '\r' then
        match lineRest? (c :: rest) with
        | some rest => lines? fuel s rest
        | none => none
      else
        match pairLine? s (c :: rest) with
        | some (s, rest) => lines? fuel s rest
        | none => none

/-- A text without the mark of its byte order in front. -/
def dropByteOrderMark (text : List Char) : List Char :=
  match text with
  | c :: rest => if c.toNat = 0xfeff then rest else text
  | [] => []

/-- The table of a document. -/
def parse (text : String) : Option Entries :=
  let text := dropByteOrderMark text.toList
  (lines? (text.length + 1) ⟨[], []⟩ text).map State.root

end Toml

end SourceServer
