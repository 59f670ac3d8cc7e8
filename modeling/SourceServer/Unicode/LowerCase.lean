import SourceServer.Text.Ascii
import SourceServer.Unicode.CaseTables

/-!
# Lower case

The full lower-case mapping of Unicode for whole texts. File names and recorded paths are compared
by it.

Two characters need more than a table. The capital I with a dot becomes two characters, and the
capital sigma becomes a final sigma at the end of a word: when a letter stands before it and none
after it, with the characters that do not count for case passed over.

- `lowerText`: lower case of a row of characters.
- `lower`: lower case of a text.
-/

namespace SourceServer

namespace Unicode

/-- A character that has case. -/
def isCased (c : Char) : Bool :=
  casedRanges.contains c

/-- A character that the search for the end of a word passes over. -/
def isCaseIgnorable (c : Char) : Bool :=
  caseIgnorableRanges.contains c

/-- Whether the first character that counts for case is a cased one. -/
def letterFollows (s : List Char) : Bool :=
  match s.find? (fun c => !isCaseIgnorable c) with
  | some c => isCased c
  | none => false

/-- The lower case of a character whose surroundings do not matter. -/
def lowerChar (c : Char) : List Char :=
  if c.toNat < 0x80 then [Ascii.lowerChar c]
  else if c.toNat = 0x130 then ['i', Char.ofNat 0x307]
  else (lowerCaseRows.find? c).getD [c]

/-- The lower case of `s`, where `before` is the text in front of it read backwards. -/
def lowerAfter (before : List Char) : List Char → List Char
  | [] => []
  | c :: rest =>
    (if c.toNat = 0x3a3 then
      if letterFollows before && !letterFollows rest then [Char.ofNat 0x3c2]
      else [Char.ofNat 0x3c3]
    else lowerChar c) ++ lowerAfter (c :: before) rest

/-- The lower case of a row of characters. -/
def lowerText (s : List Char) : List Char :=
  lowerAfter [] s

/-- The lower case of a text. -/
def lower (s : String) : String :=
  String.ofList (lowerText s.toList)

end Unicode

end SourceServer
