import SourceServer.Unicode.HostNameTables
import SourceServer.Unicode.LabelTables
import SourceServer.Unicode.NormalForm
import SourceServer.Url.Punycode

/-!
# International domain names

A domain name is mapped to lower case and normal form, cut into labels at its points, and each label
is judged: labels written in ASCII for other characters are decoded first.

- `mapped?`: the mapping of a whole name.
- `Label.decoded?`: the characters of one label.
- `Label.joinersStandRight`, `Label.directionsAgree`: the two rules about context.
- `labels?`: the labels of a name, when all of them are valid.
-/

namespace SourceServer

namespace Url

namespace DomainName

open Unicode

/-- What one character of a name is mapped to; `none` when it may not occur. -/
def mappedChar? (c : Char) : Option (List Char) :=
  if c.toNat < 0x80 then some [Ascii.lowerChar c]
  else if hostValidRanges.contains c then some [c]
  else if hostIgnoredRanges.contains c then some []
  else hostMappedRows.find? c

/-- The mapped characters of a name, one by one. -/
def mappedChars? : List Char → Option (List Char)
  | [] => some []
  | c :: rest =>
    match mappedChar? c, mappedChars? rest with
    | some front, some back => some (front ++ back)
    | _, _ => none

/-- A name in lower case and normal form. Names in ASCII are in normal form. -/
def mapped? (name : List Char) : Option (List Char) :=
  if name.all (·.toNat < 0x80) then some (name.map Ascii.lowerChar)
  else (mappedChars? name).map normalForm

/-- The ASCII characters that no label holds: controls, the space, and those with a meaning of
their own in a URL. -/
def isForbidden (c : Char) : Bool :=
  c.toNat ≤ 0x20 || c.toNat == 0x7f || "%#/:<>?@[\\]^|".toList.contains c

/-- The mark of a label whose characters are encoded. -/
def encodedMark : List Char := ['x', 'n', '-', '-']

/-- A name may encode labels up to this length. -/
def longestEncoded : Nat := 2000

/-- A label to be encoded may have up to this length. -/
def longestToEncode : Nat := 1000

/-- How a character behaves in text that runs in two directions. -/
inductive Direction where
  | leftToRight
  | rightToLeft
  | arabicLetter
  | europeanNumber
  | arabicNumber
  | neutral
  | mark
deriving DecidableEq

/-- The direction of a character. -/
def direction (c : Char) : Direction :=
  if rightToLeftRanges.contains c then .rightToLeft
  else if arabicLetterRanges.contains c then .arabicLetter
  else if europeanNumberRanges.contains c then .europeanNumber
  else if arabicNumberRanges.contains c then .arabicNumber
  else if directionlessMarkRanges.contains c then .mark
  else if neutralRanges.contains c then .neutral
  else .leftToRight

namespace Label

/-- Whether a character, looked for through those that joining looks through, is in `s`. -/
def joins (s : RangeSet) (text : List Char) : Bool :=
  match text.find? (fun c => !joinTransparentRanges.contains c) with
  | some c => s.contains c
  | none => false

/-- A joiner stands behind a mark that suppresses a vowel; the one that prevents joining may also
stand between letters that would join. `before` is read backwards. -/
def joinersStandRightAfter (before : List Char) : List Char → Bool
  | [] => true
  | c :: rest =>
    let afterVirama :=
      match before with
      | [] => false
      | last :: _ => viramaRanges.contains last
    (if c.toNat = 0x200d then afterVirama
      else if c.toNat = 0x200c then
        afterVirama || (joins joinsAfterRanges before && joins joinsBeforeRanges rest)
      else true)
      && joinersStandRightAfter (c :: before) rest

/-- The rule for the two joiners in a whole label. -/
def joinersStandRight (label : List Char) : Bool :=
  joinersStandRightAfter [] label

/-- A label in a name with text from right to left keeps one direction, and its first and last
characters show it. -/
def directionsAgree (label : List Char) : Bool :=
  let directions := label.map direction
  let ending := (directions.reverse.dropWhile (· == .mark)).head?
  match directions with
  | [] => true
  | .leftToRight :: _ =>
    directions.all (fun d => [.leftToRight, .europeanNumber, .neutral, .mark].contains d)
      && (ending == some .leftToRight || ending == some .europeanNumber)
  | first :: _ =>
    (first == .rightToLeft || first == .arabicLetter)
      && directions.all (fun d => d != .leftToRight)
      && (ending == some .rightToLeft || ending == some .arabicLetter
          || ending == some .europeanNumber || ending == some .arabicNumber)
      && !(directions.contains .europeanNumber && directions.contains .arabicNumber)

/-- The characters of a label: those it encodes, or itself. -/
def decoded? (label : List Char) : Option (List Char) :=
  if encodedMark.isPrefixOf label then
    let code := label.drop 4
    if code.length ≤ longestEncoded ∧ code.all (·.toNat < 0x80) then
      match Punycode.decode? code with
      | none => none
      | some decoded =>
        if decoded.all (·.toNat < 0x80) || encodedMark.isPrefixOf decoded then none
        else if mappedChars? decoded = some decoded ∧ normalForm decoded = decoded then
          some decoded
        else none
    else none
  else some label

/-- The rules that a decoded label keeps on its own. -/
def isValid (label : List Char) : Bool :=
  !label.any isForbidden
    && (label.all (·.toNat < 0x80)
      || (decide (label.length ≤ longestToEncode)
        && !(label.head?.any markRanges.contains)
        && joinersStandRight label))

end Label

/-- Whether a name holds text from right to left. -/
def runsBothWays (labels : List (List Char)) : Bool :=
  labels.any fun label =>
    label.any fun c => c.toNat ≥ 0x80 &&
      [Direction.rightToLeft, .arabicLetter, .arabicNumber].contains (direction c)

/-- The decoded labels of a name, when the name is valid. -/
def labels? (name : List Char) : Option (List (List Char)) :=
  match mapped? name with
  | none => none
  | some text =>
    match (text.splitOn '.').mapM Label.decoded? with
    | none => none
    | some labels =>
      if labels.all Label.isValid
          && (!runsBothWays labels || labels.all Label.directionsAgree) then
        some labels
      else none

end DomainName

end Url

end SourceServer
