import SourceServer.Unicode.NormalFormTables

/-!
# Normal form C

A text in normal form C has its characters taken apart, the marks put in the order of their
combining classes, and what can be put together again put together.

- `decompose`, `orderMarks`, `compose`: the three stages.
- `normalForm`: the normal form of a row of characters.
-/

namespace SourceServer

namespace Unicode

/-- The combining class of a character. -/
def combiningClass (c : Char) : Nat :=
  combiningClassRows.get c

/-- The parts of a Hangul syllable. -/
def hangulParts? (c : Char) : Option (List Char) :=
  if 0xac00 ≤ c.toNat ∧ c.toNat < 0xac00 + 11172 then
    let index := c.toNat - 0xac00
    let lead := Char.ofNat (0x1100 + index / 588)
    let vowel := Char.ofNat (0x1161 + index % 588 / 28)
    if index % 28 = 0 then some [lead, vowel]
    else some [lead, vowel, Char.ofNat (0x11a7 + index % 28)]
  else none

/-- The parts of a character; `fuel` bounds how often parts have parts. -/
def decompose : Nat → Char → List Char
  | 0, c => [c]
  | fuel + 1, c =>
    match hangulParts? c with
    | some parts => parts
    | none =>
      match decompositionRows.parts? c with
      | some parts => parts.flatMap (decompose fuel)
      | none => [c]

/-- Puts a mark behind the marks of lower class that follow it. -/
def placeMark (c : Char) : List Char → List Char
  | [] => [c]
  | next :: rest =>
    if 0 < combiningClass next ∧ combiningClass next < combiningClass c then
      next :: placeMark c rest
    else c :: next :: rest

/-- Puts the marks between two base characters in the order of their classes. -/
def orderMarks : List Char → List Char
  | [] => []
  | c :: rest => placeMark c (orderMarks rest)

/-- The Hangul syllable that two characters make up. -/
def hangulComposite? (first second : Char) : Option Char :=
  let a := first.toNat
  let b := second.toNat
  if 0x1100 ≤ a ∧ a < 0x1113 ∧ 0x1161 ≤ b ∧ b < 0x1176 then
    some (Char.ofNat (0xac00 + ((a - 0x1100) * 21 + (b - 0x1161)) * 28))
  else if 0xac00 ≤ a ∧ a < 0xac00 + 11172 ∧ (a - 0xac00) % 28 = 0 ∧ 0x11a8 ≤ b ∧ b < 0x11c3 then
    some (Char.ofNat (a + (b - 0x11a7)))
  else none

/-- The character that two characters make up. -/
def composite? (first second : Char) : Option Char :=
  match hangulComposite? first second with
  | some c => some c
  | none => decompositionRows.composite? first second

/-- Composes what follows `base`; `marks` are the marks since then, read backwards. A mark reaches
the base unless one of the same or a higher class stands between. -/
def composeAfter (base : Char) (marks : List Char) : List Char → List Char
  | [] => base :: marks.reverse
  | c :: rest =>
    let reaches :=
      match marks with
      | [] => true
      | last :: _ => decide (combiningClass last < combiningClass c)
    match if reaches then composite? base c else none with
    | some whole => composeAfter whole marks rest
    | none =>
      if combiningClass c = 0 then base :: marks.reverse ++ composeAfter c [] rest
      else composeAfter base (c :: marks) rest

/-- Puts together what can be put together. -/
def compose : List Char → List Char
  | [] => []
  | c :: rest => composeAfter c [] rest

/-- Normal form C. A character has at most four levels of parts. -/
def normalForm (s : List Char) : List Char :=
  compose (orderMarks (s.flatMap (decompose 4)))

end Unicode

end SourceServer
