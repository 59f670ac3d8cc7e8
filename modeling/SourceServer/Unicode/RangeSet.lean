import Std.Data.HashMap

/-!
# Coded tables of characters

Properties of characters are written as short texts: code points in hexadecimal, one row a word, on
as many lines as they take.

- `RangeSet`: a set of code points, rows `first` or `first-last`.
- `ShiftTable`: a map to one or more code points, rows `first=target`, `first,count=target` and
  `first,count,stride=target`; the single target of a longer row moves along with the row.
- `ClassTable`: a map of ranges to numbers, rows `first=class` or `first-last=class`.
- `DecompositionTable`: a map to the parts of a character, rows `code=parts` or `code~parts`.

Rows stand in increasing order, so that a code point is found by bisection.
-/

namespace SourceServer

namespace Unicode

/-- The number that a row of hexadecimal digits denotes. -/
def codeOfHex (text : String) : Nat :=
  text.toList.foldl
    (fun n c =>
      if '0' ≤ c ∧ c ≤ '9' then 16 * n + (c.toNat - '0'.toNat)
      else 16 * n + (c.toNat - 'a'.toNat + 10))
    0

/-- The rows on some lines. -/
def rowsOf (lines : List String) : List String :=
  lines.flatMap fun line => line.splitOn " "

/-- The code points of a text that separates them by points. -/
def codesOfHex (text : String) : List Nat :=
  (text.splitOn ".").map codeOfHex

/-- The number of rows among the first `high` whose key is at most `x`, given that the first
`low` are; `fuel` bounds the number of halvings. -/
def bisect (key : Nat → Nat) (x : Nat) : Nat → Nat → Nat → Nat
  | 0, low, _ => low
  | fuel + 1, low, high =>
    if low < high then
      let middle := (low + high) / 2
      if key middle ≤ x then bisect key x fuel (middle + 1) high
      else bisect key x fuel low middle
    else low

/-- The last row whose key is at most `x`. -/
def lastRow? {α : Type} (rows : Array α) (key : α → Nat) (x : Nat) : Option α :=
  let count := bisect (fun i => (rows[i]?.map key).getD 0) x (rows.size + 1) 0 rows.size
  if count = 0 then none else rows[count - 1]?

/-- A set of code points as increasing ranges. -/
structure RangeSet where
  ranges : Array (Nat × Nat)

namespace RangeSet

/-- Reads one range. -/
def decodeRow (row : String) : Nat × Nat :=
  match row.splitOn "-" with
  | [first, last] => (codeOfHex first, codeOfHex last)
  | _ => (codeOfHex row, codeOfHex row)

/-- Reads a coded set. -/
def decode (lines : List String) : RangeSet :=
  ⟨((rowsOf lines).map decodeRow).toArray⟩

/-- Membership of a character. -/
def contains (s : RangeSet) (c : Char) : Bool :=
  match lastRow? s.ranges Prod.fst c.toNat with
  | some (_, last) => decide (c.toNat ≤ last)
  | none => false

end RangeSet

/-- One row of a `ShiftTable`. -/
structure ShiftRow where
  first : Nat
  count : Nat
  stride : Nat
  target : List Nat

/-- A map from characters to texts. -/
structure ShiftTable where
  rows : Array ShiftRow

namespace ShiftTable

/-- Reads one row. -/
def decodeRow (row : String) : ShiftRow :=
  match row.splitOn "=" with
  | [source, target] =>
    let target := codesOfHex target
    match source.splitOn "," with
    | [first, count, stride] => ⟨codeOfHex first, codeOfHex count, codeOfHex stride, target⟩
    | [first, count] => ⟨codeOfHex first, codeOfHex count, 1, target⟩
    | _ => ⟨codeOfHex source, 1, 1, target⟩
  | _ => ⟨0, 0, 1, []⟩

/-- Reads a coded map. -/
def decode (lines : List String) : ShiftTable :=
  ⟨((rowsOf lines).map decodeRow).toArray⟩

/-- The text that a character is mapped to. -/
def find? (t : ShiftTable) (c : Char) : Option (List Char) :=
  match lastRow? t.rows ShiftRow.first c.toNat with
  | none => none
  | some row =>
    let offset := c.toNat - row.first
    if offset < row.count * row.stride ∧ offset % row.stride = 0 then
      match row.target with
      | [target] => some [Char.ofNat (target + offset)]
      | targets => some (targets.map Char.ofNat)
    else none

end ShiftTable

/-- A map from ranges of code points to numbers. -/
structure ClassTable where
  rows : Array ((Nat × Nat) × Nat)

namespace ClassTable

/-- Reads one row. -/
def decodeRow (row : String) : (Nat × Nat) × Nat :=
  match row.splitOn "=" with
  | [range, number] => (RangeSet.decodeRow range, codeOfHex number)
  | _ => ((0, 0), 0)

/-- Reads a coded map. -/
def decode (lines : List String) : ClassTable :=
  ⟨((rowsOf lines).map decodeRow).toArray⟩

/-- The number of a character, zero where the table is silent. -/
def get (t : ClassTable) (c : Char) : Nat :=
  match lastRow? t.rows (fun row => row.1.1) c.toNat with
  | some ((_, last), number) => if c.toNat ≤ last then number else 0
  | none => 0

end ClassTable

/-- The parts of characters, and the characters that parts make up. -/
structure DecompositionTable where
  parts : Std.HashMap Nat (List Nat)
  composites : Std.HashMap (Nat × Nat) Nat

namespace DecompositionTable

/-- Adds one row. -/
def addRow (t : DecompositionTable) (row : String) : DecompositionTable :=
  match row.splitOn "=", row.splitOn "~" with
  | [code, parts], _ =>
    let whole := codeOfHex code
    let parts := codesOfHex parts
    match parts with
    | [first, second] =>
      ⟨t.parts.insert whole parts, t.composites.insert (first, second) whole⟩
    | _ => ⟨t.parts.insert whole parts, t.composites⟩
  | _, [code, parts] => ⟨t.parts.insert (codeOfHex code) (codesOfHex parts), t.composites⟩
  | _, _ => t

/-- Reads a coded table. -/
def decode (lines : List String) : DecompositionTable :=
  (rowsOf lines).foldl addRow ⟨∅, ∅⟩

/-- The parts that a character is made of in one step. -/
def parts? (t : DecompositionTable) (c : Char) : Option (List Char) :=
  (t.parts[c.toNat]?).map fun codes => codes.map Char.ofNat

/-- The character that two parts make up. -/
def composite? (t : DecompositionTable) (first second : Char) : Option Char :=
  (t.composites[(first.toNat, second.toNat)]?).map Char.ofNat

end DecompositionTable

end Unicode

end SourceServer
