import SourceServer.Text.Ascii

/-!
# Punycode

International labels are written in ASCII: first the ASCII characters, then a hyphen, then for each
other character, in increasing order, how far the insertion point moves.

- `readDelta?`: one number of the second part.
- `decode?`: the characters of an encoded label.
-/

namespace SourceServer

namespace Url

namespace Punycode

/-- The value of a digit of base 36, letters first. -/
def digit? (c : Char) : Option Nat :=
  if 'a' ≤ c ∧ c ≤ 'z' then some (c.toNat - 'a'.toNat)
  else if 'A' ≤ c ∧ c ≤ 'Z' then some (c.toNat - 'A'.toNat)
  else if '0' ≤ c ∧ c ≤ '9' then some (c.toNat - '0'.toNat + 26)
  else none

/-- The digit below which a number ends at position `k`. -/
def threshold (bias k : Nat) : Nat :=
  if k ≤ bias then 1 else if k ≥ bias + 26 then 26 else k - bias

/-- Numbers are refused from here on. -/
def limit : Nat := 0x100000000

/-- Reads one number of the row: `k` is the position, `sum` what is read of it, `weight` the worth
of the next digit. -/
def readDelta? (bias : Nat) : Nat → Nat → Nat → List Char → Option (Nat × List Char)
  | _, _, _, [] => none
  | k, sum, weight, c :: rest =>
    match digit? c with
    | none => none
    | some d =>
      let sum := sum + d * weight
      if limit ≤ sum then none
      else
        let t := threshold bias k
        if d < t then some (sum, rest)
        else
          let weight := weight * (36 - t)
          if limit ≤ weight then none else readDelta? bias (k + 36) sum weight rest

/-- Scales a number down until it is small; the second component counts the steps. `fuel` bounds
them. -/
def scale : Nat → Nat → Nat → Nat × Nat
  | 0, delta, k => (delta, k)
  | fuel + 1, delta, k => if 455 < delta then scale fuel (delta / 35) (k + 36) else (delta, k)

/-- The bias for the next number. -/
def adapt (delta count : Nat) (first : Bool) : Nat :=
  let delta := if first then delta / 700 else delta / 2
  let (delta, k) := scale 32 (delta + delta / count) 0
  k + 36 * delta / (delta + 38)

/-- The character of a number, when it is one. -/
def char? (n : Nat) : Option Char :=
  if h : n.isValidChar then some (Char.ofNatAux n h) else none

/-- Inserts the characters that the numbers in `input` describe; `fuel` bounds their count. -/
def insertAll : Nat → Nat → Nat → Nat → List Char → List Char → Option (List Char)
  | 0, _, _, _, _, _ => none
  | _ + 1, _, _, _, out, [] => some out
  | fuel + 1, n, i, bias, out, input =>
    match readDelta? bias 36 i 1 input with
    | none => none
    | some (j, rest) =>
      let count := out.length + 1
      let n := n + j / count
      match char? n with
      | none => none
      | some c =>
        let position := j % count
        insertAll fuel n (position + 1) (adapt (j - i) count (i == 0)) (out.insertIdx position c)
          rest

/-- The ASCII part and the numbers of an encoded label. -/
def parts (label : List Char) : List Char × List Char :=
  match (label.reverse.span (· != '-')) with
  | (_, []) => ([], label)
  | (_, [_]) => ([], label)
  | (numbers, _ :: base) => (base.reverse, numbers.reverse)

/-- The characters of an encoded label, without its mark in front. -/
def decode? (label : List Char) : Option (List Char) :=
  let (base, numbers) := parts label
  insertAll (numbers.length + 1) 128 0 72 base numbers

end Punycode

end Url

end SourceServer
