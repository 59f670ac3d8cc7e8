/-!
# ASCII letter case

Digests, schemes, roots and file extensions are compared without regard to the case of the
twenty-six ASCII letters; every other character stands for itself.

- `lowerChar`, `lower`: ASCII lower case of a character and of a text.
- `forall_capital`: what is checked for the twenty-six capitals.
- `equalIgnoringCase`: equality up to ASCII case.
- `isHexDigit`: the sixteen digits in either case.
-/

namespace SourceServer

namespace Ascii

/-- The lower-case form of an ASCII capital; every other character is kept. -/
def lowerChar (c : Char) : Char :=
  if 'A' ≤ c ∧ c ≤ 'Z' then Char.ofNat (c.toNat + 32) else c

/-- What holds of the capitals one by one holds of every capital. -/
theorem forall_capital {P : Char → Prop} (h : ∀ n < 91, 65 ≤ n → P (Char.ofNat n)) {c : Char}
    (hc : 'A' ≤ c ∧ c ≤ 'Z') : P c := by
  have hlow : 65 ≤ c.toNat := hc.1
  have hhigh : c.toNat < 91 := Nat.lt_succ_of_le hc.2
  have hcode := h c.toNat hhigh hlow
  rwa [Char.ofNat_toNat] at hcode

/-- A text with its ASCII capitals lowered. -/
def lower (s : String) : String :=
  String.ofList (s.toList.map lowerChar)

@[simp] theorem toList_lower (s : String) : (lower s).toList = s.toList.map lowerChar := by
  simp [lower]

/-- Two texts agree up to the case of ASCII letters. -/
def equalIgnoringCase (a b : String) : Bool :=
  a.toList.map lowerChar == b.toList.map lowerChar

/-- A decimal digit of ASCII. -/
def isDigit (c : Char) : Bool :=
  '0' ≤ c ∧ c ≤ '9'

/-- A hexadecimal digit in either case. -/
def isHexDigit (c : Char) : Bool :=
  isDigit c || (('a' ≤ c ∧ c ≤ 'f') || ('A' ≤ c ∧ c ≤ 'F'))

/-- An ASCII letter in either case. -/
def isLetter (c : Char) : Bool :=
  ('a' ≤ c ∧ c ≤ 'z') || ('A' ≤ c ∧ c ≤ 'Z')

/-- The value of a hexadecimal digit. -/
def hexValue? (c : Char) : Option Nat :=
  if isDigit c then some (c.toNat - '0'.toNat)
  else if 'a' ≤ c ∧ c ≤ 'f' then some (c.toNat - 'a'.toNat + 10)
  else if 'A' ≤ c ∧ c ≤ 'F' then some (c.toNat - 'A'.toNat + 10)
  else none

/-- What follows `start` in `s`, when `s` begins with it up to ASCII case. -/
def dropPrefixIgnoringCase? : List Char → List Char → Option (List Char)
  | [], s => some s
  | _ :: _, [] => none
  | p :: ps, c :: cs =>
    if lowerChar p = lowerChar c then dropPrefixIgnoringCase? ps cs else none

/-- Whether a text ends with `ending` up to ASCII case. -/
def endsWithIgnoringCase (s ending : String) : Bool :=
  (ending.toList.map lowerChar).isSuffixOf (s.toList.map lowerChar)

end Ascii

end SourceServer
