/-!
# White space

The characters with the Unicode property White_Space, and texts without them at their ends.

- `isBlank`: the property.
- `trim`: a text without blanks at either end.
- `onlyBlanks`: a text that holds nothing else.
-/

namespace SourceServer

namespace Unicode

/-- White space: the ASCII controls from tab to carriage return, the space, next line, and the
spaces and separators outside ASCII. -/
def isBlank (c : Char) : Bool :=
  (9 ≤ c.toNat ∧ c.toNat ≤ 13) || c.toNat == 0x20 || c.toNat == 0x85 || c.toNat == 0xa0
    || c.toNat == 0x1680 || (0x2000 ≤ c.toNat ∧ c.toNat ≤ 0x200a) || c.toNat == 0x2028
    || c.toNat == 0x2029 || c.toNat == 0x202f || c.toNat == 0x205f || c.toNat == 0x3000

/-- A row of characters without the leading and trailing ones that satisfy `p`. -/
def trimBoth (p : Char → Bool) (s : List Char) : List Char :=
  ((s.dropWhile p).reverse.dropWhile p).reverse

/-- A text without white space at either end. -/
def trim (s : String) : String :=
  String.ofList (trimBoth isBlank s.toList)

/-- A text that is empty or holds white space only. -/
def onlyBlanks (s : String) : Bool :=
  s.toList.all isBlank

end Unicode

end SourceServer
