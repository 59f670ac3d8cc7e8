import SourceServer.Text.Hex
import SourceServer.Unicode.PrintTables

/-!
# Quoted texts

A text in double quotes, in which controls, combining marks and characters without a visible form
are written as escapes.

- `quote`: the quoted form of a text.
- `quoteName`: the quoted form of a file name, where the apostrophe is escaped as well.
-/

namespace SourceServer

namespace Quoted

/-- A character that is shown as it is. -/
def isPrintable (c : Char) : Bool :=
  if c.toNat < 0x7f then decide (0x20 ≤ c.toNat)
  else !Unicode.unprintableRanges.contains c

/-- A character by its number. -/
def byNumber (c : Char) : List Char :=
  ['\\', 'u', '\x7b'] ++ (Hex.ofNat c.toNat).toList ++ ['\x7d']

/-- One character of a quoted text. -/
def escape (apostrophes : Bool) (c : Char) : List Char :=
  match c with
  | '\x00' => ['\\', '0']
  | '\t' => ['\\', 't']
  | '\r' => ['\\', 'r']
  | '\n' => ['\\', 'n']
  | '\\' => ['\\', '\\']
  | '"' => ['\\', '"']
  | '\'' => if apostrophes then ['\\', '\''] else ['\'']
  | c =>
    if Unicode.graphemeExtendRanges.contains c then byNumber c
    else if isPrintable c then [c]
    else byNumber c

/-- A text in double quotes. -/
def quote (s : String) : String :=
  String.ofList ('"' :: s.toList.flatMap (escape false) ++ ['"'])

/-- A file name in double quotes. -/
def quoteName (s : String) : String :=
  String.ofList ('"' :: s.toList.flatMap (escape true) ++ ['"'])

end Quoted

end SourceServer
