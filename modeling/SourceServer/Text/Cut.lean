/-!
# Texts cut at a byte

An offset into a text counts the bytes of its UTF-8 form, so it can fall inside a character or behind
the end. No cut is made there.

- `Cut.split?`: both sides of an offset.
- `Cut.before?`, `Cut.behind?`: one of them.
-/

namespace SourceServer

namespace Cut

/-- What stands in front of a byte offset and what stands behind it; `none` when the offset falls
inside a character or behind the end. -/
def split? : List Char → Nat → Option (List Char × List Char)
  | text, 0 => some ([], text)
  | [], _ + 1 => none
  | c :: rest, offset + 1 =>
    if offset + 1 < c.utf8Size then none
    else (split? rest (offset + 1 - c.utf8Size)).map fun (front, behind) => (c :: front, behind)

/-- What stands in front of a byte offset. -/
def before? (text : List Char) (offset : Nat) : Option (List Char) :=
  (split? text offset).map Prod.fst

/-- What stands behind a byte offset. -/
def behind? (text : List Char) (offset : Nat) : Option (List Char) :=
  (split? text offset).map Prod.snd

end Cut

end SourceServer
