/-!
# Finding and replacing fixed text

Occurrences of a fixed pattern are found from left to right and never overlap.

- `splitAtFirst?`: the text before and after the first occurrence.
- `replaceAll`: every occurrence replaced.
- `occurrences`: how many there are.
-/

namespace SourceServer

namespace Search

/-- What follows `pattern` in `s`, when `s` begins with it. -/
def dropPrefix? : List Char → List Char → Option (List Char)
  | [], s => some s
  | _ :: _, [] => none
  | p :: ps, c :: cs => if p = c then dropPrefix? ps cs else none

/-- The text before and the text after the first occurrence of `pattern`. -/
def splitAtFirst? (pattern : List Char) : List Char → Option (List Char × List Char)
  | [] => if pattern.isEmpty then some ([], []) else none
  | c :: cs =>
    match dropPrefix? pattern (c :: cs) with
    | some rest => some ([], rest)
    | none => (splitAtFirst? pattern cs).map fun (before, after) => (c :: before, after)

/-- One pass over the text; the counter says how many characters still belong to the occurrence
found last. -/
def replaceFrom (pattern replacement : List Char) : Nat → List Char → List Char
  | _, [] => []
  | skip + 1, _ :: cs => replaceFrom pattern replacement skip cs
  | 0, c :: cs =>
    if pattern.isPrefixOf (c :: cs) then
      replacement ++ replaceFrom pattern replacement (pattern.length - 1) cs
    else c :: replaceFrom pattern replacement 0 cs

/-- Every occurrence of the non-empty `pattern` replaced. -/
def replaceAll (pattern replacement : List Char) (s : List Char) : List Char :=
  replaceFrom pattern replacement 0 s

/-- Counts like `replaceFrom` replaces. -/
def occurrencesFrom (pattern : List Char) : Nat → List Char → Nat
  | _, [] => 0
  | skip + 1, _ :: cs => occurrencesFrom pattern skip cs
  | 0, c :: cs =>
    if pattern.isPrefixOf (c :: cs) then
      occurrencesFrom pattern (pattern.length - 1) cs + 1
    else occurrencesFrom pattern 0 cs

/-- The number of occurrences of the non-empty `pattern`. -/
def occurrences (pattern : List Char) (s : List Char) : Nat :=
  occurrencesFrom pattern 0 s

end Search

end SourceServer
