/-!
# Texts as lines

- `lines`: the lines of a text, each ended by LF or by CR LF; the last one may lack its end.
-/

namespace SourceServer

namespace Lines

/-- A line without the one CR that its end may begin with. -/
def dropCarriageReturn (line : List Char) : List Char :=
  if line.getLast? = some '\r' then line.dropLast else line

/-- The pieces between LFs as lines: all but the last were ended by an LF, and the last counts
only when it holds something. -/
def ofPieces : List (List Char) → List (List Char)
  | [] => []
  | [last] => if last.isEmpty then [] else [last]
  | piece :: rest => dropCarriageReturn piece :: ofPieces rest

/-- The lines of a text. -/
def lines (s : String) : List String :=
  (ofPieces (s.toList.splitOn '\n')).map String.ofList

end Lines

end SourceServer
