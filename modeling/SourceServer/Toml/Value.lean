/-!
# TOML values

The values of a settings document, and how tables grow while it is read. A table remembers what made
it, because a table that has a header of its own or stands in one line cannot be reopened, and one
made by dotted keys can only be extended by dotted keys.

- `Toml.Value`: the values.
- `Toml.within`: a change inside nested tables.
- `Toml.addPair`, `Toml.openTable`, `Toml.openArrayTable`: the ways a table grows.
-/

namespace SourceServer

namespace Toml

/-- What made a table. -/
inductive Origin where
  /-- A header of its own. -/
  | header
  /-- The header of a table inside it. -/
  | implied
  /-- A dotted key. -/
  | dotted
  /-- Braces in one line; such a table is closed. -/
  | braces
deriving DecidableEq

/-- A value. Numbers with a fraction and moments of time are not kept. -/
inductive Value where
  | text (s : String)
  | integer (n : Int)
  | boolean (b : Bool)
  | float
  | moment
  | array (items : List Value)
  | table (origin : Origin) (entries : List (String × Value))
  /-- Tables that share one header in double brackets. -/
  | tables (items : List (List (String × Value)))

/-- The entries of a table in the order of their keys' first occurrence. -/
abbrev Entries := List (String × Value)

/-- Entries with one key set; a new key comes last. -/
def setKey (key : String) (value : Value) : Entries → Entries
  | [] => [(key, value)]
  | (other, old) :: rest =>
    if other = key then (key, value) :: rest else (other, old) :: setKey key value rest

/-- Changes the table that a path of keys leads to, making missing tables on the way. A dotted path
does not enter tables with a header; no path enters other values. Of tables that share a header the
last one is meant. -/
def within (dotted : Bool) (change : Origin → Entries → Option Entries) :
    List String → Origin → Entries → Option Entries
  | [], origin, entries => change origin entries
  | key :: path, _, entries =>
    let made : Origin := if dotted then .dotted else .implied
    match entries.lookup key with
    | none =>
      match within dotted change path made [] with
      | some inner => some (setKey key (.table made inner) entries)
      | none => none
    | some (.table origin inner) =>
      if origin = .braces ∨ (dotted ∧ origin = .header) then none
      else
        match within dotted change path origin inner with
        | some inner => some (setKey key (.table origin inner) entries)
        | none => none
    | some (.tables items) =>
      match items.reverse with
      | [] => none
      | last :: before =>
        match within dotted change path .header last with
        | some inner => some (setKey key (.tables (before.reverse ++ [inner])) entries)
        | none => none
    | some _ => none

/-- One more pair in a table. A simple key does not extend a table made by dotted keys, and a dotted
key no other; no key occurs twice. -/
def insertPair (path : List String) (key : String) (value : Value) (origin : Origin)
    (entries : Entries) : Option Entries :=
  if decide (origin = .dotted) == path.isEmpty then none
  else
    match entries.lookup key with
    | some _ => none
    | none => some (setKey key value entries)

/-- One more pair in a table, under a dotted key. -/
def addPair (origin : Origin) (entries : Entries) (path : List String) (key : String)
    (value : Value) : Option Entries :=
  within true (insertPair path key value) path origin entries

/-- A table gets its header. One that was only implied keeps what it holds. -/
def openHere (key : String) (_ : Origin) (entries : Entries) : Option Entries :=
  match entries.lookup key with
  | none => some (setKey key (.table .header []) entries)
  | some (.table .implied inner) => some (setKey key (.table .header inner) entries)
  | some _ => none

/-- One more table under a header in double brackets. -/
def openNext (key : String) (_ : Origin) (entries : Entries) : Option Entries :=
  match entries.lookup key with
  | none => some (setKey key (.tables [[]]) entries)
  | some (.tables items) => some (setKey key (.tables (items ++ [[]])) entries)
  | some _ => none

/-- A header opens a table. -/
def openTable (root : Entries) (path : List String) (key : String) : Option Entries :=
  within false (openHere key) path .header root

/-- A header in double brackets opens a table. -/
def openArrayTable (root : Entries) (path : List String) (key : String) : Option Entries :=
  within false (openNext key) path .header root

end Toml

end SourceServer
