import SourceServer.Pdb.Container

/-!
# Names of streams

Some streams of a symbol file have names. The table of names stands in the information stream,
behind a buffer that holds the names themselves.

- `Pdb.NameEntry`: a name as bytes and the number of its stream.
- `Pdb.Outcome`: a table may also be broken in a way that ends the reader.
- `Pdb.Container.nameBuffer`, `Pdb.nameTable`: the two parts.
-/

namespace SourceServer

namespace Pdb

/-- A named stream. -/
structure NameEntry where
  name : List UInt8
  stream : Nat
deriving DecidableEq

/-- Why the name table cannot be read. -/
inductive TableFault where
  | fault (fault : Fault)
  /-- A name begins outside the buffer: the reader does not survive this. -/
  | nameOutsideBuffer
deriving DecidableEq

/-- The information stream: the length of the name buffer, and everything from the buffer on. -/
structure Information where
  bufferSize : Nat
  rest : List UInt8

/-- The number of the information stream. -/
def informationStream : Nat := 1

/-- The bytes in front of the name buffer's length: version, signature, age and identifier. -/
def informationHead : Nat := 28

/-- Reads the information stream. -/
def Container.information (c : Container) : Except Fault Information := do
  let bytes ← c.stream informationStream
  let rest ← skip informationHead bytes
  let (bufferSize, rest) ← takeWord rest
  return ⟨bufferSize, rest⟩

/-- The bytes up to the first zero, which must be there. -/
def nameAt (buffer : List UInt8) : Except Fault (List UInt8) :=
  match buffer.span (· ≠ 0) with
  | (name, _ :: _) => .ok name
  | (_, []) => .error .unexpectedEnd

/-- Reads so many entries of the table. -/
def takeEntries (buffer : List UInt8) : Nat → List UInt8 → Except TableFault (List NameEntry)
  | 0, _ => .ok []
  | count + 1, bytes => do
    let (offset, rest) ← (takeWord bytes).mapError .fault
    let (stream, rest) ← (takeWord rest).mapError .fault
    if buffer.length < offset then throw .nameOutsideBuffer
    let name ← (nameAt (buffer.drop offset)).mapError .fault
    let entries ← takeEntries buffer count rest
    return ⟨name, stream % 0x10000⟩ :: entries

/-- What follows a row of words that begins with its length. -/
def skipWords (bytes : List UInt8) : Except Fault (List UInt8) := do
  let (count, rest) ← takeWord bytes
  skip (count * 4) rest

/-- The number of entries, and the entries themselves as bytes. -/
def tableBytes (bytes : List UInt8) : Except Fault (Nat × List UInt8) := do
  let (count, rest) ← takeWord bytes
  let (_, rest) ← takeWord rest
  let rest ← skipWords rest
  let rest ← skipWords rest
  return (count, rest)

/-- The entries of the name table in their order. -/
def Information.names (information : Information) : Except TableFault (List NameEntry) := do
  let rest ← (skip information.bufferSize information.rest).mapError .fault
  let (count, rest) ← (tableBytes rest).mapError .fault
  takeEntries (information.rest.take information.bufferSize) count rest

/-- The number that stands for no stream. -/
def noStream : Nat := 0xffff

/-- The content of the first stream with a name. -/
def Container.namedStream (c : Container) (entries : List NameEntry) (name : List UInt8) :
    Except Fault (List UInt8) :=
  match entries.find? fun entry => entry.name == name with
  | none => .error .streamNameNotFound
  | some entry =>
    if entry.stream = noStream then .error .streamNameNotFound else c.stream entry.stream

end Pdb

end SourceServer
