import SourceServer.FileSystem

/-!
# Symbol file containers

A symbol file is a container of numbered streams, cut into pages of one size. The header names the
pages of a list, which names the pages of the directory, which names the pages of every stream.

- `Pdb.Fault`: why a container cannot be read.
- `Pdb.Container.ofBytes`: the container of a file.
- `Pdb.Container.stream`: the content of one stream.
-/

namespace SourceServer

namespace Pdb

/-- Why a container cannot be read. -/
inductive Fault where
  | unrecognizedFormat
  /-- The older format with small pages. -/
  | smallFormat
  | invalidPageSize (size : Nat)
  | unexpectedEnd
  | pageOutOfRange (page : Nat)
  | streamAbsent (stream : Nat)
  | streamNameNotFound
  | io (error : IoError)
deriving DecidableEq

/-- The wording of a fault. -/
def Fault.message : Fault → String
  | .unrecognizedFormat => "UnrecognizedFileFormat"
  | .smallFormat => "Unimplemented PDB feature: small MSF file format"
  | .invalidPageSize size =>
    "The MSF header specifies an invalid page size (" ++ toString size ++ " bytes)"
  | .unexpectedEnd => "UnexpectedEof"
  | .pageOutOfRange page => "MSF referred to page number (" ++ toString page ++ ") out of range"
  | .streamAbsent stream =>
    "The requested stream (" ++ toString stream ++ ") is not stored in this file"
  | .streamNameNotFound => "StreamNameNotFound"
  | .io error => "IO error while reading PDB: " ++ error.message

/-! ## Numbers in rows of bytes -/

/-- A number of four bytes, the lowest first, and what follows it. -/
def takeWord : List UInt8 → Except Fault (Nat × List UInt8)
  | a :: b :: c :: d :: rest =>
    .ok (a.toNat + 256 * (b.toNat + 256 * (c.toNat + 256 * d.toNat)), rest)
  | _ => .error .unexpectedEnd

/-- What follows so many bytes. -/
def skip (count : Nat) (bytes : List UInt8) : Except Fault (List UInt8) :=
  if count ≤ bytes.length then .ok (bytes.drop count) else .error .unexpectedEnd

/-! ## Pages -/

/-- A container: the file, the size and number of its pages, the length of the directory and the
pages on which the list of the directory's pages stands. -/
structure Container where
  file : ByteArray
  pageSize : Nat
  pageCount : Nat
  directorySize : Nat
  listPages : List Nat

/-- The number of pages that so many bytes take. -/
def pagesFor (pageSize bytes : Nat) : Nat :=
  (bytes + (pageSize - 1)) / pageSize

/-- A page number that a container of so many pages may use. -/
def checkPage (pageCount page : Nat) : Except Fault Nat :=
  if page = 0 ∨ pageCount < page then .error (.pageOutOfRange page) else .ok page

/-- Reads so many page numbers. -/
def takePages (pageCount : Nat) : Nat → List UInt8 → Except Fault (List Nat)
  | 0, _ => .ok []
  | count + 1, bytes => do
    let (page, rest) ← takeWord bytes
    let page ← checkPage pageCount page
    let pages ← takePages pageCount count rest
    return page :: pages

/-- Reads as many page numbers as there are. -/
def allPages (pageCount : Nat) (bytes : List UInt8) : Except Fault (List Nat) :=
  takePages pageCount (bytes.length / 4) bytes

/-- The bytes of a file from a position on. -/
def readAt (file : ByteArray) (position count : Nat) : Except Fault (List UInt8) :=
  if position + count ≤ file.size then
    .ok (file.extract position (position + count)).data.toList
  else .error (.io .shortRead)

/-- The first `count` bytes on some pages. -/
def readPages (file : ByteArray) (pageSize : Nat) : List Nat → Nat → Except Fault (List UInt8)
  | [], _ => .ok []
  | page :: rest, count =>
    if count = 0 then .ok []
    else do
      let here ← readAt file (page * pageSize) (min count pageSize)
      let behind ← readPages file pageSize rest (count - pageSize)
      return here ++ behind

/-! ## Header -/

/-- The bytes with which a container begins. -/
def magic : List UInt8 :=
  "Microsoft C/C++ MSF 7.00\r\n\x1aDS\x00\x00\x00".toUTF8.data.toList

/-- The bytes with which a container of the older format begins. -/
def smallMagic : List UInt8 :=
  "Microsoft C/C++ program database 2.00\r\n\x1aJG".toUTF8.data.toList

/-- The length of the part of a file that holds the header. -/
def headerSize : Nat := 4096

/-- A power of two in the range of page sizes. -/
def isPageSize (size : Nat) : Bool :=
  decide (0x100 ≤ size ∧ size ≤ 0x800000 ∧ Nat.pow 2 size.log2 = size)

namespace Container

/-- The container of a file. -/
def ofBytes (file : ByteArray) : Except Fault Container := do
  if file.size < headerSize then throw .unrecognizedFormat
  let header := (file.extract 0 headerSize).data.toList
  if !magic.isPrefixOf header then
    if smallMagic.isPrefixOf header then throw .smallFormat else throw .unrecognizedFormat
  let (pageSize, rest) ← takeWord (header.drop magic.length)
  let (_, rest) ← takeWord rest
  let (pageCount, rest) ← takeWord rest
  let (directorySize, rest) ← takeWord rest
  let (_, rest) ← takeWord rest
  if !isPageSize pageSize then throw (.invalidPageSize pageSize)
  let listPages ←
    takePages pageCount (pagesFor pageSize (4 * pagesFor pageSize directorySize)) rest
  return ⟨file, pageSize, pageCount, directorySize, listPages⟩

/-- The directory: the number of streams, their sizes, and the pages of each. -/
def directory (c : Container) : Except Fault (List UInt8) := do
  let list ← readPages c.file c.pageSize c.listPages (4 * pagesFor c.pageSize c.directorySize)
  let pages ← allPages c.pageCount list
  readPages c.file c.pageSize pages c.directorySize

/-- The size that marks a stream which is not stored. -/
def absentSize : Nat := 0xffffffff

/-- The number of pages of the first streams, whose sizes stand in front, and what follows those
sizes. -/
def pagesBefore (c : Container) : Nat → List UInt8 → Except Fault (Nat × List UInt8)
  | 0, bytes => .ok (0, bytes)
  | count + 1, bytes => do
    let (size, rest) ← takeWord bytes
    let (pages, rest) ← c.pagesBefore count rest
    return ((if size = absentSize then 0 else pagesFor c.pageSize size) + pages, rest)

/-- The size and the pages of a stream. -/
def locate (c : Container) (stream : Nat) : Except Fault (Nat × List Nat) := do
  let (count, rest) ← takeWord (← c.directory)
  if count ≤ stream then throw (.streamAbsent stream)
  let (before, rest) ← c.pagesBefore stream rest
  let (size, rest) ← takeWord rest
  if size = absentSize then throw (.streamAbsent stream)
  let rest ← skip ((count - stream - 1) * 4) rest
  let rest ← skip (before * 4) rest
  let pages ← takePages c.pageCount (pagesFor c.pageSize size) rest
  return (size, pages)

/-- The content of a stream. -/
def stream (c : Container) (number : Nat) : Except Fault (List UInt8) := do
  let (size, pages) ← c.locate number
  readPages c.file c.pageSize pages size

end Container

end Pdb

end SourceServer
