import SourceServer.Text.Hex

/-!
# MD5

The digest that compilers record for a source file.

- `Md5.digest`: the sixteen bytes of the digest of a content.
- `Md5.hex`: the digest in lower-case hexadecimal.
-/

namespace SourceServer

namespace Md5

/-- The additive constants of the sixty-four steps. -/
def constants : Array UInt32 :=
  #[0xd76aa478, 0xe8c7b756, 0x242070db, 0xc1bdceee, 0xf57c0faf, 0x4787c62a, 0xa8304613, 0xfd469501,
    0x698098d8, 0x8b44f7af, 0xffff5bb1, 0x895cd7be, 0x6b901122, 0xfd987193, 0xa679438e, 0x49b40821,
    0xf61e2562, 0xc040b340, 0x265e5a51, 0xe9b6c7aa, 0xd62f105d, 0x02441453, 0xd8a1e681, 0xe7d3fbc8,
    0x21e1cde6, 0xc33707d6, 0xf4d50d87, 0x455a14ed, 0xa9e3e905, 0xfcefa3f8, 0x676f02d9, 0x8d2a4c8a,
    0xfffa3942, 0x8771f681, 0x6d9d6122, 0xfde5380c, 0xa4beea44, 0x4bdecfa9, 0xf6bb4b60, 0xbebfbc70,
    0x289b7ec6, 0xeaa127fa, 0xd4ef3085, 0x04881d05, 0xd9d4d039, 0xe6db99e5, 0x1fa27cf8, 0xc4ac5665,
    0xf4292244, 0x432aff97, 0xab9423a7, 0xfc93a039, 0x655b59c3, 0x8f0ccc92, 0xffeff47d, 0x85845dd1,
    0x6fa87e4f, 0xfe2ce6e0, 0xa3014314, 0x4e0811a1, 0xf7537e82, 0xbd3af235, 0x2ad7d2bb, 0xeb86d391]

/-- The rotations of the steps, four for each round. -/
def rotations : Array UInt32 :=
  #[7, 12, 17, 22, 5, 9, 14, 20, 4, 11, 16, 23, 6, 10, 15, 21]

/-- The running value of a digest. -/
structure State where
  a : UInt32
  b : UInt32
  c : UInt32
  d : UInt32

/-- The value before the first block. -/
def start : State := ⟨0x67452301, 0xefcdab89, 0x98badcfe, 0x10325476⟩

/-- A word turned to the left. -/
def rotate (x amount : UInt32) : UInt32 :=
  (x <<< amount) ||| (x >>> (32 - amount))

/-- The bytes of a number, the lowest first. -/
def littleEndian : Nat → Nat → List UInt8
  | 0, _ => []
  | count + 1, n => UInt8.ofNat (n % 256) :: littleEndian count (n / 256)

/-- A content with its end marked and its length in bits added, filled up to whole blocks. -/
def padded (content : ByteArray) : ByteArray :=
  let zeros := (119 - content.size % 64) % 64
  (0x80 :: List.replicate zeros 0 ++ littleEndian 8 (content.size * 8)).foldl ByteArray.push content

/-- The byte at a position, zero behind the end. -/
def byteAt (bytes : ByteArray) (i : Nat) : UInt32 :=
  if h : i < bytes.size then bytes[i].toUInt32 else 0

/-- The word at a position, lowest byte first. -/
def wordAt (bytes : ByteArray) (i : Nat) : UInt32 :=
  byteAt bytes i ||| (byteAt bytes (i + 1) <<< 8) ||| (byteAt bytes (i + 2) <<< 16)
    ||| (byteAt bytes (i + 3) <<< 24)

/-- The mixing function and the word of a step. -/
def mix (s : State) (i : Nat) : UInt32 × Nat :=
  if i < 16 then ((s.b &&& s.c) ||| (~~~s.b &&& s.d), i)
  else if i < 32 then ((s.d &&& s.b) ||| (~~~s.d &&& s.c), (5 * i + 1) % 16)
  else if i < 48 then (s.b ^^^ s.c ^^^ s.d, (3 * i + 5) % 16)
  else (s.c ^^^ (s.b ||| ~~~s.d), 7 * i % 16)

/-- One step on the block that begins at `offset`. -/
def step (bytes : ByteArray) (offset : Nat) (s : State) (i : Nat) : State :=
  let (f, g) := mix s i
  let sum := f + s.a + constants.getD i 0 + wordAt bytes (offset + 4 * g)
  ⟨s.d, s.b + rotate sum (rotations.getD (i / 16 * 4 + i % 4) 0), s.b, s.c⟩

/-- The running value after one more block. -/
def addBlock (bytes : ByteArray) (s : State) (block : Nat) : State :=
  let t := (List.range 64).foldl (step bytes (block * 64)) s
  ⟨s.a + t.a, s.b + t.b, s.c + t.c, s.d + t.d⟩

/-- The digest of a content. -/
def digest (content : ByteArray) : List UInt8 :=
  let bytes := padded content
  let s := (List.range (bytes.size / 64)).foldl (addBlock bytes) start
  [s.a, s.b, s.c, s.d].flatMap fun word => littleEndian 4 word.toNat

/-- The digest of a content in hexadecimal. -/
def hex (content : ByteArray) : String :=
  Hex.encode (digest content)

end Md5

end SourceServer
