/-!
# Reading UTF-8

Names inside a container are bytes. They are read as UTF-8, and every maximal part that cannot
begin a character is read as one replacement character.

- `nextChar`: the character, or the length of the invalid part, at the front of a row of bytes.
- `decodeLossy`: the text of a row of bytes.
-/

namespace SourceServer

namespace Utf8

/-- A byte that continues a character. -/
def isContinuation (b : UInt8) : Bool :=
  0x80 ≤ b.toNat ∧ b.toNat ≤ 0xbf

/-- The second bytes that may follow a first byte of a longer form; they exclude overlong forms,
surrogates and numbers above the last code point. -/
def secondRange (first : UInt8) : Nat × Nat :=
  if first.toNat = 0xe0 then (0xa0, 0xbf)
  else if first.toNat = 0xed then (0x80, 0x9f)
  else if first.toNat = 0xf0 then (0x90, 0xbf)
  else if first.toNat = 0xf4 then (0x80, 0x8f)
  else (0x80, 0xbf)

/-- Whether `second` may follow `first`. -/
def mayFollow (first second : UInt8) : Bool :=
  (secondRange first).1 ≤ second.toNat ∧ second.toNat ≤ (secondRange first).2

/-- What stands at the front of a row of bytes. -/
inductive Front where
  /-- A character of so many bytes. -/
  | char (c : Char) (length : Nat)
  /-- An invalid part of so many bytes. -/
  | invalid (length : Nat)

/-- The payload of a continuation byte. -/
def low (b : UInt8) : Nat :=
  b.toNat % 64

/-- Reads the front of the bytes `first :: rest`. -/
def front (first : UInt8) (rest : List UInt8) : Front :=
  let n := first.toNat
  if n < 0x80 then .char (Char.ofNat n) 1
  else if 0xc2 ≤ n ∧ n ≤ 0xdf then
    match rest with
    | b :: _ =>
      if isContinuation b then .char (Char.ofNat (n % 32 * 64 + low b)) 2 else .invalid 1
    | [] => .invalid 1
  else if 0xe0 ≤ n ∧ n ≤ 0xef then
    match rest with
    | b :: rest =>
      if mayFollow first b then
        match rest with
        | c :: _ =>
          if isContinuation c then .char (Char.ofNat ((n % 16 * 64 + low b) * 64 + low c)) 3
          else .invalid 2
        | [] => .invalid 2
      else .invalid 1
    | [] => .invalid 1
  else if 0xf0 ≤ n ∧ n ≤ 0xf4 then
    match rest with
    | b :: rest =>
      if mayFollow first b then
        match rest with
        | c :: rest =>
          if isContinuation c then
            match rest with
            | d :: _ =>
              if isContinuation d then
                .char (Char.ofNat (((n % 8 * 64 + low b) * 64 + low c) * 64 + low d)) 4
              else .invalid 3
            | [] => .invalid 3
          else .invalid 2
        | [] => .invalid 2
      else .invalid 1
    | [] => .invalid 1
  else .invalid 1

/-- Reads bytes as text; the counter says how many bytes belong to the part read last. -/
def decodeFrom : Nat → List UInt8 → List Char
  | _, [] => []
  | skip + 1, _ :: rest => decodeFrom skip rest
  | 0, first :: rest =>
    match front first rest with
    | .char c length => c :: decodeFrom (length - 1) rest
    | .invalid length => Char.ofNat 0xfffd :: decodeFrom (length - 1) rest

/-- The text of a row of bytes, with a replacement character for each invalid part. -/
def decodeLossy (bytes : List UInt8) : String :=
  String.ofList (decodeFrom 0 bytes)

/-- The bytes of a text. -/
def encode (s : String) : List UInt8 :=
  s.toUTF8.data.toList

end Utf8

end SourceServer
