/-!
# Bytes as hexadecimal text

Two lower-case digits for each byte, the high half first.
-/

namespace SourceServer

namespace Hex

/-- The lower-case digit of a value below sixteen. -/
def digit (n : Nat) : Char :=
  if n < 10 then Char.ofNat ('0'.toNat + n) else Char.ofNat ('a'.toNat + (n - 10))

/-- The two digits of a byte. -/
def ofByte (b : UInt8) : List Char :=
  [digit (b.toNat / 16), digit (b.toNat % 16)]

/-- The digits of a row of bytes (`to_hex`). -/
def encode (bytes : List UInt8) : String :=
  String.ofList (bytes.flatMap ofByte)

/-- A number in hexadecimal without leading zeros, the least digit first; `fuel` bounds the
number of digits. -/
def digitsReversed : Nat → Nat → List Char
  | 0, _ => []
  | fuel + 1, n => digit (n % 16) :: (if n < 16 then [] else digitsReversed fuel (n / 16))

/-- A number in hexadecimal without leading zeros. -/
def ofNat (n : Nat) : String :=
  String.ofList (digitsReversed (n + 1) n).reverse

end Hex

end SourceServer
