import SourceServer.Text.Search
import SourceServer.Url.DomainName

/-!
# Hosts

The host of a URL is an address of the Internet protocol, version 6 in brackets or version 4 in
numbers, or a domain name. Schemes that the web does not know have hosts without structure.

- `Fault`: why a text is not a URL.
- `Host`: what a host is.
- `ipv4?`, `ipv6?`: the two forms of address.
- `Host.parse`, `Host.parsePlain`: the host of a text.
-/

namespace SourceServer

namespace Url

/-- Why a text is not a URL. -/
inductive Fault where
  | emptyHost
  | invalidDomainName
  | invalidPort
  | invalidIpv4
  | invalidIpv6
  | invalidHostCharacter
  | noScheme
deriving DecidableEq

/-- The wording of a fault. -/
def Fault.message : Fault → String
  | .emptyHost => "empty host"
  | .invalidDomainName => "invalid international domain name"
  | .invalidPort => "invalid port number"
  | .invalidIpv4 => "invalid IPv4 address"
  | .invalidIpv6 => "invalid IPv6 address"
  | .invalidHostCharacter => "invalid domain character"
  | .noScheme => "relative URL without a base"

/-- The host of a URL. -/
inductive Host where
  /-- No host at all. -/
  | absent
  /-- A domain name by its labels. -/
  | domain (labels : List (List Char))
  | ipv4 (address : Nat)
  | ipv6 (pieces : List Nat)
  /-- A host of a scheme whose hosts have no structure. -/
  | plain (text : List Char)
deriving DecidableEq

/-! ## Version 4 -/

/-- The number of a row of digits in a base. -/
def numberIn (base : Nat) (digits : List Char) : Option Nat :=
  digits.foldlM
    (fun n c =>
      match Ascii.hexValue? c with
      | some d => if d < base then some (n * base + d) else none
      | none => none)
    0

/-- The number of one part of an address: hexadecimal behind `0x`, octal behind `0`, else
decimal. -/
def ipv4Part? (part : List Char) : Option Nat :=
  match part with
  | [] => none
  | '0' :: 'x' :: digits | '0' :: 'X' :: digits => numberIn 16 digits
  | '0' :: d :: digits => numberIn 8 (d :: digits)
  | digits => numberIn 10 digits

/-- The parts of an address; one empty part at the end does not count. -/
def ipv4Parts (text : List Char) : List (List Char) :=
  let parts := text.splitOn '.'
  if parts.getLast? = some [] ∧ 1 < parts.length then parts.dropLast else parts

/-- Whether a name claims to be an address: its last part is a number. -/
def endsInNumber (text : List Char) : Bool :=
  match (ipv4Parts text).getLast? with
  | none => false
  | some last => (!last.isEmpty && last.all Ascii.isDigit) || (ipv4Part? last).isSome

/-- The address that numbers make up: the last one fills all bytes that are left. -/
def ipv4OfNumbers? (numbers : List Nat) : Option Nat :=
  match numbers.getLast? with
  | none => none
  | some last =>
    let front := numbers.dropLast
    if 4 < numbers.length then none
    else if front.any (255 < ·) then none
    else if Nat.pow 256 (4 - front.length) ≤ last then none
    else
      let high := front.foldl (fun n part => n * 256 + part) 0
      some (high * Nat.pow 256 (4 - front.length) + last)

/-- The address of a text in numbers. -/
def ipv4? (text : List Char) : Option Nat :=
  match (ipv4Parts text).mapM ipv4Part? with
  | none => none
  | some numbers => ipv4OfNumbers? numbers

/-! ## Version 6 -/

/-- One piece of an address: one to four hexadecimal digits. -/
def ipv6Piece? (text : List Char) : Option Nat :=
  if text.isEmpty ∨ 4 < text.length then none else numberIn 16 text

/-- One of four decimal numbers at the end of an address, without leading zeros. -/
def decimalByte? (text : List Char) : Option Nat :=
  match text with
  | [] => none
  | ['0'] => some 0
  | '0' :: _ => none
  | digits =>
    match numberIn 10 digits with
    | some n => if n ≤ 255 then some n else none
    | none => none

/-- The two pieces that four decimal numbers make up. -/
def dottedPieces? (text : List Char) : Option (List Nat) :=
  match (text.splitOn '.').mapM decimalByte? with
  | some [a, b, c, d] => some [a * 256 + b, c * 256 + d]
  | _ => none

/-- The pieces of a row; `dotted` says whether the last one may be in decimal numbers. -/
def ipv6Pieces? (dotted : Bool) : List (List Char) → Option (List Nat)
  | [] => some []
  | [last] =>
    match ipv6Piece? last with
    | some piece => some [piece]
    | none => if dotted then dottedPieces? last else none
  | text :: rest =>
    match ipv6Piece? text, ipv6Pieces? dotted rest with
    | some piece, some pieces => some (piece :: pieces)
    | _, _ => none

/-- The pieces of one side of the gap. -/
def ipv6Side? (dotted : Bool) (text : List Char) : Option (List Nat) :=
  if text.isEmpty then some [] else ipv6Pieces? dotted (text.splitOn ':')

/-- The eight pieces of an address; one gap may stand for one or more zeros. -/
def ipv6? (text : List Char) : Option (List Nat) :=
  match Search.splitAtFirst? [':', ':'] text with
  | none =>
    match ipv6Side? true text with
    | some pieces => if pieces.length = 8 then some pieces else none
    | none => none
  | some (before, after) =>
    match ipv6Side? false before, ipv6Side? true after with
    | some front, some back =>
      if front.length + back.length ≤ 7 then
        some (front ++ List.replicate (8 - front.length - back.length) 0 ++ back)
      else none
    | _, _ => none

/-- The address in brackets. -/
def bracketed (text : List Char) : Except Fault Host :=
  if text.getLast? = some ']' then
    match ipv6? (text.drop 1).dropLast with
    | some pieces => .ok (.ipv6 pieces)
    | none => .error .invalidIpv6
  else .error .invalidIpv6

/-! ## Names -/

/-- The bytes of a text with `%` and two hexadecimal digits read as one byte. -/
def percentDecoded : List UInt8 → List UInt8
  | [] => []
  | [a] => [a]
  | [a, b] => [a, b]
  | a :: b :: c :: rest =>
    match Ascii.hexValue? (Char.ofNat b.toNat), Ascii.hexValue? (Char.ofNat c.toNat) with
    | some high, some low =>
      if a = '%'.toUInt8 then UInt8.ofNat (high * 16 + low) :: percentDecoded rest
      else a :: percentDecoded (b :: c :: rest)
    | _, _ => a :: percentDecoded (b :: c :: rest)

/-- The host of a scheme of the web. -/
def Host.parse (text : List Char) : Except Fault Host :=
  if text.head? = some '[' then bracketed text
  else
    let bytes := percentDecoded (String.ofList text).toUTF8.data.toList
    match String.fromUTF8? ⟨bytes.toArray⟩ with
    | none => .error .invalidDomainName
    | some name =>
      match DomainName.labels? name.toList with
      | none => .error .invalidDomainName
      | some labels =>
        let ascii := ['.'].intercalate labels
        if ascii.isEmpty then .error .emptyHost
        else if endsInNumber ascii then
          match ipv4? ascii with
          | some address => .ok (.ipv4 address)
          | none => .error .invalidIpv4
        else .ok (.domain labels)

/-- The characters that a host without structure may not hold. -/
def isForbiddenInHost (c : Char) : Bool :=
  "\x00\t\n\r #/:<>?@[\\]^|".toList.contains c

/-- The host of a scheme that the web does not know. -/
def Host.parsePlain (text : List Char) : Except Fault Host :=
  if text.head? = some '[' then bracketed text
  else if text.any isForbiddenInHost then .error .invalidHostCharacter
  else if text.isEmpty then .ok .absent
  else .ok (.plain text)

end Url

end SourceServer
