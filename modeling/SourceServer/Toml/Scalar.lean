import SourceServer.Text.Ascii
import SourceServer.Text.Search
import SourceServer.Toml.Value

/-!
# Simple TOML values

Texts, numbers, truth values and moments of time. Each reader takes its value from the front of a
text and gives what follows; `none` says that there is no such value.

- `quotedText?`: the four forms of text.
- `number?`: whole numbers in four bases, and numbers with a fraction or an exponent.
- `moment?`: dates and times.
- `bareValue?`: any value that is not a text, an array or a table.
-/

namespace SourceServer

namespace Toml

/-- A space or a tab. -/
def isSpace (c : Char) : Bool :=
  c == ' ' || c == '\t'

/-- What follows spaces and tabs. -/
def skipSpace (text : List Char) : List Char :=
  text.dropWhile isSpace

/-- What follows the end of a line. -/
def lineEnd? : List Char → Option (List Char)
  | '\n' :: rest => some rest
  | '\r' :: '\n' :: rest => some rest
  | _ => none

/-- A character that a comment or a text may hold as it is. -/
def isVisible (c : Char) : Bool :=
  c == '\t' || (0x20 ≤ c.toNat ∧ c.toNat ≠ 0x7f)

/-! ## Texts -/

/-- The character of a number, when it is one. -/
def charOfCode? (n : Nat) : Option Char :=
  if h : n.isValidChar then some (Char.ofNatAux n h) else none

/-- The number that so many hexadecimal digits denote, and what follows them. -/
def hexDigits? : Nat → Nat → List Char → Option (Nat × List Char)
  | 0, n, text => some (n, text)
  | _ + 1, _, [] => none
  | count + 1, n, c :: rest =>
    match Ascii.hexValue? c with
    | some d => hexDigits? count (16 * n + d) rest
    | none => none

/-- The character behind a backslash, and what follows it. -/
def escaped? : List Char → Option (Char × List Char)
  | 'b' :: rest => some ('\x08', rest)
  | 't' :: rest => some ('\t', rest)
  | 'n' :: rest => some ('\n', rest)
  | 'f' :: rest => some ('\x0c', rest)
  | 'r' :: rest => some ('\r', rest)
  | '"' :: rest => some ('"', rest)
  | '\\' :: rest => some ('\\', rest)
  | 'u' :: rest =>
    match hexDigits? 4 0 rest with
    | some (n, rest) => (charOfCode? n).map fun c => (c, rest)
    | none => none
  | 'U' :: rest =>
    match hexDigits? 8 0 rest with
    | some (n, rest) => (charOfCode? n).map fun c => (c, rest)
    | none => none
  | _ => none

/-- The rest of a text in double quotes; `fuel` bounds its length. -/
def basicText? : Nat → List Char → List Char → Option (List Char × List Char)
  | 0, _, _ => none
  | _ + 1, _, [] => none
  | fuel + 1, read, c :: rest =>
    if c = '"' then some (read.reverse, rest)
    else if c = '\\' then
      match escaped? rest with
      | some (c, rest) => basicText? fuel (c :: read) rest
      | none => none
    else if isVisible c then basicText? fuel (c :: read) rest
    else none

/-- The rest of a text in apostrophes. -/
def literalText? (read : List Char) : List Char → Option (List Char × List Char)
  | [] => none
  | c :: rest =>
    if c = '\'' then some (read.reverse, rest)
    else if isVisible c then literalText? (c :: read) rest
    else none

/-- A text on one line. -/
def lineText? : List Char → Option (String × List Char)
  | '"' :: rest =>
    (basicText? (rest.length + 1) [] rest).map fun (read, rest) => (String.ofList read, rest)
  | '\'' :: rest => (literalText? [] rest).map fun (read, rest) => (String.ofList read, rest)
  | _ => none

/-- What follows line ends and spaces, of which there is at least one line end behind the spaces in
front. -/
def skipLines? (text : List Char) : Option (List Char) :=
  (lineEnd? (skipSpace text)).map fun rest =>
    rest.dropWhile fun c => isSpace c || c == '\n' || c == '\r'

/-- How many of the quotes in front belong to the text, and what follows the closing three: up to
two may stand before them. -/
def closingQuotes? (quote : Char) (text : List Char) : Option (Nat × List Char) :=
  let (quotes, rest) := text.span (· == quote)
  let extra := quotes.length - 3
  if quotes.length < 3 then none
  else if extra ≤ 2 then some (extra, rest)
  else some (2, List.replicate (extra - 2) quote ++ rest)

/-- The rest of a text over several lines; `fuel` bounds its length, and `escapes` says whether
backslashes have a meaning. -/
def longText? (quote : Char) (escapes : Bool) :
    Nat → List Char → List Char → Option (List Char × List Char)
  | 0, _, _ => none
  | _ + 1, _, [] => none
  | fuel + 1, read, c :: rest =>
    if c = quote then
      match closingQuotes? quote (c :: rest) with
      | some (extra, rest) => some ((List.replicate extra quote ++ read).reverse, rest)
      | none => longText? quote escapes fuel (c :: read) rest
    else if c = '\\' ∧ escapes then
      match escaped? rest with
      | some (c, rest) => longText? quote escapes fuel (c :: read) rest
      | none =>
        match skipLines? rest with
        | some rest => longText? quote escapes fuel read rest
        | none => none
    else if isVisible c then longText? quote escapes fuel (c :: read) rest
    else
      match lineEnd? (c :: rest) with
      | some rest => longText? quote escapes fuel ('\n' :: read) rest
      | none => none

/-- A text in quotes of any form. A line end right behind the opening three quotes does not
count. -/
def quotedText? (text : List Char) : Option (String × List Char) :=
  let long (quote : Char) (rest : List Char) : Option (String × List Char) :=
    let rest := (lineEnd? rest).getD rest
    (longText? quote (quote == '"') (rest.length + 1) [] rest).map fun (read, rest) =>
      (String.ofList read, rest)
  match text with
  | '"' :: '"' :: '"' :: rest => long '"' rest
  | '\'' :: '\'' :: '\'' :: rest => long '\'' rest
  | _ => lineText? text

/-! ## Numbers -/

/-- The rest of a row of digits, in which underscores stand between digits only. -/
def moreDigits? (isDigit : Char → Bool) (read : List Char) :
    List Char → Option (List Char × List Char)
  | [] => some (read.reverse, [])
  | '_' :: c :: rest => if isDigit c then moreDigits? isDigit (c :: read) rest else none
  | ['_'] => none
  | c :: rest =>
    if isDigit c then moreDigits? isDigit (c :: read) rest else some (read.reverse, c :: rest)

/-- A row of at least one digit. -/
def digits? (isDigit : Char → Bool) : List Char → Option (List Char × List Char)
  | [] => none
  | c :: rest => if isDigit c then moreDigits? isDigit [c] rest else none

/-- The digits of a whole decimal number: no zero in front of others. -/
def decimalDigits? : List Char → Option (List Char × List Char)
  | '0' :: rest => some (['0'], rest)
  | text => digits? Ascii.isDigit text

/-- The number of a row of digits. -/
def numberOf (base : Nat) (digits : List Char) : Nat :=
  digits.foldl (fun n c => base * n + (Ascii.hexValue? c).getD 0) 0

/-- A whole number has to fit into 64 bits with a sign. -/
def bounded? (n : Int) : Option Int :=
  if -0x8000000000000000 ≤ n ∧ n < 0x8000000000000000 then some n else none

/-- A whole number in another base. -/
def prefixedNumber? (base : Nat) (isDigit : Char → Bool) (text : List Char) :
    Option (Value × List Char) :=
  match digits? isDigit text with
  | none => none
  | some (digits, rest) => (bounded? (numberOf base digits)).map fun n => (.integer n, rest)

/-- The sign in front, and what follows it. -/
def sign : List Char → Bool × List Char
  | '-' :: rest => (true, rest)
  | '+' :: rest => (false, rest)
  | text => (false, text)

/-- What follows an exponent, with its value. -/
def exponent? : List Char → Option (Int × List Char)
  | e :: rest =>
    if e = 'e' ∨ e = 'E' then
      let (negative, rest) := sign rest
      (digits? Ascii.isDigit rest).map fun (digits, rest) =>
        let n : Int := numberOf 10 digits
        (if negative then -n else n, rest)
    else none
  | [] => none

/-- Whether a positive number is too large for a floating-point number of 64 bits: its digits times
a power of ten. -/
def overflows (digits : List Char) (exponent : Int) : Bool :=
  let n := numberOf 10 digits
  let bound := Nat.pow 2 1024 - Nat.pow 2 970
  if n = 0 ∨ digits.length + exponent < 300 then false
  else if 400 < (Nat.toDigits 10 n).length + exponent then true
  else if 0 ≤ exponent then decide (bound ≤ n * Nat.pow 10 exponent.toNat)
  else decide (bound * Nat.pow 10 (-exponent).toNat ≤ n)

/-- What follows a fraction or an exponent behind a whole part. A positive number must not be too
large. -/
def fraction? (negative : Bool) (whole rest : List Char) : Option (Option (List Char)) :=
  let finish (digits : List Char) (exponent : Int) (rest : List Char) : Option (List Char) :=
    if !negative && overflows digits exponent then none else some rest
  match rest with
  | '.' :: behind =>
    match digits? Ascii.isDigit behind with
    | none => some none
    | some (decimals, rest) =>
      match rest with
      | [] => some (finish (whole ++ decimals) (-decimals.length) [])
      | c :: tail =>
        if c = 'e' ∨ c = 'E' then
          match exponent? (c :: tail) with
          | none => some none
          | some (exponent, rest) =>
            some (finish (whole ++ decimals) (exponent - decimals.length) rest)
        else some (finish (whole ++ decimals) (-decimals.length) (c :: tail))
  | c :: tail =>
    if c = 'e' ∨ c = 'E' then
      match exponent? (c :: tail) with
      | none => some none
      | some (exponent, rest) => some (finish whole exponent rest)
    else none
  | [] => none

/-- A number in decimal: a whole one, or one with a fraction or an exponent, or one of the two that
are no numbers. -/
def decimalNumber? (text : List Char) : Option (Value × List Char) :=
  let (negative, rest) := sign text
  match Search.dropPrefix? ['i', 'n', 'f'] rest, Search.dropPrefix? ['n', 'a', 'n'] rest with
  | some rest, _ => some (.float, rest)
  | none, some rest => some (.float, rest)
  | none, none =>
    match decimalDigits? rest with
    | none => none
    | some (digits, rest) =>
      match fraction? negative digits rest with
      | some behind => behind.map fun rest => (.float, rest)
      | none =>
        let n : Int := numberOf 10 digits
        (bounded? (if negative then -n else n)).map fun n => (.integer n, rest)

/-- A number of any form. -/
def number? (text : List Char) : Option (Value × List Char) :=
  match text with
  | '0' :: 'x' :: rest => prefixedNumber? 16 Ascii.isHexDigit rest
  | '0' :: 'o' :: rest => prefixedNumber? 8 (fun c => '0' ≤ c ∧ c ≤ '7') rest
  | '0' :: 'b' :: rest => prefixedNumber? 2 (fun c => c == '0' || c == '1') rest
  | _ => decimalNumber? text

/-! ## Moments -/

/-- A number of exactly so many digits. -/
def fixedNumber? (count : Nat) (text : List Char) : Option (Nat × List Char) :=
  let digits := text.take count
  if digits.length = count ∧ digits.all Ascii.isDigit then
    some (numberOf 10 digits, text.drop count)
  else none

/-- A number of two digits in a range. -/
def twoDigits? (least greatest : Nat) (text : List Char) : Option (Nat × List Char) :=
  match fixedNumber? 2 text with
  | some (n, rest) => if least ≤ n ∧ n ≤ greatest then some (n, rest) else none
  | none => none

/-- What follows a fixed character. -/
def char? (c : Char) : List Char → Option (List Char)
  | first :: rest => if first = c then some rest else none
  | [] => none

/-- The number of days of a month. -/
def monthLength (year month : Nat) : Nat :=
  if month = 2 then
    if year % 4 = 0 ∧ (year % 100 ≠ 0 ∨ year % 400 = 0) then 29 else 28
  else if month = 4 ∨ month = 6 ∨ month = 9 ∨ month = 11 then 30
  else 31

/-- What follows a date. -/
def date? (text : List Char) : Option (List Char) := do
  let (year, rest) ← fixedNumber? 4 text
  let rest ← char? '-' rest
  let (month, rest) ← twoDigits? 1 12 rest
  let rest ← char? '-' rest
  let (_, rest) ← twoDigits? 1 (monthLength year month) rest
  return rest

/-- What follows the fraction of a second, if there is one. -/
def secondFraction (text : List Char) : List Char :=
  match text with
  | '.' :: c :: rest => if Ascii.isDigit c then rest.dropWhile Ascii.isDigit else text
  | _ => text

/-- What follows a time of day. -/
def time? (text : List Char) : Option (List Char) := do
  let (_, rest) ← twoDigits? 0 23 text
  let rest ← char? ':' rest
  let (_, rest) ← twoDigits? 0 59 rest
  let rest ← char? ':' rest
  let (_, rest) ← twoDigits? 0 60 rest
  return secondFraction rest

/-- What follows the distance from universal time, if there is one; `none` when it is broken. -/
def offset? (text : List Char) : Option (List Char) :=
  match text with
  | c :: rest =>
    if c = 'Z' ∨ c = 'z' then some rest
    else if c = '+' ∨ c = '-' then do
      let (_, rest) ← twoDigits? 0 23 rest
      let rest ← char? ':' rest
      let (_, rest) ← twoDigits? 0 59 rest
      return rest
    else some text
  | [] => some []

/-- A date, a time, or both. -/
def moment? (text : List Char) : Option (Value × List Char) :=
  match date? text with
  | none => (time? text).map fun rest => (.moment, rest)
  | some rest =>
    let whole : Option (List Char) :=
      match rest with
      | c :: behind =>
        if c = 'T' ∨ c = 't' ∨ c = ' ' then
          match time? behind with
          | some behind => offset? behind
          | none => some rest
        else some rest
      | [] => some []
    whole.map fun rest => (.moment, rest)

/-- A value that is not a text, an array or a table. -/
def bareValue? (text : List Char) : Option (Value × List Char) :=
  match Search.dropPrefix? "true".toList text with
  | some rest => some (.boolean true, rest)
  | none =>
    match Search.dropPrefix? "false".toList text with
    | some rest => some (.boolean false, rest)
    | none =>
      match moment? text with
      | some found => some found
      | none => number? text

end Toml

end SourceServer
