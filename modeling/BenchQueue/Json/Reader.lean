import BenchQueue.Json.Basic
import BenchQueue.Number.Reader
/-!
# Reading JSON texts

`Json.parse?` reads a whole text. It is strict: no blank beyond the four of the format, no comma
before a closing bracket, no leading zero, no control character in a string, no surrogate without
its partner, no number beyond the range of doubles and fewer than 128 nested brackets.
-/

namespace BenchQueue.Json

/-- The four characters that may stand between two tokens. -/
def isSpace (c : Char) : Bool :=
  c == ' ' || c == '\n' || c == '\r' || c == '\t'

/-- The text behind the blanks in front of it. -/
def skipSpaces (text : List Char) : List Char :=
  text.dropWhile isSpace

/-- The value of a hexadecimal digit. -/
def hexValue? (c : Char) : Option Nat :=
  if c.isDigit then some (c.toNat - '0'.toNat)
  else if 'a' ≤ c ∧ c ≤ 'f' then some (c.toNat - 'a'.toNat + 10)
  else if 'A' ≤ c ∧ c ≤ 'F' then some (c.toNat - 'A'.toNat + 10)
  else none

/-- Four hexadecimal digits. -/
def readHex4 : List Char → Option (Nat × List Char)
  | a :: b :: c :: d :: rest => do
    let a ← hexValue? a
    let b ← hexValue? b
    let c ← hexValue? c
    let d ← hexValue? d
    pure (((a * 16 + b) * 16 + c) * 16 + d, rest)
  | _ => none

/-- The character of a code unit escape; a high surrogate takes the low one that must follow it. -/
def readUnicode (text : List Char) : Option (Char × List Char) := do
  let (unit, rest) ← readHex4 text
  if 0xDC00 ≤ unit ∧ unit ≤ 0xDFFF then none
  else if 0xD800 ≤ unit ∧ unit ≤ 0xDBFF then
    match rest with
    | '\\' :: 'u' :: rest =>
      let (low, rest) ← readHex4 rest
      if 0xDC00 ≤ low ∧ low ≤ 0xDFFF then
        pure (Char.ofNat (0x10000 + (unit - 0xD800) * 0x400 + (low - 0xDC00)), rest)
      else none
    | _ => none
  else pure (Char.ofNat unit, rest)

/-- The characters of a string behind its opening quote, in reverse order, with the text behind
its closing quote. -/
def readChars : Nat → List Char → List Char → Option (List Char × List Char)
  | 0, _, _ => none
  | _ + 1, _, [] => none
  | fuel + 1, found, c :: rest =>
    if c = '"' then some (found, rest)
    else if c = '\\' then
      match rest with
      | '"' :: rest => readChars fuel ('"' :: found) rest
      | '\\' :: rest => readChars fuel ('\\' :: found) rest
      | '/' :: rest => readChars fuel ('/' :: found) rest
      | 'b' :: rest => readChars fuel (Char.ofNat 0x8 :: found) rest
      | 'f' :: rest => readChars fuel (Char.ofNat 0xC :: found) rest
      | 'n' :: rest => readChars fuel ('\n' :: found) rest
      | 'r' :: rest => readChars fuel ('\r' :: found) rest
      | 't' :: rest => readChars fuel ('\t' :: found) rest
      | 'u' :: rest =>
        match readUnicode rest with
        | some (c, rest) => readChars fuel (c :: found) rest
        | none => none
      | _ => none
    else if c.toNat < 0x20 then none
    else readChars fuel (c :: found) rest

/-- A string behind its opening quote. -/
def readString (text : List Char) : Option (String × List Char) := do
  let (found, rest) ← readChars (text.length + 1) [] text
  pure (String.ofList found.reverse, rest)

/-- The digits in front of a text and the text behind them. -/
def takeDigits (text : List Char) : List Char × List Char :=
  (text.takeWhile Char.isDigit, text.dropWhile Char.isDigit)

/-- An integer if its value fits into 64 bits, with or without a sign; a double otherwise. -/
def integerValue (negative : Bool) (digits : Nat) : Option Json :=
  if negative && digits = 0 then some (.float (nearestFloat true 0 0))
  else if negative && digits ≤ UInt64.size / 2 then some (.int (-digits))
  else if !negative && digits < UInt64.size then some (.int digits)
  else
    let value := nearestFloat negative digits 0
    if value.isFinite then some (.float value) else none

/-- The digits behind a point, if a point comes first; then there is at least one digit. -/
def readFraction : List Char → Option (Option (List Char) × List Char)
  | '.' :: rest =>
    let (fraction, rest) := takeDigits rest
    if fraction.isEmpty then none else some (some fraction, rest)
  | text => some (none, text)

/-- The sign of an exponent; true for a minus. -/
def readSign : List Char → Bool × List Char
  | '-' :: rest => (true, rest)
  | '+' :: rest => (false, rest)
  | text => (false, text)

/-- The exponent behind its letter, if that letter comes first; then there is at least one digit. -/
def readExponent : List Char → Option (Option Int × List Char)
  | [] => some (none, [])
  | c :: rest =>
    if c = 'e' ∨ c = 'E' then
      let (minus, rest) := readSign rest
      let (digits, rest) := takeDigits rest
      let value : Int := digitsValue digits
      if digits.isEmpty then none else some (some (if minus then -value else value), rest)
    else some (none, c :: rest)

/-- The part of a number behind its sign. -/
def readUnsigned (negative : Bool) (text : List Char) : Option (Json × List Char) := do
  let (whole, rest) := takeDigits text
  if whole.isEmpty || (whole.head? = some '0' && 1 < whole.length) then none
  else
    let (fraction, rest) ← readFraction rest
    let (exponent, rest) ← readExponent rest
    if fraction.isNone && exponent.isNone then
      let value ← integerValue negative (digitsValue whole)
      pure (value, rest)
    else
      let fraction := fraction.getD []
      let value := nearestFloat negative (digitsValue (whole ++ fraction))
        (exponent.getD 0 - fraction.length)
      if value.isFinite then pure (.float value, rest) else none

/-- A number. -/
def readNumber : List Char → Option (Json × List Char)
  | '-' :: rest => readUnsigned true rest
  | text => readUnsigned false text

/-- The least number of nested brackets that is refused. -/
def depthLimit : Nat := 128

mutual

/-- A value, with blanks allowed in front of it, inside `depth` brackets. -/
def readValue : Nat → Nat → List Char → Option (Json × List Char)
  | 0, _, _ => none
  | fuel + 1, depth, text =>
    match skipSpaces text with
    | 'n' :: 'u' :: 'l' :: 'l' :: rest => some (.null, rest)
    | 't' :: 'r' :: 'u' :: 'e' :: rest => some (.bool true, rest)
    | 'f' :: 'a' :: 'l' :: 's' :: 'e' :: rest => some (.bool false, rest)
    | '"' :: rest => (readString rest).map fun (value, rest) => (.str value, rest)
    | '[' :: rest =>
      if depthLimit ≤ depth + 1 then none
      else
        match skipSpaces rest with
        | ']' :: rest => some (.arr [], rest)
        | rest => (readItems fuel (depth + 1) [] rest).map fun (items, rest) => (.arr items, rest)
    | '\x7b' :: rest =>
      if depthLimit ≤ depth + 1 then none
      else
        match skipSpaces rest with
        | '\x7d' :: rest => some (.obj [], rest)
        | rest =>
          (readMembers fuel (depth + 1) [] rest).map fun (members, rest) => (.obj members, rest)
    | text => readNumber text

/-- The items of an array up to its closing bracket, after those already found. -/
def readItems : Nat → Nat → List Json → List Char → Option (List Json × List Char)
  | 0, _, _, _ => none
  | fuel + 1, depth, found, text =>
    match readValue fuel depth text with
    | none => none
    | some (item, rest) =>
      match skipSpaces rest with
      | ',' :: rest => readItems fuel depth (item :: found) rest
      | ']' :: rest => some ((item :: found).reverse, rest)
      | _ => none

/-- The members of an object up to its closing brace, after those already found. -/
def readMembers :
    Nat → Nat → List (String × Json) → List Char → Option (List (String × Json) × List Char)
  | 0, _, _, _ => none
  | fuel + 1, depth, found, text =>
    match skipSpaces text with
    | '"' :: rest =>
      match readString rest with
      | none => none
      | some (name, rest) =>
        match skipSpaces rest with
        | ':' :: rest =>
          match readValue fuel depth rest with
          | none => none
          | some (value, rest) =>
            match skipSpaces rest with
            | ',' :: rest => readMembers fuel depth ((name, value) :: found) rest
            | '\x7d' :: rest => some (((name, value) :: found).reverse, rest)
            | _ => none
        | _ => none
    | _ => none

end

/-- Reads a text that is one value with blanks around it. -/
def parse? (text : String) : Option Json :=
  let chars := text.toList
  match readValue (2 * chars.length + 2) 0 chars with
  | some (value, rest) => if (skipSpaces rest).isEmpty then some value else none
  | none => none

end BenchQueue.Json
