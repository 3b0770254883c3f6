import BenchQueue.Json.Reader
import BenchQueue.Time.Timestamp
import BenchQueue.Toml.Document
/-!
# Reading TOML documents

`Toml.parse?` reads version 1.0 of the format. Integers have 64 bits, brackets of values nest fewer
than 80 deep, and a number too large for a double is refused unless it is negative.
-/

namespace BenchQueue.Toml

/-- A blank inside a line. -/
def isBlankChar (c : Char) : Bool := c == ' ' || c == '\t'

/-- The text behind the blanks of a line. -/
def skipBlanks (text : List Char) : List Char := text.dropWhile isBlankChar

/-- Whether a character may stand in a comment. -/
def isCommentChar (c : Char) : Bool :=
  c == '\t' || (0x20 ≤ c.toNat && c.toNat ≠ 0x7F)

/-- The text behind a line break. -/
def newline? : List Char → Option (List Char)
  | '\n' :: rest => some rest
  | '\r' :: '\n' :: rest => some rest
  | _ => none

/-- The text behind a comment, if one comes first. -/
def skipComment : List Char → List Char
  | '#' :: rest => rest.dropWhile isCommentChar
  | text => text

/-- The text behind the end of a line: blanks, a comment, and a line break or the end. -/
def endOfLine? (text : List Char) : Option (List Char) :=
  match skipComment (skipBlanks text) with
  | [] => some []
  | rest => newline? rest

/-- The text behind any number of blanks, comments and line breaks. -/
def skipLines : Nat → List Char → List Char
  | 0, text => text
  | fuel + 1, text =>
    let rest := skipComment (skipBlanks text)
    match newline? rest with
    | some rest => skipLines fuel rest
    | none => rest

/-- The character of `digits` hexadecimal digits, if it is one. -/
def readEscapedCode (digits : Nat) (text : List Char) : Option (Char × List Char) := do
  let taken := text.take digits
  if taken.length < digits then none
  else
    let values ← taken.mapM Json.hexValue?
    let code := values.foldl (fun n d => 16 * n + d) 0
    if code < 0xD800 ∨ (0xDFFF < code ∧ code < 0x110000) then
      pure (Char.ofNat code, text.drop digits)
    else none

/-- The character behind a backslash. -/
def readEscape : List Char → Option (Char × List Char)
  | 'b' :: rest => some (Char.ofNat 0x8, rest)
  | 't' :: rest => some ('\t', rest)
  | 'n' :: rest => some ('\n', rest)
  | 'f' :: rest => some (Char.ofNat 0xC, rest)
  | 'r' :: rest => some ('\r', rest)
  | '"' :: rest => some ('"', rest)
  | '\\' :: rest => some ('\\', rest)
  | 'u' :: rest => readEscapedCode 4 rest
  | 'U' :: rest => readEscapedCode 8 rest
  | _ => none

/-- Whether a character may stand for itself in a string. -/
def isStringChar (c : Char) : Bool :=
  c == '\t' || (0x20 ≤ c.toNat && c.toNat ≠ 0x7F)

/-- A basic string behind its opening quote; `found` holds its characters in reverse. -/
def readBasic : Nat → List Char → List Char → Option (String × List Char)
  | 0, _, _ => none
  | _ + 1, _, [] => none
  | fuel + 1, found, c :: rest =>
    if c = '"' then some (String.ofList found.reverse, rest)
    else if c = '\\' then
      match readEscape rest with
      | some (c, rest) => readBasic fuel (c :: found) rest
      | none => none
    else if isStringChar c then readBasic fuel (c :: found) rest
    else none

/-- A literal string behind its opening quote. -/
def readLiteral (text : List Char) : Option (String × List Char) :=
  let body := text.takeWhile fun c => isStringChar c && c != '\''
  match text.drop body.length with
  | '\'' :: rest => some (String.ofList body, rest)
  | _ => none

/-- What a run of quotes in a string of several lines means: the number of them that belong to the
string, if the run ends the string. -/
def closingRun (run : Nat) : Option Nat :=
  if 3 ≤ run then some (min (run - 3) 2) else none

/-- The text behind the blanks and line breaks that a backslash at the end of a line hides. -/
def skipHidden : Nat → List Char → List Char
  | 0, text => text
  | fuel + 1, text =>
    match newline? (skipBlanks text) with
    | some rest => skipHidden fuel rest
    | none => skipBlanks text

/-- A basic string of several lines behind its opening quotes. -/
def readMultilineBasic : Nat → List Char → List Char → Option (String × List Char)
  | 0, _, _ => none
  | fuel + 1, found, text =>
    match text with
    | [] => none
    | '"' :: _ =>
      let run := (text.takeWhile (· == '"')).length
      match closingRun run with
      | some extra =>
        some (String.ofList (List.replicate extra '"' ++ found).reverse, text.drop (extra + 3))
      | none => readMultilineBasic fuel (List.replicate run '"' ++ found) (text.drop run)
    | '\\' :: rest =>
      match newline? (skipBlanks rest) with
      | some rest' => readMultilineBasic fuel found (skipHidden rest'.length rest')
      | none =>
        match readEscape rest with
        | some (c, rest) => readMultilineBasic fuel (c :: found) rest
        | none => none
    | c :: rest =>
      match newline? text with
      | some rest => readMultilineBasic fuel ('\n' :: found) rest
      | none => if isStringChar c then readMultilineBasic fuel (c :: found) rest else none

/-- A literal string of several lines behind its opening quotes. -/
def readMultilineLiteral : Nat → List Char → List Char → Option (String × List Char)
  | 0, _, _ => none
  | fuel + 1, found, text =>
    match text with
    | [] => none
    | '\'' :: _ =>
      let run := (text.takeWhile (· == '\'')).length
      match closingRun run with
      | some extra =>
        some (String.ofList (List.replicate extra '\'' ++ found).reverse, text.drop (extra + 3))
      | none => readMultilineLiteral fuel (List.replicate run '\'' ++ found) (text.drop run)
    | c :: rest =>
      match newline? text with
      | some rest => readMultilineLiteral fuel ('\n' :: found) rest
      | none => if isStringChar c then readMultilineLiteral fuel (c :: found) rest else none

/-- The text behind a line break directly behind opening quotes. -/
def skipFirstNewline (text : List Char) : List Char := (newline? text).getD text

/-- A string with its quotes, if one comes first. -/
def readString : List Char → Option (String × List Char)
  | '"' :: '"' :: '"' :: rest => readMultilineBasic (rest.length + 1) [] (skipFirstNewline rest)
  | '"' :: rest => readBasic (rest.length + 1) [] rest
  | '\'' :: '\'' :: '\'' :: rest =>
    readMultilineLiteral (rest.length + 1) [] (skipFirstNewline rest)
  | '\'' :: rest => readLiteral rest
  | _ => none

/-- One part of a key. -/
def readKeyPart : List Char → Option (String × List Char)
  | '"' :: rest => readBasic (rest.length + 1) [] rest
  | '\'' :: rest => readLiteral rest
  | text =>
    let name := text.takeWhile fun c => c.isAlphanum || c == '-' || c == '_'
    if name.isEmpty then none else some (String.ofList name, text.drop name.length)

/-- A key: parts with points between them, as the parts before the last and the last one. -/
def readKey : Nat → List Char → Option ((List String × String) × List Char)
  | 0, _ => none
  | fuel + 1, text => do
    let (part, rest) ← readKeyPart (skipBlanks text)
    match skipBlanks rest with
    | '.' :: rest =>
      let ((path, key), rest) ← readKey fuel rest
      pure ((part :: path, key), rest)
    | rest => pure (([], part), rest)

/-- Digits of one kind with single underscores between them. -/
def readDigits (isDigit : Char → Bool) (text : List Char) : Option (List Char × List Char) :=
  match text with
  | [] => none
  | c :: rest => if isDigit c then some (go (rest.length) [c] rest) else none
where
  go : Nat → List Char → List Char → List Char × List Char
    | 0, found, text => (found.reverse, text)
    | fuel + 1, found, text =>
      match text with
      | '_' :: c :: rest =>
        if isDigit c then go fuel (c :: found) rest else (found.reverse, text)
      | c :: rest => if isDigit c then go fuel (c :: found) rest else (found.reverse, text)
      | [] => (found.reverse, [])

/-- An integer of a base with a two-character mark in front. -/
def readBased (base : Nat) (isDigit : Char → Bool) (text : List Char) :
    Option (Toml × List Char) := do
  let (digits, rest) ← readDigits isDigit text
  let values ← digits.mapM Json.hexValue?
  let value := values.foldl (fun n d => base * n + d) 0
  if (value : Int) ≤ maxInteger then pure (.int value, rest) else none

/-- Whether a character is a digit of base eight. -/
def isOctal (c : Char) : Bool := '0' ≤ c && c ≤ '7'

/-- The exponent of a floating-point number, if one comes first. -/
def readExponent : List Char → Option (Option Int × List Char)
  | [] => some (none, [])
  | c :: rest =>
    if c = 'e' ∨ c = 'E' then do
      let (minus, rest) := Json.readSign rest
      let (digits, rest) ← readDigits Char.isDigit rest
      let value : Int := digitsValue digits
      pure (some (if minus then -value else value), rest)
    else some (none, c :: rest)

/-- The digits behind a point, if one comes first. -/
def readFraction : List Char → Option (Option (List Char) × List Char)
  | '.' :: rest => (readDigits Char.isDigit rest).map fun (digits, rest) => (some digits, rest)
  | text => some (none, text)

/-- A decimal number behind its sign. -/
def readDecimal (negative : Bool) (text : List Char) : Option (Toml × List Char) := do
  let (whole, rest) ← readDigits Char.isDigit text
  if whole.head? = some '0' && whole.length ≠ 1 then none
  else if text.take 2 = ['0', '_'] then none
  else
    let (fraction, rest) ← readFraction rest
    let (exponent, rest) ← readExponent rest
    if fraction.isNone && exponent.isNone then
      let value : Int := if negative then -(digitsValue whole : Int) else digitsValue whole
      if minInteger ≤ value ∧ value ≤ maxInteger then pure (.int value, rest) else none
    else
      let fraction := fraction.getD []
      let value := nearestFloat negative (digitsValue (whole ++ fraction))
        (exponent.getD 0 - fraction.length)
      if value.isInf && !negative then none else pure (.float value, rest)

/-- A number with an optional sign: decimal, infinite, or not a number. -/
def readSigned (negative : Bool) : List Char → Option (Toml × List Char)
  | 'i' :: 'n' :: 'f' :: rest => some (.float (if negative then -1.0 / 0.0 else 1.0 / 0.0), rest)
  | 'n' :: 'a' :: 'n' :: rest => some (.float (0.0 / 0.0), rest)
  | text => readDecimal negative text

/-- A number. -/
def readNumber : List Char → Option (Toml × List Char)
  | '0' :: 'x' :: rest => readBased 16 (fun c => (Json.hexValue? c).isSome) rest
  | '0' :: 'o' :: rest => readBased 8 isOctal rest
  | '0' :: 'b' :: rest => readBased 2 (fun c => c == '0' || c == '1') rest
  | '+' :: rest => readSigned false rest
  | '-' :: rest => readSigned true rest
  | text => readSigned false text

/-- Exactly `count` digits below a bound. -/
def readFixed (count bound : Nat) (text : List Char) : Option (Nat × List Char) :=
  let digits := text.take count
  if digits.length = count && digits.all Char.isDigit && digitsValue digits ≤ bound then
    some (digitsValue digits, text.drop count)
  else none

/-- One character. -/
def readChar (c : Char) : List Char → Option (List Char)
  | d :: rest => if c = d then some rest else none
  | [] => none

/-- A date. -/
def readDate (text : List Char) : Option (String × List Char) := do
  let (year, rest) ← readFixed 4 9999 text
  let rest ← readChar '-' rest
  let (month, rest) ← readFixed 2 12 rest
  let rest ← readChar '-' rest
  let (day, rest) ← readFixed 2 31 rest
  let date : CivilDate := ⟨year, month, day⟩
  if date.isValid then pure (date.text, rest) else none

/-- The digits of a fraction of a second, nine at most, without zeros at their end. -/
def fractionText (digits : List Char) : String :=
  let kept := ((digits.take 9).reverse.dropWhile (· == '0')).reverse
  if kept.isEmpty then "" else "." ++ String.ofList kept

/-- A time of day. -/
def readClock (text : List Char) : Option (String × List Char) := do
  let (hour, rest) ← readFixed 2 23 text
  let rest ← readChar ':' rest
  let (minute, rest) ← readFixed 2 59 rest
  let rest ← readChar ':' rest
  let (second, rest) ← readFixed 2 60 rest
  let (fraction, rest) ← match rest with
    | '.' :: rest' =>
      let digits := rest'.takeWhile Char.isDigit
      if digits.isEmpty then none else some (fractionText digits, rest'.drop digits.length)
    | _ => some ("", rest)
  pure (FloatText.padded 2 hour ++ ":" ++ FloatText.padded 2 minute ++ ":" ++
    FloatText.padded 2 second ++ fraction, rest)

/-- An offset from universal time, if one comes first. -/
def readOffset : List Char → Option (String × List Char)
  | 'Z' :: rest => some ("Z", rest)
  | 'z' :: rest => some ("Z", rest)
  | sign :: rest =>
    if sign = '+' ∨ sign = '-' then do
      let (hour, rest) ← readFixed 2 23 rest
      let rest ← readChar ':' rest
      let (minute, rest) ← readFixed 2 59 rest
      let mark := if sign = '-' && hour * 60 + minute ≠ 0 then "-" else "+"
      pure (mark ++ FloatText.padded 2 hour ++ ":" ++ FloatText.padded 2 minute, rest)
    else some ("", sign :: rest)
  | [] => some ("", [])

/-- A date with a time of day behind it, if one comes. -/
def readDateTime (text : List Char) : Option (Toml × List Char) := do
  let (date, rest) ← readDate text
  match rest with
  | mark :: rest' =>
    if mark = 'T' ∨ mark = 't' ∨ (mark = ' ' ∧ (rest'.head?.any Char.isDigit)) then
      let (clock, rest) ← readClock rest'
      let (offset, rest) ← readOffset rest
      pure (.time (date ++ "T" ++ clock ++ offset), rest)
    else pure (.time date, rest)
  | [] => pure (.time date, [])

/-- Whether a date comes first: four digits and a hyphen. -/
def looksLikeDate (text : List Char) : Bool :=
  (text.take 4).length == 4 && (text.take 4).all Char.isDigit && text[4]? == some '-'

/-- Whether a time of day comes first: two digits and a colon. -/
def looksLikeClock (text : List Char) : Bool :=
  (text.take 2).length == 2 && (text.take 2).all Char.isDigit && text[2]? == some ':'

/-- The least number of nested brackets that is refused. -/
def depthLimit : Nat := 80

mutual

/-- A value inside `depth` brackets. -/
def readValue : Nat → Nat → List Char → Option (Toml × List Char)
  | 0, _, _ => none
  | fuel + 1, depth, text =>
    match text with
    | '"' :: _ => (readString text).map fun (s, rest) => (.str s, rest)
    | '\'' :: _ => (readString text).map fun (s, rest) => (.str s, rest)
    | 't' :: 'r' :: 'u' :: 'e' :: rest => some (.bool true, rest)
    | 'f' :: 'a' :: 'l' :: 's' :: 'e' :: rest => some (.bool false, rest)
    | '[' :: rest =>
      if depthLimit ≤ depth + 1 then none
      else (readItems fuel (depth + 1) [] rest).map fun (items, rest) => (.arr items, rest)
    | '\x7b' :: rest =>
      if depthLimit ≤ depth + 1 then none
      else
        match skipBlanks rest with
        | '\x7d' :: rest => some (.table [], rest)
        | rest =>
          match readPairs fuel (depth + 1) [] rest with
          | some (pairs, rest) => (inlineTable? pairs).map fun value => (value, rest)
          | none => none
    | text =>
      if looksLikeDate text then readDateTime text
      else if looksLikeClock text then (readClock text).map fun (s, rest) => (.time s, rest)
      else readNumber text

/-- The items of an array up to its closing bracket, after those already found. -/
def readItems : Nat → Nat → List Toml → List Char → Option (List Toml × List Char)
  | 0, _, _, _ => none
  | fuel + 1, depth, found, text =>
    match skipLines (text.length + 1) text with
    | ']' :: rest => some (found.reverse, rest)
    | text =>
      match readValue fuel depth text with
      | none => none
      | some (item, rest) =>
        match skipLines (rest.length + 1) rest with
        | ',' :: rest => readItems fuel depth (item :: found) rest
        | ']' :: rest => some ((item :: found).reverse, rest)
        | _ => none

/-- The entries of an inline table up to its closing brace, after those already found. -/
def readPairs : Nat → Nat → List (List String × String × Toml) → List Char →
    Option (List (List String × String × Toml) × List Char)
  | 0, _, _, _ => none
  | fuel + 1, depth, found, text =>
    match readKey (text.length + 1) text with
    | some ((path, key), '=' :: rest) =>
      match readValue fuel depth (skipBlanks rest) with
      | none => none
      | some (value, rest) =>
        match skipBlanks rest with
        | ',' :: rest => readPairs fuel depth ((path, key, value) :: found) rest
        | '\x7d' :: rest => some (((path, key, value) :: found).reverse, rest)
        | _ => none
    | _ => none

end

/-- A header behind its first bracket: whether it is that of an array, its path and its last part.
-/
def readHeader (text : List Char) : Option ((Bool × List String × String) × List Char) := do
  let (isArray, rest) := match text with
    | '[' :: rest => (true, rest)
    | text => (false, text)
  let ((path, key), rest) ← readKey (rest.length + 1) rest
  let rest ← readChar ']' rest
  let rest ← if isArray then readChar ']' rest else some rest
  pure ((isArray, path, key), rest)

/-- Adds the lines of a text to a document. -/
def readDocument : Nat → Document → List Char → Option Document
  | 0, _, _ => none
  | fuel + 1, document, text =>
    match skipLines (text.length + 1) text with
    | [] => some document
    | '[' :: rest => do
      let ((isArray, path, key), rest) ← readHeader rest
      let rest ← endOfLine? rest
      let document ← document.header? isArray path key
      readDocument fuel document rest
    | text =>
      match readKey (text.length + 1) text with
      | some ((path, key), '=' :: rest) => do
        let rest := skipBlanks rest
        let (value, rest) ← readValue (2 * rest.length + 2) 0 rest
        let rest ← endOfLine? rest
        let document ← document.insert? path key value
        readDocument fuel document rest
      | _ => none

/-- Reads a document; a byte order mark in front of it is skipped. -/
def parse? (text : String) : Option Toml :=
  let chars := match text.toList with
    | '\ufeff' :: rest => rest
    | chars => chars
  (readDocument (chars.length + 1) {} chars).map fun document => .table document.finish

end BenchQueue.Toml
