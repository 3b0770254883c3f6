import BenchQueue.Machine.Arithmetic
/-!
# Formatted output of shell scripts

What the commands write that print their arguments: with escapes resolved, and filled into a format
that is used again until no argument is left.
-/

namespace BenchQueue.Machine.Format

/-- The character that an escape with one letter stands for. -/
def letter? : Char → Option Char
  | 'n' => some '\n'
  | 't' => some '\t'
  | 'r' => some '\r'
  | 'a' => some '\x07'
  | 'b' => some '\x08'
  | 'f' => some '\x0c'
  | 'v' => some '\x0b'
  | '\\' => some '\\'
  | _ => none

/-- Whether a character is a digit of base eight. -/
def isOctalDigit (c : Char) : Bool := '0' ≤ c && c ≤ '7'

/-- The value of digits of base eight. -/
def octalValue (digits : List Char) : Nat :=
  digits.foldl (fun n c => 8 * n + (c.toNat - '0'.toNat)) 0

/-- The bytes of a character. -/
def bytesOf (c : Char) : List UInt8 := (String.singleton c).toUTF8.toList

/-- The bytes behind a backslash and what is left of the text; nothing if the output stops there. A
number of base eight has a zero in front of it if `zero` is set. -/
def escape (zero : Bool) : List Char → Option (List UInt8 × List Char)
  | [] => some (bytesOf '\\', [])
  | c :: rest =>
    let digits := ((if zero then rest else c :: rest).take 3).takeWhile isOctalDigit
    if zero && c = '0' then some ([UInt8.ofNat (octalValue digits)], rest.drop digits.length)
    else if !zero && isOctalDigit c then
      some ([UInt8.ofNat (octalValue digits)], (c :: rest).drop digits.length)
    else if c = 'c' then none
    else
      match letter? c with
      | some d => some (bytesOf d, rest)
      | none => some (bytesOf '\\' ++ bytesOf c, rest)

/-- The bytes of a text with its escapes resolved, and whether the output goes on behind it. -/
def resolved : Nat → List Char → List UInt8 × Bool
  | 0, _ => ([], true)
  | _ + 1, [] => ([], true)
  | fuel + 1, '\\' :: rest =>
    match escape true rest with
    | none => ([], false)
    | some (bytes, rest) =>
      let (more, goesOn) := resolved fuel rest
      (bytes ++ more, goesOn)
  | fuel + 1, c :: rest =>
    let (more, goesOn) := resolved fuel rest
    (bytesOf c ++ more, goesOn)

/-- The output of an echo that resolves escapes. -/
def echoed (newline : Bool) (arguments : List String) : ByteArray :=
  let text := " ".intercalate arguments
  let (bytes, goesOn) := resolved (text.length + 1) text.toList
  ⟨(bytes ++ if newline && goesOn then bytesOf '\n' else []).toArray⟩

/-- Text filled up with blanks, or with zeros, to a width. -/
def filled (left zeros : Bool) (width : Nat) (text : String) : String :=
  let gap := width - text.length
  if left then text ++ String.ofList (List.replicate gap ' ')
  else if zeros then
    match text.toList with
    | '-' :: digits => "-" ++ String.ofList (List.replicate gap '0' ++ digits)
    | digits => String.ofList (List.replicate gap '0' ++ digits)
  else String.ofList (List.replicate gap ' ') ++ text

/-- The number that an argument spells. -/
def numberOf (text : String) : Int := (text.trimAscii.toString.toInt?).getD 0

/-- The bytes that a directive of a format writes for an argument. -/
def directive (kind : Char) (precision : Option Nat) (argument : String) : List UInt8 :=
  match kind with
  | 's' => (match precision with
    | some n => (argument.take n).toString
    | none => argument).toUTF8.toList
  | 'b' => (resolved (argument.length + 1) argument.toList).1
  | 'c' => (argument.take 1).toString.toUTF8.toList
  | 'x' => (String.ofList (Nat.toDigits 16 (numberOf argument).toNat)).toUTF8.toList
  | 'o' => (String.ofList (Nat.toDigits 8 (numberOf argument).toNat)).toUTF8.toList
  | _ => (toString (numberOf argument)).toUTF8.toList

/-- Writes a format once; what is left of the arguments and whether the output goes on. -/
def once : Nat → List Char → List String → List UInt8 × List String × Bool
  | 0, _, arguments => ([], arguments, true)
  | _ + 1, [], arguments => ([], arguments, true)
  | fuel + 1, '%' :: '%' :: rest, arguments =>
    let (more, arguments, goesOn) := once fuel rest arguments
    (bytesOf '%' ++ more, arguments, goesOn)
  | fuel + 1, '%' :: rest, arguments =>
    let flags := rest.takeWhile fun c => "-+ 0#".toList.contains c
    let behind := rest.drop flags.length
    let width := behind.takeWhile Char.isDigit
    let behind := behind.drop width.length
    let precision := if behind.head? = some '.' then
        some (digitsValue ((behind.drop 1).takeWhile Char.isDigit)) else none
    let behind := if behind.head? = some '.' then (behind.drop 1).dropWhile Char.isDigit else behind
    match behind with
    | [] => (bytesOf '%', arguments, true)
    | kind :: behind =>
      let bytes := directive kind precision (arguments.headD "")
      let text := (String.fromUTF8? ⟨bytes.toArray⟩).map fun text =>
        (filled (flags.contains '-') (flags.contains '0') (digitsValue width) text).toUTF8.toList
      let (more, arguments, goesOn) := once fuel behind (arguments.drop 1)
      (text.getD bytes ++ more, arguments, goesOn)
  | fuel + 1, '\\' :: rest, arguments =>
    match escape false rest with
    | none => ([], arguments, false)
    | some (bytes, rest) =>
      let (more, arguments, goesOn) := once fuel rest arguments
      (bytes ++ more, arguments, goesOn)
  | fuel + 1, c :: rest, arguments =>
    let (more, arguments, goesOn) := once fuel rest arguments
    (bytesOf c ++ more, arguments, goesOn)

/-- Writes a format until all arguments are used up. -/
def again : Nat → String → List String → List UInt8
  | 0, _, _ => []
  | fuel + 1, format, arguments =>
    let (bytes, rest, goesOn) := once (format.length + 1) format.toList arguments
    if goesOn && !rest.isEmpty && rest.length < arguments.length then
      bytes ++ again fuel format rest
    else bytes

/-- The output of a format with arguments. -/
def printed (format : String) (arguments : List String) : ByteArray :=
  ⟨(again (arguments.length + 1) format arguments).toArray⟩

end BenchQueue.Machine.Format
