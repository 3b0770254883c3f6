import BenchQueue.Machine.Script
/-!
# Tokens of shell scripts

A script is a sequence of words, operators, redirections and line ends. The text that a command is
given as its input stands below its line; it becomes the target of a redirection.
-/

namespace BenchQueue.Machine.Script

/-- A token of a script. `broken` stands for a text that is no token and goes on over some lines. -/
inductive Token
  | word (w : Word)
  | operator (s : String)
  | redirect (fd : Nat) (kind : RedirectKind)
  | newline
  | broken (lines : Nat) (message : String)
  deriving DecidableEq, Repr, Inhabited

/-- Whether a character can be part of the name of a variable. -/
def isNameChar (c : Char) : Bool := c.isAlphanum || c == '_'

/-- Whether a text is the name of a variable. -/
def isName (text : String) : Bool :=
  match text.toList with
  | [] => false
  | c :: rest => (c.isAlpha || c == '_') && rest.all isNameChar

/-- The grave accent, which encloses a command in a word. -/
def grave : Char := Char.ofNat 0x60

/-- What stands up to a closing bracket, and the rest. Brackets inside are skipped in pairs, and so
is what is quoted. -/
def takeBracket (opening closing : Char) : Nat → Nat → List Char → List Char → List Char × List Char
  | 0, _, found, rest => (found.reverse, rest)
  | _ + 1, _, found, [] => (found.reverse, [])
  | fuel + 1, depth, found, c :: rest =>
    if c = '\'' then
      let inside := rest.takeWhile (· != '\'')
      takeBracket opening closing fuel depth ('\'' :: inside.reverse ++ c :: found)
        (rest.drop (inside.length + 1))
    else if c = closing then
      if depth = 0 then (found.reverse, rest)
      else takeBracket opening closing fuel (depth - 1) (c :: found) rest
    else
      let depth := if c = opening then depth + 1 else depth
      takeBracket opening closing fuel depth (c :: found) rest

/-- The uses of a parameter by the text behind its name, the longer ones first. -/
def parameterUses : List (String × ParameterUse) :=
  [(":-", .otherwise true), (":=", .assigned true), (":+", .instead true), (":?", .required true),
    ("-", .otherwise false), ("=", .assigned false), ("+", .instead false),
    ("?", .required false), ("##", .withoutStart true), ("#", .withoutStart false),
    ("%%", .withoutEnd true), ("%", .withoutEnd false)]

/-- The name of a parameter at the start of a text. -/
def parameterName (text : List Char) : List Char :=
  match text with
  | [] => []
  | c :: _ =>
    if c.isDigit then text.takeWhile Char.isDigit
    else if c.isAlpha || c == '_' then text.takeWhile isNameChar
    else [c]

/-- What stands between the braces behind a dollar sign. -/
def readBraces (quoted : Bool) (inside : List Char) : WordPart :=
  match inside with
  | '#' :: c :: rest => .parameter (String.ofList (c :: rest)) .length "" quoted
  | inside =>
    let name := parameterName inside
    let behind := inside.drop name.length
    match parameterUses.find? fun (mark, _) => mark.toList.isPrefixOf behind with
    | some (mark, use) =>
      .parameter (String.ofList name) use (String.ofList (behind.drop mark.length)) quoted
    | none => .parameter (String.ofList name) .value "" quoted

/-- The part behind a dollar sign. -/
def readDollar (quoted : Bool) (text : List Char) : WordPart × List Char :=
  match text with
  | '(' :: '(' :: rest =>
    let (inside, behind) := takeBracket '(' ')' (rest.length + 1) 0 [] rest
    match behind with
    | ')' :: behind => (.arithmetic (String.ofList inside) quoted, behind)
    | behind => (.arithmetic (String.ofList inside) quoted, behind)
  | '(' :: rest =>
    let (inside, rest) := takeBracket '(' ')' (rest.length + 1) 0 [] rest
    (.output (String.ofList inside) quoted, rest)
  | '\x7b' :: rest =>
    let (inside, rest) := takeBracket '\x7b' '\x7d' (rest.length + 1) 0 [] rest
    (readBraces quoted inside, rest)
  | c :: rest =>
    if c.isAlpha || c == '_' then
      let name := text.takeWhile isNameChar
      (.parameter (String.ofList name) .value "" quoted, text.drop name.length)
    else if c.isDigit || "@*#?$!-".toList.contains c then
      (.parameter (String.singleton c) .value "" quoted, rest)
    else (.text "$" quoted, text)
  | [] => (.text "$" quoted, [])

/-- What stands between grave accents, and the rest. -/
def takeGrave : List Char → List Char × List Char
  | '\\' :: c :: rest =>
    let (inside, behind) := takeGrave rest
    let isEscaped := c = grave || c = '\\' || c = '$'
    (if isEscaped then (c :: inside, behind) else ('\\' :: c :: inside, behind))
  | c :: rest =>
    if c = grave then ([], rest)
    else
      let (inside, behind) := takeGrave rest
      (c :: inside, behind)
  | [] => ([], [])

/-- Adds a character to a word whose parts are in reverse order. -/
def addChar (parts : List WordPart) (quoted : Bool) (c : Char) : List WordPart :=
  match parts with
  | .text s q :: rest =>
    if q = quoted then .text (s.push c) q :: rest else .text (String.singleton c) quoted :: parts
  | parts => .text (String.singleton c) quoted :: parts

/-- Whether a character ends a word. -/
def endsWord (c : Char) : Bool := " \t\n;&|<>()".toList.contains c

/-- Where a reader of a word is. A text that is given as input has no quotes. -/
inductive WordState
  | plain
  | quotes
  | given
  deriving DecidableEq, Repr

/-- Reads a word; its parts are collected in reverse. There is none if a quote is not closed. -/
def readWord : Nat → WordState → Bool → List WordPart → List Char → Option (Word × List Char)
  | 0, _, quoted, parts, rest => some (⟨parts.reverse, quoted⟩, rest)
  | _ + 1, .quotes, _, _, [] => none
  | _ + 1, _, quoted, parts, [] => some (⟨parts.reverse, quoted⟩, [])
  | fuel + 1, .plain, quoted, parts, c :: rest =>
    if endsWord c then some (⟨parts.reverse, quoted⟩, c :: rest)
    else if c = '"' then readWord fuel .quotes true parts rest
    else if c = '\'' then
      let inside := rest.takeWhile (· != '\'')
      if inside.length < rest.length then
        readWord fuel .plain true (inside.foldl (addChar · true ·) parts)
          (rest.drop (inside.length + 1))
      else none
    else if c = '$' then
      let (part, rest) := readDollar false rest
      readWord fuel .plain quoted (part :: parts) rest
    else if c = grave then
      let (inside, rest) := takeGrave rest
      readWord fuel .plain quoted (.output (String.ofList inside) false :: parts) rest
    else if c = '\\' then
      match rest with
      | '\n' :: rest => readWord fuel .plain quoted parts rest
      | d :: rest => readWord fuel .plain true (addChar parts true d) rest
      | [] => some (⟨parts.reverse, quoted⟩, [])
    else readWord fuel .plain quoted (addChar parts false c) rest
  | fuel + 1, state, quoted, parts, c :: rest =>
    if c = '"' && state = .quotes then readWord fuel .plain quoted parts rest
    else if c = '$' then
      let (part, rest) := readDollar true rest
      readWord fuel state quoted (part :: parts) rest
    else if c = grave then
      let (inside, rest) := takeGrave rest
      readWord fuel state quoted (.output (String.ofList inside) true :: parts) rest
    else if c = '\\' then
      match rest with
      | '\n' :: rest => readWord fuel state quoted parts rest
      | d :: rest =>
        let escaped := d = '$' || d = '\\' || d = grave || (d = '"' && state = .quotes)
        let parts := if escaped then parts else addChar parts true '\\'
        readWord fuel state quoted (addChar parts true d) rest
      | [] => readWord fuel state quoted (addChar parts true '\\') []
    else readWord fuel state quoted (addChar parts true c) rest

/-- The word of a text that is not split. -/
def wholeWord (text : String) : Word :=
  match readWord (2 * text.length + 2) .given true [] text.toList with
  | some (word, _) => word
  | none => ⟨[.text text true], true⟩

/-- The operators, the longer ones first. -/
def operators : List String := ["&&", "||", ";;", ";", "&", "|", "(", ")"]

/-- The redirections with the input or output they are for by default, the longer ones first. -/
def redirections : List (String × Nat × RedirectKind) :=
  [(">>", 1, .append), (">&", 1, .duplicate), (">|", 1, .replace), (">", 1, .replace),
    ("<&", 0, .duplicate), ("<", 0, .read)]

/-- The plain text of a word. -/
def wordText (w : Word) : String :=
  String.join (w.parts.map fun | .text s _ => s | _ => "")

/-- Splits the lines up to one with a mark from the lines behind it. -/
def splitGiven (mark : String) (tabs : Bool) : List String → List String × List String
  | [] => ([], [])
  | line :: rest =>
    let line := if tabs then String.ofList (line.toList.dropWhile (· == '\t')) else line
    if line = mark then ([], rest)
    else
      let (given, behind) := splitGiven mark tabs rest
      (line :: given, behind)

/-- The input that is given below the current line, and the text with empty lines in its place. -/
def readGiven (tabs : Bool) (text : List Char) : Option (Word × List Char) := do
  let (mark, rest) ← readWord (text.length + 1) .plain false [] (text.dropWhile (· == ' '))
  let current := rest.takeWhile (· != '\n')
  let below := ((String.ofList (rest.drop (current.length + 1))).splitOn "\n")
  let (given, behind) := splitGiven (wordText mark) tabs below
  let content := String.join (given.map (· ++ "\n"))
  let word := if mark.quoted then ⟨[.text content true], true⟩ else wholeWord content
  let gap := List.replicate (given.length + 2) '\n'
  pure (word, current ++ gap ++ ("\n".intercalate behind).toList)

/-- The token for a text in which a quote is not closed. -/
def Token.unterminated (text : List Char) : Token :=
  .broken (text.filter (· == '\n')).length "Unterminated quoted string"

/-- The tokens of a text. -/
def tokens : Nat → List Char → List Token
  | 0, _ => []
  | _ + 1, [] => []
  | fuel + 1, c :: rest =>
    let text := c :: rest
    if c = ' ' ∨ c = '\t' then tokens fuel rest
    else if c = '\n' then .newline :: tokens fuel rest
    else if c = '\\' ∧ rest.head? = some '\n' then tokens fuel (rest.drop 1)
    else if c = '#' then tokens fuel (rest.dropWhile (· != '\n'))
    else
      match operators.find? fun o => o.toList.isPrefixOf text with
      | some o => .operator o :: tokens fuel (text.drop o.length)
      | none =>
        let (fd, behind) := if c.isDigit ∧ (rest.head? = some '>' ∨ rest.head? = some '<') then
            (some (c.toNat - '0'.toNat), rest) else (none, text)
        if ['<', '<'].isPrefixOf behind then
          let tabs := behind[2]? = some '-'
          match readGiven tabs (behind.drop (if tabs then 3 else 2)) with
          | some (word, rest) =>
            .redirect (fd.getD 0) .given :: .word word :: tokens fuel rest
          | none => [.unterminated text]
        else
          match redirections.find? fun (o, _, _) => o.toList.isPrefixOf behind with
          | some (o, default, kind) =>
            .redirect (fd.getD default) kind :: tokens fuel (behind.drop o.length)
          | none =>
            match readWord (text.length + 1) .plain false [] text with
            | some (word, rest) => .word word :: tokens fuel rest
            | none => [.unterminated text]

/-- The text of a word that is nothing but an unquoted text. -/
def Token.plain? : Token → Option String
  | .word ⟨[.text s false], false⟩ => some s
  | _ => none

end BenchQueue.Machine.Script
