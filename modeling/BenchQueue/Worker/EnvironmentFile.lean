import BenchQueue.Text.Word
import BenchQueue.Worker.Settings
/-!
# Environment files

A file may set variables that the environment does not have: lines of the form `NAME=value`, where a
value may be quoted, may hold escaped characters and may refer to variables. Reading stops at the
first line that is not well-formed; what stands before it counts.
-/

namespace BenchQueue.Worker.EnvironmentFile

/-- Where a reader is that looks for the end of a line. -/
inductive LineState
  | complete
  | blank
  | escape
  | weak
  | weakEscape
  | strong
  | strongEscape
  | comment
  deriving DecidableEq, Repr

namespace LineState

/-- The state after a character outside of quotes. -/
def afterPlain : Char → LineState
  | '\\' => .escape
  | '"' => .weak
  | '\'' => .strong
  | _ => .complete

/-- The state after a character. -/
def step (s : LineState) (c : Char) : LineState :=
  match s with
  | .complete => if Text.isBlank c && c != '\n' && c != '\r' then .blank else afterPlain c
  | .blank => if c = '#' then .comment else afterPlain c
  | .escape => .complete
  | .weak => if c = '\\' then .weakEscape else if c = '"' then .complete else .weak
  | .weakEscape => .weak
  | .strong => if c = '\\' then .strongEscape else if c = '\'' then .complete else .strong
  | .strongEscape => .strong
  | .comment => .comment

/-- The state at the end of a line, and the part of the line in front of a comment. -/
def scan (s : LineState) : List Char → LineState × List Char
  | [] => (s, [])
  | c :: rest =>
    match s.step c with
    | .comment => (.comment, [])
    | next =>
      let (last, kept) := next.scan rest
      (last, c :: kept)

end LineState

/-- A line that may go over several lines of the file, and the lines behind it; a line that does not
end is not well-formed. -/
inductive NextLine
  | line (text : List Char) (rest : List (List Char))
  | malformed
  | none_

/-- A line without its end. -/
def dropLineEnd (line : List Char) : List Char :=
  match line.reverse with
  | '\n' :: '\r' :: rest => rest.reverse
  | '\n' :: rest => rest.reverse
  | _ => line

/-- Reads a line that has begun with some characters. -/
def nextLine (begun : List Char) (s : LineState) : List (List Char) → NextLine
  | [] => if s = .complete then .none_ else .malformed
  | line :: rest =>
    let all := begun ++ line
    if (all.dropWhile Text.isBlank).head? = some '#' then .line [] rest
    else
      match s.scan line with
      | (.complete, _) => .line (dropLineEnd all) rest
      | (.comment, kept) => .line (begun ++ kept) rest
      | (next, _) => nextLine all next rest

/-- A line that may span several ones of the file takes at least one of them. -/
theorem length_lt_of_nextLine {begun : List Char} {s : LineState} {lines : List (List Char)}
    {text : List Char} {rest : List (List Char)} (h : nextLine begun s lines = .line text rest) :
    rest.length < lines.length := by
  induction lines generalizing begun s with
  | nil => simp only [nextLine] at h; split at h <;> simp at h
  | cons line more ih =>
    simp only [nextLine] at h
    split at h
    · cases h; simp
    · split at h
      · cases h; simp
      · cases h; simp
      · exact Nat.lt_succ_of_lt (ih h)

/-- A reader of a value. -/
inductive ValueState
  | plain
  | weak
  | strong
  | escape (weak : Bool)
  | reference (weak : Bool) (name : List Char)
  | braced (weak : Bool) (name : List Char)
  | behind
  deriving DecidableEq, Repr

/-- The state of a reader that is inside weak quotes or outside of quotes. -/
def ValueState.inside (weak : Bool) : ValueState := if weak then .weak else .plain

/-- The character that an escaped one stands for. -/
def unescape? : Char → Option Char
  | '\\' => some '\\'
  | '\'' => some '\''
  | '"' => some '"'
  | '$' => some '$'
  | ' ' => some ' '
  | 'n' => some '\n'
  | _ => none

/-- The value of a variable, or nothing at all. -/
def valueOf (env : Environment) (name : List Char) : List Char :=
  ((env (String.ofList name)).getD "").toList

/-- Reads a value, a reference being replaced by the value of its variable. -/
def readValue (env : Environment) : ValueState → List Char → Option (List Char)
  | .plain, [] | .behind, [] | .escape false, [] => some []
  | .reference false name, [] => some (valueOf env name)
  | .weak, [] | .strong, [] | .escape true, [] | .reference true _, [] | .braced _ _, [] => none
  | .behind, c :: rest =>
    if c = ' ' || c = '\t' then readValue env .behind rest
    else if c = '#' then some []
    else none
  | .escape weak, c :: rest => do
    let c ← unescape? c
    return c :: (← readValue env (.inside weak) rest)
  | .strong, c :: rest =>
    if c = '\'' then readValue env .plain rest
    else return c :: (← readValue env .strong rest)
  | .reference weak name, c :: rest =>
    if Text.isWordCharacter c then readValue env (.reference weak (name ++ [c])) rest
    else if c = '\x7b' && name.isEmpty then readValue env (.braced weak []) rest
    else if c = '$' then return valueOf env name ++ (← readValue env (.reference weak []) rest)
    else return valueOf env name ++ c :: (← readValue env (.inside weak) rest)
  | .braced weak name, c :: rest =>
    if c = '\x7d' then return valueOf env name ++ (← readValue env (.inside weak) rest)
    else readValue env (.braced weak (name ++ [c])) rest
  | .weak, c :: rest =>
    if c = '$' then readValue env (.reference true []) rest
    else if c = '"' then readValue env .plain rest
    else if c = '\\' then readValue env (.escape true) rest
    else return c :: (← readValue env .weak rest)
  | .plain, c :: rest =>
    if c = '$' then readValue env (.reference false []) rest
    else if c = '\'' then readValue env .strong rest
    else if c = '"' then readValue env .weak rest
    else if c = '\\' then readValue env (.escape false) rest
    else if c = ' ' || c = '\t' then readValue env .behind rest
    else return c :: (← readValue env .plain rest)

/-- A name at the start of a text, and the text behind it. -/
def readName? (text : List Char) : Option (List Char × List Char) :=
  match text with
  | [] => none
  | c :: _ =>
    if c.isAlpha || c = '_' then
      let name := text.takeWhile fun c => c.isAlphanum || c = '_' || c = '.'
      some (name, text.drop name.length)
    else none

/-- The text behind an equals sign. -/
def behindEquals? : List Char → Option (List Char)
  | '=' :: rest => some rest
  | _ => none

/-- What a line says: nothing, or the name and the value of a variable. -/
inductive Assignment
  | nothing
  | assign (name value : String)
  deriving DecidableEq, Repr

/-- Reads the value behind a name and an equals sign. -/
def readAssignment (env : Environment) (name text : List Char) : Option Assignment :=
  let text := text.dropWhile Text.isBlank
  if text.isEmpty || text.head? = some '#' then some (.assign (String.ofList name) "")
  else (readValue env .plain text).map fun value =>
    .assign (String.ofList name) (String.ofList value)

/-- Reads a line. The word `export` in front of a name says nothing. -/
def readLine (env : Environment) (line : List Char) : Option Assignment := do
  let text := (line.reverse.dropWhile Text.isBlank).reverse.dropWhile Text.isBlank
  if text.isEmpty || text.head? = some '#' then return .nothing
  let (name, rest) ← readName? text
  let rest := rest.dropWhile Text.isBlank
  match behindEquals? rest with
  | some value => readAssignment env name value
  | none =>
    if name = "export".toList then
      let (name, rest) ← readName? rest
      let value ← behindEquals? (rest.dropWhile Text.isBlank)
      readAssignment env name value
    else none

/-- An environment with one more variable, unless it has that variable. -/
def withVariable (env : Environment) (name value : String) : Environment := fun other =>
  match env other with
  | some present => some present
  | none => if other = name then some value else none

/-- An environment with the variables that lines set. -/
def readLines (env : Environment) (lines : List (List Char)) : Environment :=
  match _h : nextLine [] .complete lines with
  | .none_ | .malformed => env
  | .line text rest =>
    match readLine env text with
    | none => env
    | some .nothing => readLines env rest
    | some (.assign name value) => readLines (withVariable env name value) rest
termination_by lines.length
decreasing_by
  · exact length_lt_of_nextLine _h
  · exact length_lt_of_nextLine _h

/-- The lines of a text with their ends. -/
def splitLines (text : String) : List (List Char) :=
  match (text.splitOn "\n").reverse with
  | [] => []
  | last :: before =>
    before.reverse.map (fun line => line.toList ++ ['\n']) ++
      (if last = "" then [] else [last.toList])

/-- An environment with the variables that the text of a file sets. -/
def read (env : Environment) (text : String) : Environment :=
  let text := if text.startsWith "\ufeff" then (text.drop 1).toString else text
  readLines env (splitLines text)

end BenchQueue.Worker.EnvironmentFile
