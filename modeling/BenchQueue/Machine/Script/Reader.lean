import BenchQueue.Machine.Script.Token
/-!
# Reading shell scripts

A script is read line by line: what stands in front of a line that is no script still runs. A line
goes on over several lines of the text where a command in it does.
-/

namespace BenchQueue.Machine.Script

/-- Where a reader is: the line, and the tokens that are left. -/
structure Rest where
  line : Nat
  tokens : List Token

/-- Why a text is no script, and in which line that shows. -/
structure Problem where
  line : Nat
  message : String

/-- A reader of a part of a script. -/
abbrev Reader (α : Type) := StateT Rest (Except Problem) α

namespace Reader

/-- The token that comes next. -/
def peek : Reader (Option Token) := return (← get).tokens.head?

/-- Goes on to the next token. -/
def skip : Reader Unit := modify fun r =>
  { line := if r.tokens.head? = some .newline then r.line + 1 else r.line
    tokens := r.tokens.drop 1 }

/-- The place behind the line ends that come first. -/
def withoutSeparators (line : Nat) : List Token → Rest
  | .newline :: rest => withoutSeparators (line + 1) rest
  | tokens => ⟨line, tokens⟩

/-- Skips line ends. -/
def skipNewlines : Reader Unit := modify fun r => withoutSeparators r.line r.tokens

/-- The words that close a list of commands they stand in. -/
def closing : List String := ["done", "do", "then", "else", "elif", "fi", "esac", "\x7d"]

/-- What a token is called where it must not stand. -/
def describe : Option Token → String
  | none => "end of file unexpected"
  | some .newline => "newline unexpected"
  | some (.operator s) => "\"" ++ s ++ "\" unexpected"
  | some (.redirect _ _) => "redirection unexpected"
  | some (.broken _ message) => message
  | some t =>
    match t.plain? with
    | some word =>
      if closing.contains word then "\"" ++ word ++ "\" unexpected" else "word unexpected"
    | none => "word unexpected"

/-- Refuses the token that comes next; another one may be expected in its place. -/
def refuse {α : Type} (expected : Option String) : Reader α := do
  let found ← peek
  let line := (← get).line
  match found, expected with
  | some (.broken lines message), _ => throw ⟨line + lines, message⟩
  | _, none => throw ⟨line, describe found⟩
  | _, some word => throw ⟨line, describe found ++ " (expecting \"" ++ word ++ "\")"⟩

/-- Whether a word comes next. -/
def sees (word : String) : Reader Bool :=
  return (← peek).any fun t => t.plain? = some word

/-- Whether an operator comes next. -/
def seesOperator (s : String) : Reader Bool := return (← peek) = some (.operator s)

/-- Goes behind a word that must come next. -/
def expect (word : String) : Reader Unit := do
  if ← sees word then skip else refuse (some word)

/-- Goes behind an operator that must come next. -/
def expectOperator (s : String) : Reader Unit := do
  if ← seesOperator s then skip else refuse (some s)

/-- Whether a list of commands ends here. -/
def closes : Reader Bool := do
  match ← peek with
  | none => pure true
  | some (.operator ")") | some (.operator ";;") => pure true
  | some t => pure (t.plain?.any closing.contains)

/-- The redirections at the start of some tokens. -/
def takeRedirects (found : List Redirect) : List Token → List Redirect × List Token
  | .redirect fd kind :: .word w :: rest => takeRedirects (found ++ [⟨fd, kind, w⟩]) rest
  | tokens => (found, tokens)

/-- Reads redirections. -/
def redirects : Reader (List Redirect) := do
  let r ← get
  let (found, tokens) := takeRedirects [] r.tokens
  set { r with tokens }
  pure found

/-- The words and redirections at the start of some tokens. -/
def takeSimple (words : List Word) (redirects : List Redirect) :
    List Token → (List Word × List Redirect) × List Token
  | .word w :: rest => takeSimple (words ++ [w]) redirects rest
  | .redirect fd kind :: .word w :: rest => takeSimple words (redirects ++ [⟨fd, kind, w⟩]) rest
  | tokens => ((words, redirects), tokens)

/-- Reads a simple command. -/
def simple : Reader Script := do
  let r ← get
  let ((words, redirects), tokens) := takeSimple [] [] r.tokens
  if words.isEmpty && redirects.isEmpty then refuse none
  else
    set { r with tokens }
    match tokens.head? with
    | some (.redirect _ _) => skip; refuse none
    | some (.operator "(") => skip; refuse (some ")")
    | _ => pure (.simple r.line words redirects)

/-- The words at the start of some tokens. -/
def takeWords (words : List Word) : List Token → List Word × List Token
  | .word w :: rest => takeWords (words ++ [w]) rest
  | tokens => (words, tokens)

/-- Reads words. -/
def words : Reader (List Word) := do
  let r ← get
  let (found, tokens) := takeWords [] r.tokens
  set { r with tokens }
  pure found

/-- The words with bars between them at the start of some tokens. -/
def takePatterns (found : List Word) : List Token → List Word × List Token
  | .word w :: .operator "|" :: rest => takePatterns (found ++ [w]) rest
  | .word w :: rest => (found ++ [w], rest)
  | tokens => (found, tokens)

/-- Reads the patterns of a branch. -/
def patterns : Reader (List Word) := do
  if ← seesOperator "(" then skip
  let r ← get
  let (found, tokens) := takePatterns [] r.tokens
  set { r with tokens }
  expectOperator ")"
  pure found

/-- The name of a function that is defined here. -/
def functionName : Reader (Option String) := do
  match (← get).tokens with
  | t :: .operator "(" :: .operator ")" :: _ => pure (t.plain?.filter isName)
  | _ => pure none

/-- Reads what stands behind a command. -/
def separated (command : Script) : Reader Script := do
  match ← peek with
  | some (.operator "&") => skip; pure (.background command)
  | some (.operator ";") => skip; pure command
  | some .newline => pure command
  | _ => if ← closes then pure command else refuse none

mutual

/-- Reads a list of commands up to a word that closes it. -/
def list : Nat → Script → Reader Script
  | 0, script => pure script
  | fuel + 1, script => do
    skipNewlines
    if ← closes then pure script
    else
      let command ← chain fuel
      let command ← separated command
      list fuel (.both script command)

/-- Reads a list of at least one command. -/
def body : Nat → Reader Script
  | 0 => pure .nothing
  | fuel + 1 => do
    skipNewlines
    if ← closes then refuse none else list fuel .nothing

/-- Reads commands that depend on the success or failure of those before them. -/
def chain : Nat → Reader Script
  | 0 => pure .nothing
  | fuel + 1 => do
    let first ← pipeline fuel
    continueChain fuel first

/-- Reads the commands behind the first one. -/
def continueChain : Nat → Script → Reader Script
  | 0, first => pure first
  | fuel + 1, first => do
    match ← peek with
    | some (.operator "&&") =>
      skip; skipNewlines
      let second ← pipeline fuel
      continueChain fuel (.onSuccess first second)
    | some (.operator "||") =>
      skip; skipNewlines
      let second ← pipeline fuel
      continueChain fuel (.onFailure first second)
    | _ => pure first

/-- Reads a pipeline. -/
def pipeline : Nat → Reader Script
  | 0 => pure .nothing
  | fuel + 1 => do
    if ← sees "!" then
      skip
      return .negated (← pipeline fuel)
    let first ← command fuel
    if ← seesOperator "|" then
      skip; skipNewlines
      return .pipe first (← pipeline fuel)
    pure first

/-- Reads one command. -/
def command : Nat → Reader Script
  | 0 => pure .nothing
  | fuel + 1 => do
    match ← functionName with
    | some name =>
      skip; skip; skip; skipNewlines
      return .define name (← command fuel)
    | none =>
      match ← compound fuel with
      | none => if ← closes then refuse none else simple
      | some script =>
        match ← redirects with
        | [] => pure script
        | found => pure (.redirected script found)

/-- Reads a command that holds other commands, if one comes next. -/
def compound : Nat → Reader (Option Script)
  | 0 => pure none
  | fuel + 1 => do
    if ← seesOperator "(" then
      skip
      let inside ← body fuel
      expectOperator ")"
      return some (.subshell inside)
    match (← peek).bind Token.plain? with
    | some "for" => skip; some <$> forLoop fuel
    | some "if" => skip; some <$> conditional fuel
    | some "while" => skip; some <$> loop fuel false
    | some "until" => skip; some <$> loop fuel true
    | some "case" =>
      skip
      match ← peek with
      | some (.word subject) =>
        skip; skipNewlines
        expect "in"
        some <$> branches fuel subject
      | _ => refuse none
    | some "\x7b" =>
      skip
      let inside ← body fuel
      expect "\x7d"
      pure (some inside)
    | _ => pure none

/-- Reads a loop over words behind its first word. -/
def forLoop : Nat → Reader Script
  | 0 => pure .nothing
  | fuel + 1 => do
    let name := ((← peek).bind Token.plain?).getD ""
    if !isName name then throw ⟨(← get).line, "Bad for loop variable"⟩
    skip; skipNewlines
    let values ← if ← sees "in" then do skip; words
      else pure [⟨[.parameter "@" .value "" true], true⟩]
    if ← seesOperator ";" then skip
    skipNewlines
    expect "do"
    let inside ← body fuel
    expect "done"
    pure (.forIn name values inside)

/-- Reads a conditional behind its first word. -/
def conditional : Nat → Reader Script
  | 0 => pure .nothing
  | fuel + 1 => do
    let test ← body fuel
    expect "then"
    let onTrue ← body fuel
    if ← sees "elif" then
      skip
      return .conditional test onTrue (← conditional fuel)
    let onFalse ← if ← sees "else" then do skip; body fuel else pure .nothing
    expect "fi"
    pure (.conditional test onTrue onFalse)

/-- Reads a loop with a condition behind its first word. -/
def loop : Nat → Bool → Reader Script
  | 0, _ => pure .nothing
  | fuel + 1, untilTrue => do
    let test ← body fuel
    expect "do"
    let inside ← body fuel
    expect "done"
    pure (.loop untilTrue test inside)

/-- Reads the branches of a choice. -/
def branches : Nat → Word → Reader Script
  | 0, _ => pure .nothing
  | fuel + 1, subject => do
    skipNewlines
    if ← sees "esac" then
      skip
      return .nothing
    let found ← patterns
    let inside ← list fuel .nothing
    if ← seesOperator ";;" then
      skip
      return .choice subject found inside (← branches fuel subject)
    expect "esac"
    pure (.choice subject found inside .nothing)

end

/-- Reads the commands of one line. -/
def line : Nat → Script → Reader Script
  | 0, script => pure script
  | fuel + 1, script => do
    match ← peek with
    | none | some .newline => pure script
    | _ =>
      let command ← chain (8 * fuel + 8)
      match ← peek with
      | some (.operator ")") | some (.operator ";;") => refuse none
      | _ =>
        let command ← separated command
        if ← (return (← peek).isSome && (← closes)) then refuse none
        else line fuel (.both script command)

end Reader

/-- Reads the lines of a script; nothing is read behind a line that is no script. -/
def readLines : Nat → Script → Rest → Script
  | 0, script, _ => script
  | fuel + 1, script, rest =>
    let rest := Reader.withoutSeparators rest.line rest.tokens
    if rest.tokens.isEmpty then script
    else
      match (Reader.line (rest.tokens.length + 1) .nothing).run rest with
      | .error problem =>
        .both script (.broken problem.line ("Syntax error: " ++ problem.message))
      | .ok (line, next) =>
        if next.tokens.length < rest.tokens.length then readLines fuel (.both script line) next
        else script

/-- Reads a script. -/
def parse (text : String) : Script :=
  let found := tokens (text.length + 1) text.toList
  readLines (found.length + 1) .nothing ⟨1, found⟩

end BenchQueue.Machine.Script
