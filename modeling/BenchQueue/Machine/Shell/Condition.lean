import BenchQueue.Machine.Files
/-!
# Conditions of shell scripts

The conditions between brackets: on files, texts and numbers, with negation, conjunction,
disjunction and brackets. What is no condition is an error.
-/

namespace BenchQueue.Machine.Condition

/-- What a condition says about a file or a text. -/
def unary? (files : Files) (cwd : Path) (o a : String) : Option Bool :=
  match o with
  | "-n" => some (a ≠ "")
  | "-z" => some (a = "")
  | "-e" | "-r" | "-w" => some (files.lookup cwd a).isOk
  | "-f" => some (files.read cwd a).isOk
  | "-d" => some (files.isDirectory cwd a)
  | "-s" => some <| match files.read cwd a with
    | .ok content => 0 < content.size
    | .error _ => false
  | "-x" => some <| match files.lookup cwd a with
    | .ok (.file _ executable) => executable
    | .ok .directory => true
    | .error _ => false
  | "-L" | "-h" | "-p" | "-S" | "-b" | "-c" | "-t" => some false
  | _ => none

/-- The number that a text spells. -/
def number (text : String) : Except String Int :=
  match text.trimAscii.toString.toInt? with
  | some n => .ok n
  | none => .error ("Illegal number: " ++ text)

/-- The comparisons of numbers. -/
def comparison? (o : String) : Option (Int → Int → Bool) :=
  match o with
  | "-eq" => some fun a b => a = b
  | "-ne" => some fun a b => a ≠ b
  | "-lt" => some fun a b => a < b
  | "-le" => some fun a b => a ≤ b
  | "-gt" => some fun a b => b < a
  | "-ge" => some fun a b => b ≤ a
  | _ => none

/-- What a condition says about two texts or numbers; nothing if the operator is none. -/
def binary? (a o b : String) : Option (Except String Bool) :=
  match o with
  | "=" | "==" => some (.ok (a = b))
  | "!=" => some (.ok (a ≠ b))
  | "<" => some (.ok (a < b))
  | ">" => some (.ok (b < a))
  | o => (comparison? o).map fun compare => do
    let a ← number a
    let b ← number b
    pure (compare a b)

/-- The text about a word that should be an operator. -/
def unexpected {α : Type} (word : String) : Except String α :=
  .error (word ++ ": unexpected operator")

mutual

/-- A disjunction at the start of some words, and the words behind it. -/
def disjunction : Nat → Files → Path → List String → Except String (Bool × List String)
  | 0, _, _, _ => .error "too many arguments"
  | fuel + 1, files, cwd, words => do
    let (a, rest) ← conjunction fuel files cwd words
    match rest with
    | "-o" :: rest =>
      let (b, rest) ← disjunction fuel files cwd rest
      pure (a || b, rest)
    | rest => pure (a, rest)

/-- A conjunction at the start of some words. -/
def conjunction : Nat → Files → Path → List String → Except String (Bool × List String)
  | 0, _, _, _ => .error "too many arguments"
  | fuel + 1, files, cwd, words => do
    let (a, rest) ← primary fuel files cwd words
    match rest with
    | "-a" :: rest =>
      let (b, rest) ← conjunction fuel files cwd rest
      pure (a && b, rest)
    | rest => pure (a, rest)

/-- A condition that is not made of two others at the start of some words. -/
def primary : Nat → Files → Path → List String → Except String (Bool × List String)
  | 0, _, _, _ => .error "too many arguments"
  | fuel + 1, files, cwd, words =>
    match words with
    | [] => .error "argument expected"
    | a :: o :: b :: rest =>
      match binary? a o b with
      | some result => do pure (← result, rest)
      | none =>
        if a = "!" then do
          let (x, rest) ← primary fuel files cwd (o :: b :: rest)
          pure (!x, rest)
        else if a = "(" then bracket fuel files cwd (o :: b :: rest)
        else single files cwd a (o :: b :: rest)
    | "!" :: rest => do
      if rest.isEmpty then pure (true, [])
      else
        let (x, rest) ← primary fuel files cwd rest
        pure (!x, rest)
    | a :: rest => single files cwd a rest

/-- A condition between brackets, behind the first one. -/
def bracket : Nat → Files → Path → List String → Except String (Bool × List String)
  | 0, _, _, _ => .error "too many arguments"
  | fuel + 1, files, cwd, words => do
    let (x, rest) ← disjunction fuel files cwd words
    match rest with
    | ")" :: rest => pure (x, rest)
    | _ => .error "closing paren expected"

/-- A condition on one word, or the word itself. -/
def single (files : Files) (cwd : Path) (a : String) (rest : List String) :
    Except String (Bool × List String) :=
  match rest with
  | b :: behind =>
    match unary? files cwd a b with
    | some result => .ok (result, behind)
    | none => .ok (a ≠ "", rest)
  | [] => .ok (a ≠ "", [])

end

/-- Whether a condition holds. -/
def holds (files : Files) (cwd : Path) (words : List String) : Except String Bool :=
  match words with
  | [] => .ok false
  | [a] => .ok (a ≠ "")
  | words => do
    let (result, rest) ← disjunction (4 * words.length + 4) files cwd words
    match rest with
    | [] => pure result
    | _ => unexpected (words.headD "")

end BenchQueue.Machine.Condition
