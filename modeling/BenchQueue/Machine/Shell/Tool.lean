import BenchQueue.Machine.Pattern
import BenchQueue.Machine.Shell
import BenchQueue.Machine.Shell.Condition
import BenchQueue.Machine.Shell.Format
/-!
# Tools of a machine

The small programs that scripts call. A tool reads the input of the shell, writes to its outputs and
leaves a status.
-/

namespace BenchQueue.Machine.Tool

open Shell

/-- A duration in seconds with a fraction and an optional unit. -/
def durationOf? (text : String) : Option Duration :=
  let (digits, unit) := match text.toList.reverse with
    | 's' :: rest => (rest.reverse, 1)
    | 'm' :: rest => (rest.reverse, 60)
    | 'h' :: rest => (rest.reverse, 3600)
    | 'd' :: rest => (rest.reverse, 86400)
    | _ => (text.toList, 1)
  let whole := digits.takeWhile (· != '.')
  let fraction := (digits.drop (whole.length + 1)).take 9
  if (whole ++ fraction).all Char.isDigit && !(whole ++ fraction).isEmpty then
    Duration.ofNanos? <| unit *
      (digitsValue whole * nanosPerSecond + digitsValue fraction * Nat.pow 10 (9 - fraction.length))
  else none

/-- The statuses with which the tools end that refuse an option that they do not know. -/
def refusals : Members Nat :=
  [("awk", 2), ("basename", 1), ("cat", 1), ("chmod", 1), ("cp", 1), ("cut", 1), ("date", 1),
    ("dd", 1), ("df", 1), ("dirname", 1), ("du", 1), ("env", 125), ("find", 1), ("head", 1),
    ("id", 1), ("ln", 1), ("ls", 2), ("mkdir", 1), ("mv", 1), ("nice", 125), ("nohup", 125),
    ("nproc", 1), ("od", 1), ("printenv", 2), ("pwd", 1), ("readlink", 1), ("realpath", 1),
    ("rm", 1),
    ("rmdir", 1), ("sed", 1), ("seq", 1), ("sleep", 1), ("sort", 2), ("stat", 1), ("sync", 1),
    ("tac", 1), ("tail", 1), ("tee", 1), ("timeout", 125), ("touch", 1), ("tr", 1), ("uname", 1),
    ("uniq", 1), ("wc", 1), ("whoami", 1), ("xargs", 1), ("yes", 1)]

/-- The first long option; the tools know none. -/
def longOption? (arguments : List String) : Option String :=
  (arguments.takeWhile (· ≠ "--")).find? fun a => a.startsWith "--"

/-- What is written about an option that a tool does not know. -/
def refusal (name option : String) : String :=
  name ++ ": unrecognized option '" ++ option ++ "'\nTry '" ++ name ++
    " --help' for more information.\n"

/-- The arguments that are not options. -/
def plainNames (arguments : List String) : List String :=
  arguments.filter fun a => a = "-" || !a.startsWith "-"

/-- Whether one of the options holds a letter. -/
def hasFlag (arguments : List String) (flag : Char) : Bool :=
  arguments.any fun a => a.startsWith "-" && !a.startsWith "--" && a.contains flag

/-- The lines of a text. -/
def linesOf (text : String) : List String :=
  let lines := text.splitOn "\n"
  if lines.getLast? = some "" then lines.dropLast else lines

/-- Text with a line end behind every line. -/
def unlines (lines : List String) : String := String.join (lines.map (· ++ "\n"))

/-- Shows a named file; a file that cannot be read is complained about. -/
def onFile (sh : Shell) (tool : String) (status : Nat)
    (shown : (name : Option String) → (text : String) → String) (name : String) :
    Program Shell := do
  let host ← askMachine .look
  match if name = "-" then .ok sh.input.toUTF8 else host.files.read sh.cwd name with
  | .ok content => sh.print (shown (some name) ((String.fromUTF8? content).getD ""))
  | .error fault =>
    (sh.leave status).complain (tool ++ ": " ++ name ++ ": " ++ fault.reason ++ "\n")

/-- The shell with all its input used up. -/
def withoutInput (sh : Shell) : Shell := { sh with input := "" }

/-- Shows named files, or the input if none is named. -/
def onFiles (sh : Shell) (tool : String) (status : Nat) (names : List String)
    (shown : (name : Option String) → (text : String) → String) : Program Shell :=
  if names.isEmpty then (withoutInput (sh.leave 0)).print (shown none sh.input)
  else names.foldlM (onFile · tool status shown ·) (sh.leave 0)

/-- The number that an option asks for by its letter, and the arguments without that option. -/
def numberOption (letter : String) (default : Nat) (arguments : List String) : Nat × List String :=
  match arguments with
  | [] => (default, [])
  | a :: rest =>
    if a = letter then ((rest.head?.bind String.toNat?).getD default, rest.drop 1)
    else if a.startsWith letter then ((a.drop letter.length).toString.toNat?.getD default, rest)
    else
      let (n, others) := numberOption letter default rest
      (n, a :: others)

/-- The number of lines that arguments ask for, and the names. -/
def lineOption (arguments : List String) : Nat × List String :=
  match arguments.find? fun a => a.startsWith "-" && ((a.drop 1).toString.toNat?).isSome with
  | some a => (((a.drop 1).toString.toNat?).getD 10, arguments.filter (· ≠ a))
  | none => numberOption "-n" 10 arguments

/-- The first or the last lines or characters of files. -/
def partOf (sh : Shell) (tool : String) (fromEnd : Bool) (arguments : List String) :
    Program Shell :=
  let cut (n : Nat) (chars : List Char) : List Char :=
    if fromEnd then chars.drop (chars.length - n) else chars.take n
  if arguments.any (·.startsWith "-c") then
    let (n, names) := numberOption "-c" 0 arguments
    onFiles sh tool 1 names fun _ text => String.ofList (cut n text.toList)
  else
    let (n, names) := lineOption arguments
    onFiles sh tool 1 names fun _ text =>
      let lines := text.splitOn "\n"
      let whole := lines.dropLast.map (· ++ "\n") ++ (lines.getLast?.toList.filter (· ≠ ""))
      String.join (if fromEnd then whole.drop (whole.length - n) else whole.take n)

/-- The counts of a text that options ask for. -/
def counts (arguments : List String) (text : String) : String :=
  let lines := (text.toList.filter (· == '\n')).length
  let words := ((text.splitToList Char.isWhitespace).filter (· ≠ "")).length
  let wanted := [('l', lines), ('w', words), ('c', text.utf8ByteSize), ('m', text.length)]
  match wanted.filter fun (flag, _) => hasFlag arguments flag with
  | [] => " ".intercalate [toString lines, toString words, toString text.utf8ByteSize]
  | found => " ".intercalate (found.map fun (_, n) => toString n)

/-- Lists a directory or names a file. -/
def listName (hidden : Bool) (sh : Shell) (name : String) : Program Shell := do
  let host ← askMachine .look
  match host.files.resolve sh.cwd name, host.files.lookup sh.cwd name with
  | .ok path, .ok .directory =>
    let names := (host.files.list path).filter fun n => hidden || !n.startsWith "."
    sh.print (unlines (names.mergeSort (· ≤ ·)))
  | _, .ok _ => sh.print (name ++ "\n")
  | _, .error fault =>
    (sh.leave 2).complain ("ls: cannot access '" ++ name ++ "': " ++ fault.reason ++ "\n")

/-- Makes changes to files one after the other; a failure is complained about. -/
def changing (sh : Shell) (complaint : String) (names : List String)
    (change : String → Files → Except Fault Files) : Program Shell :=
  names.foldlM (fun sh name => do
    match ← changeFiles (change name) with
    | none => pure sh
    | some fault =>
      (sh.leave 1).complain (complaint ++ " '" ++ name ++ "': " ++ fault.reason ++ "\n"))
    (sh.leave 0)

/-- Makes a file that is not there. -/
def touched (cwd : Path) (name : String) (files : Files) : Except Fault Files :=
  match files.lookup cwd name with
  | .ok _ => pure files
  | .error _ => files.append cwd name ByteArray.empty

/-- Removes a file or, if asked to, a directory. -/
def removed (cwd : Path) (recursive forced : Bool) (name : String) (files : Files) :
    Except Fault Files := do
  match files.resolve cwd name, files.lookup cwd name with
  | .ok path, .ok (.file _ _) => pure (files.removeTree path)
  | .ok path, .ok .directory =>
    if recursive then pure (files.removeTree path) else throw .isDirectory
  | _, .error fault => if forced then pure files else throw fault
  | .error fault, _ => throw fault

/-- Removes a directory with nothing in it. -/
def removedDirectory (cwd : Path) (name : String) (files : Files) : Except Fault Files := do
  let path ← files.resolve cwd name
  match ← files.lookup cwd name with
  | .directory =>
    if (files.list path).isEmpty then pure (files.removeTree path) else throw .notEmpty
  | .file _ _ => throw .notDirectory

/-- The path at which a file arrives that is brought to a name. -/
def arrival (cwd : Path) (source target : String) (files : Files) : Except Fault Path := do
  let path ← files.resolve cwd target
  if files.isDirectory cwd target then
    pure (path ++ [((source.splitOn "/").filter (· ≠ "")).getLast?.getD ""])
  else pure path

/-- Puts a copy of a file to a name. -/
def copied (cwd : Path) (target source : String) (files : Files) : Except Fault Files := do
  let entry ← files.lookup cwd source
  let path ← arrival cwd source target files
  let _ ← files.lookup [] (Path.text path.dropLast)
  pure (files.set path entry)

/-- Moves a file to a name. -/
def moved (cwd : Path) (target source : String) (files : Files) : Except Fault Files := do
  let start ← files.resolve cwd source
  let _ ← files.lookup cwd source
  let path ← arrival cwd source target files
  let below := files.entries.filter fun (p, _) => start.isPrefixOf p
  let files := files.removeTree start
  pure (below.foldl (fun files (p, entry) => files.set (path ++ p.drop start.length) entry) files)

/-- Whether a mode lets a file be started; nothing if it says nothing about that. -/
def startable? (mode : String) : Option Bool :=
  if mode.contains '+' then if mode.contains 'x' then some true else none
  else if mode.toList.all Char.isDigit then
    some (mode.toList.any fun c => "1357".toList.contains c)
  else if mode.contains 'x' then some false
  else none

/-- Changes whether a file can be started. -/
def withMode (cwd : Path) (mode name : String) (files : Files) : Except Fault Files := do
  let path ← files.resolve cwd name
  match ← files.lookup cwd name, startable? mode with
  | .file content _, some executable => pure (files.set path (.file content executable))
  | _, _ => pure files

/-- The characters of a set that a translation names, ranges and escapes being spelled out. -/
def charactersOf (text : String) : List Char :=
  let classes : Members String :=
    [("[:upper:]", "A-Z"), ("[:lower:]", "a-z"), ("[:digit:]", "0-9"), ("[:space:]", " \t\n")]
  let text := classes.foldl (fun text (name, range) => text.replace name range) text
  let plain := (String.fromUTF8? (Format.printed (text.replace "%" "%%") [])).getD text
  (Pattern.rangesOf plain.toList).flatMap fun (a, b) =>
    (List.range (b.toNat + 1 - a.toNat)).map fun i => Char.ofNat (a.toNat + i)

/-- A text with the characters of one set in place of those of another, or without them. -/
def translated (arguments : List String) (text : String) : String :=
  let deletes := hasFlag arguments 'd'
  match (plainNames arguments).map charactersOf with
  | first :: rest =>
    let second := rest.headD []
    String.ofList (text.toList.filterMap fun c =>
      match first.idxOf? c with
      | none => some c
      | some i => if deletes then none else some (second.getD i (second.getLast?.getD c)))
  | [] => text

/-- The fields of a line that are asked for by a list of numbers and ranges. -/
def chosen (numbers : String) (fields : List String) : List String :=
  let wanted (i : Nat) : Bool := (numbers.splitOn ",").any fun part =>
    match part.splitOn "-" with
    | [n] => n.toNat? = some i
    | [a, b] => a.toNat?.getD 1 ≤ i && i ≤ b.toNat?.getD fields.length
    | _ => false
  fields.zipIdx.filterMap fun (field, i) => if wanted (i + 1) then some field else none

/-- The value of an option by its letter, which may stand in a word of its own. -/
def optionValue? (letter : String) : List String → Option String
  | [] => none
  | a :: rest =>
    if a = letter then rest.head?
    else if a.startsWith letter then some (a.drop letter.length).toString
    else optionValue? letter rest

/-- The arguments without some options and their values. -/
def withoutOptions (letters : List String) : List String → List String
  | [] => []
  | [a] => if letters.any (a.startsWith ·) then [] else [a]
  | a :: b :: rest =>
    if letters.contains a then withoutOptions letters rest
    else if letters.any (a.startsWith ·) then withoutOptions letters (b :: rest)
    else a :: withoutOptions letters (b :: rest)

/-- The parts of lines that are asked for. -/
def cutLines (arguments : List String) (text : String) : String :=
  let delimiter := (optionValue? "-d" arguments).getD "\t"
  unlines <| (linesOf text).map fun line =>
    match optionValue? "-f" arguments, optionValue? "-c" arguments with
    | some numbers, _ =>
      let fields := line.splitOn delimiter
      if fields.length = 1 then line else delimiter.intercalate (chosen numbers fields)
    | none, some numbers => String.join (chosen numbers (line.toList.map String.singleton))
    | none, none => line

/-- A line pattern as a pattern of whole lines: dots and asterisks of searches are spelled as those
of patterns. -/
def searchPattern (text : String) : Pattern :=
  let anchored := text.startsWith "^"
  let ended := text.endsWith "$" && !text.endsWith "\\$"
  let chars := if anchored then text.toList.drop 1 else text.toList
  let chars := if ended then chars.dropLast else chars
  (if anchored then [] else [.anyText]) ++ parts chars ++ (if ended then [] else [.anyText])
where
  parts : List Char → Pattern
    | [] => []
    | '.' :: '*' :: rest => .anyText :: parts rest
    | '.' :: rest => .anyChar :: parts rest
    | '\\' :: c :: rest => .char c :: parts rest
    | c :: rest => .char c :: parts rest

/-- Searches lines. -/
def search (sh : Shell) (arguments : List String) : Program Shell := do
  let options := arguments.takeWhile fun a => a.startsWith "-" && a ≠ "--"
  let behind := (arguments.drop options.length).filter (· ≠ "--")
  match behind with
  | [] => (sh.leave 2).complain "Usage: grep [OPTION]... PATTERNS [FILE]...\n"
  | wanted :: names =>
    let has (flag : Char) : Bool := options.any (·.contains flag)
    let fold (text : String) : String := if has 'i' then text.map Char.toLower else text
    let pattern := if has 'F' then
        .anyText :: (fold wanted).toList.map PatternPart.char ++ [.anyText]
      else searchPattern (fold wanted)
    let keeps (line : String) : Bool := pattern.accepts (fold line).toList != has 'v'
    let host ← askMachine .look
    let texts := if names.isEmpty then [(none, .ok sh.input.toUTF8)]
      else names.map fun name => (some name, host.files.read sh.cwd name)
    let found := texts.flatMap fun (name, content) => match content with
      | .ok content => ((linesOf ((String.fromUTF8? content).getD "")).filter keeps).map fun line =>
        if names.length ≤ 1 then line else name.getD "" ++ ":" ++ line
      | .error _ => []
    let sh ← texts.foldlM (fun sh (name, content) => match content with
      | .ok _ => pure sh
      | .error fault =>
        if has 's' then pure (sh.leave 2)
        else (sh.leave 2).complain
          ("grep: " ++ name.getD "" ++ ": " ++ Fault.reason fault ++ "\n")) (sh.leave 0)
    let sh := if sh.status ≠ 0 then sh else sh.leave (if found.isEmpty then 1 else 0)
    if has 'q' then pure sh
    else if has 'c' then sh.print (toString found.length ++ "\n")
    else sh.print (unlines found)

/-- The numbers of a sequence. -/
def sequence (arguments : List String) : List Int :=
  match arguments.map fun a => (a.toInt?).getD 0 with
  | [last] => count 1 1 last
  | [first, last] => count first 1 last
  | [first, step, last] => count first step last
  | _ => []
where
  count (first step last : Int) : List Int :=
    if step = 0 then []
    else
      let length := if 0 < step then (last - first) / step + 1 else (first - last) / (-step) + 1
      (List.range length.toNat).map fun (i : Nat) => first + step * i

/-- The value and the status of an expression of words. -/
def expression (words : List String) : String × Nat :=
  let answer (n : Int) : String × Nat := (toString n, if n = 0 then 1 else 0)
  match words with
  | [a] => (a, if a = "" || a = "0" then 1 else 0)
  | [a, "=", b] => answer (Arithmetic.ofBool (a = b))
  | [a, "!=", b] => answer (Arithmetic.ofBool (a ≠ b))
  | words =>
    match Arithmetic.value? (fun _ => 0) (" ".intercalate words) with
    | some n => answer n
    | none => ("", 2)

/-- The output of the echo that is a program. -/
def echo (sh : Shell) (arguments : List String) : Program Shell :=
  let isOption (a : String) : Bool :=
    1 < a.length && a.startsWith "-" &&
      (a.drop 1).toString.toList.all fun c => "neE".toList.contains c
  let options := arguments.takeWhile isOption
  let shown := arguments.drop options.length
  let newline := !options.any (·.contains 'n')
  if options.any (·.contains 'e') then
    (sh.leave 0).writeBytes sh.out (Format.echoed newline shown)
  else (sh.leave 0).print (" ".intercalate shown ++ if newline then "\n" else "")

/-- Waits. -/
def sleep (sh : Shell) (arguments : List String) : Program Shell := do
  match arguments.find? fun a => (durationOf? a).isNone with
  | some a =>
    (sh.leave 1).complain ("sleep: invalid time interval '" ++ a ++
      "'\nTry 'sleep --help' for more information.\n")
  | none =>
    if arguments.isEmpty then
      (sh.leave 1).complain "sleep: missing operand\nTry 'sleep --help' for more information.\n"
    else
      (arguments.filterMap durationOf?).forM fun d => askMachine (.pause d)
      pure (sh.leave 0)

/-- Leaves the truth of a condition as a status. -/
def test (sh : Shell) (name : String) (words : List String) : Program Shell := do
  let host ← askMachine .look
  match Condition.holds host.files sh.cwd words with
  | .ok result => pure (sh.leave (if result then 0 else 1))
  | .error message => sh.report 2 (name ++ ": " ++ message)

/-- A condition in brackets. -/
def bracketTest (sh : Shell) (words : List String) : Program Shell :=
  if words.getLast? = some "]" then test sh "[" words.dropLast else sh.report 2 "[: missing ]"

/-- Writes arguments in a format. A printf that no script calls warns about arguments for which the
format has no place. -/
def printf (sh : Shell) (format : String) (arguments : List String) : Program Shell := do
  let after ← (sh.leave 0).writeBytes sh.out (Format.printed format arguments)
  match arguments with
  | first :: _ =>
    if sh.arguments.isEmpty && !format.contains '%' then
      after.complain
        ("printf: warning: ignoring excess arguments, starting with '" ++ first ++ "'\n")
    else pure after
  | [] => pure after

/-- The tools that only write something. -/
def writer? (sh : Shell) (name : String) (arguments : List String) : Option (Program Shell) :=
  let say (text : String) : Option (Program Shell) := some ((sh.leave 0).print text)
  match name with
  | "true" | "sync" => some (pure (sh.leave 0))
  | "false" => some (pure (sh.leave 1))
  | "echo" => some (echo sh arguments)
  | "printf" => some (printf sh (arguments.headD "") (arguments.drop 1))
  | "pwd" => say (sh.directory ++ "\n")
  | "basename" =>
    let parts := ((arguments.headD "").splitOn "/").filter (· ≠ "")
    let last := parts.getLast?.getD "/"
    let ending := arguments.getD 1 ""
    say ((if last.endsWith ending then (last.dropEnd ending.length).toString else last) ++ "\n")
  | "dirname" =>
    let name := arguments.headD ""
    let parts := (name.splitOn "/").dropLast
    let text := "/".intercalate parts
    say ((if parts.isEmpty then "." else if text = "" then "/" else text) ++ "\n")
  | "seq" => say (unlines ((sequence arguments).map toString))
  | "expr" =>
    let (text, status) := expression arguments
    some ((sh.leave status).print (if status = 2 then "" else text ++ "\n"))
  | "date" => say "Wed Nov 15 00:00:00 UTC 2023\n"
  | "uname" => say "Linux\n"
  | "whoami" => say "root\n"
  | "id" => say (if arguments.isEmpty then "uid=0(root) gid=0(root) groups=0(root)\n" else "0\n")
  | "hostname" => say "localhost\n"
  | _ => none

/-- The tools that show files or their input in another form. -/
def viewer? (sh : Shell) (name : String) (arguments : List String) : Option (Program Shell) :=
  let names := plainNames arguments
  match name with
  | "cat" => some (onFiles sh "cat" 1 names fun _ text => text)
  | "wc" => some (onFiles sh "wc" 1 names fun name text =>
      counts arguments text ++ (name.map (" " ++ ·)).getD "" ++ "\n")
  | "head" => some (partOf sh "head" false arguments)
  | "tail" => some (partOf sh "tail" true arguments)
  | "sort" => some (onFiles sh "sort" 2 names fun _ text =>
      let sorted := (linesOf text).mergeSort fun a b =>
        if hasFlag arguments 'n' then
          decide (Format.numberOf a < Format.numberOf b) ||
            (Format.numberOf a = Format.numberOf b && a ≤ b)
        else a ≤ b
      let sorted := if hasFlag arguments 'u' then sorted.eraseDups else sorted
      unlines (if hasFlag arguments 'r' then sorted.reverse else sorted))
  | "uniq" => some (onFiles sh "uniq" 1 names fun _ text =>
      unlines ((linesOf text).foldr (fun line found =>
        if found.head? = some line then found else line :: found) []))
  | "tr" => some (onFiles sh "tr" 1 [] fun _ text => translated arguments text)
  | "cut" =>
    some (onFiles sh "cut" 1 (withoutOptions ["-d", "-f", "-c"] arguments) fun _ text =>
      cutLines arguments text)
  | "grep" => some (search sh arguments)
  | "tee" => some do
    let after ← (withoutInput sh).print sh.input
    changing after "tee:" names fun name files =>
      if hasFlag arguments 'a' then files.append sh.cwd name sh.input.toUTF8
      else files.write sh.cwd name sh.input.toUTF8
  | "ls" =>
    some ((if names.isEmpty then ["."] else names).foldlM (listName (hasFlag arguments 'a'))
      (sh.leave 0))
  | _ => none

/-- The tools that change files. -/
def changer? (sh : Shell) (name : String) (arguments : List String) : Option (Program Shell) :=
  let names := plainNames arguments
  match name with
  | "touch" => some (changing sh "touch: cannot touch" names (touched sh.cwd))
  | "mkdir" => some (changing sh "mkdir: cannot create directory" names fun name files =>
      if hasFlag arguments 'p' then files.makeDirs sh.cwd name else files.makeDir sh.cwd name)
  | "rmdir" => some (changing sh "rmdir: failed to remove" names (removedDirectory sh.cwd))
  | "rm" =>
    let recursive := hasFlag arguments 'r' || hasFlag arguments 'R'
    some (changing sh "rm: cannot remove" names
      (removed sh.cwd recursive (hasFlag arguments 'f')))
  | "cp" => some (changing sh "cp: cannot stat" names.dropLast
      (copied sh.cwd (names.getLast?.getD "")))
  | "mv" => some (changing sh "mv: cannot stat" names.dropLast
      (moved sh.cwd (names.getLast?.getD "")))
  | "chmod" => some (changing sh "chmod: cannot access" (arguments.drop 1)
      (withMode sh.cwd (arguments.headD "")))
  | _ => none

/-- The tools of other kinds. -/
def other? (sh : Shell) (name : String) (arguments : List String) : Option (Program Shell) :=
  match name with
  | "sleep" => some (sleep sh arguments)
  | "test" => some (test sh "test" arguments)
  | "[" => some (bracketTest sh arguments)
  | "git" => some do
    let host ← askMachine .look
    let (reply, host) := Git.run host sh.cwd arguments
    askMachine (.change host)
    let sh ← (sh.leave reply.code).print reply.output
    sh.complain reply.diagnostics
  | _ => none

/-- The tool of a name, if there is one. -/
def find? (sh : Shell) (name : String) (arguments : List String) : Option (Program Shell) :=
  match refusals.find? name, longOption? arguments with
  | some status, some option => some ((sh.leave status).complain (refusal name option))
  | _, _ =>
    writer? sh name arguments <|> viewer? sh name arguments <|> changer? sh name arguments <|>
      other? sh name arguments

end BenchQueue.Machine.Tool
