import BenchQueue.Machine.Pattern
import BenchQueue.Machine.Script.Reader
import BenchQueue.Machine.Shell.Builtin
/-!
# Running scripts

A script runs command by command. The words of a command are expanded, split and completed to names
of files, its redirections are put in place, and then the shell itself, a function, a tool or
another script does the work.
-/

namespace BenchQueue.Machine.Shell

/-- Fields that were completed, and the one being built. -/
structure Fields where
  completed : List (List Glyph) := []
  current : Option (List Glyph) := none

namespace Fields

/-- Adds text to the current field. -/
def add (f : Fields) (quoted : Bool) (text : String) : Fields :=
  { f with current := some (f.current.getD [] ++ glyphsOf quoted text) }

/-- Completes the current field. -/
def close (f : Fields) : Fields :=
  match f.current with
  | some field => { completed := f.completed ++ [field] }
  | none => f

/-- Adds text that is split at blanks. -/
def addSplit (f : Fields) (text : String) : Fields :=
  text.toList.foldl (fun f c =>
    if c = ' ' ∨ c = '\t' ∨ c = '\n' then f.close else f.add false (String.singleton c)) f

/-- Adds text that is split unless it is quoted. -/
def addValue (f : Fields) (quoted : Bool) (text : String) : Fields :=
  if quoted then f.add true text else f.addSplit text

/-- Adds texts that stay fields of their own. -/
def addAll (f : Fields) : List String → Fields
  | [] => f
  | [text] => f.add true text
  | text :: rest => (f.add true text).close.addAll rest

/-- All glyphs as one field. -/
def joined (f : Fields) : List Glyph :=
  let fields := f.close.completed
  (fields.intersperse [⟨' ', true⟩]).flatten

end Fields

/-- Text without the line ends behind it. -/
def trimLineEnds (text : String) : String :=
  String.ofList (text.toList.reverse.dropWhile (· == '\n')).reverse

/-- The name and value of an assignment. -/
def assignment? (w : Word) : Option (String × Word) :=
  match w.parts with
  | .text s false :: rest =>
    let name := s.toList.takeWhile (· != '=')
    let value := s.toList.drop (name.length + 1)
    if name.length < s.length && Script.isName (String.ofList name) then
      some (String.ofList name,
        { parts := (if value.isEmpty then [] else [.text (String.ofList value) false]) ++ rest
          quoted := true })
    else none
  | _ => none

/-- The shell in a line of its script. -/
def atLine (sh : Shell) (line : Nat) : Shell := { sh with line }

/-- A part of a word that is not split. -/
def asQuoted : WordPart → WordPart
  | .text s _ => .text s true
  | .parameter name use argument _ => .parameter name use argument true
  | .output script _ => .output script true
  | .arithmetic expression _ => .arithmetic expression true

/-- Completes the parts of a name that is a pattern to the names of files there are. -/
def completions (files : Files) (found : List (String × Path)) : List (List Glyph) → List String
  | [] => found.map (·.1)
  | field :: rest =>
    let pattern := Pattern.ofGlyphs 0 field
    let next := found.flatMap fun (name, path) =>
      if pattern.isOpen then
        let hidden := pattern.head? = some (.char '.')
        let names := (files.list path).filter fun n =>
          (hidden || !n.startsWith ".") && pattern.accepts n.toList
        (names.mergeSort (· ≤ ·)).map fun n => (joinNames name n, path ++ [n])
      else
        let text := textOfGlyphs field
        if text = "" then [(if name = "" then "/" else name, path)]
        else
          let path := path ++ [text]
          if (files.find? path).isSome then [(joinNames name text, path)] else []
    completions files next rest

/-- A field as the names it is a pattern of, or as its text. -/
def namesOf (files : Files) (cwd : Path) (field : List Glyph) : List String :=
  if !(Pattern.ofGlyphs 0 field).isOpen then [textOfGlyphs field]
  else
    let parts := field.splitOnP fun g => g.char = '/'
    let start := if (field.head?.map Glyph.char) = some '/' then [] else cwd
    match completions files [("", start)] parts with
    | [] => [textOfGlyphs field]
    | names => names

/-- The interpreter of a program that starts with a line that names one; there is none for a program
without such a line. -/
def interpreter? (content : String) : Option (List String) :=
  let line := (content.splitOn "\n").headD ""
  if line.startsWith "#!" then some (((line.drop 2).toString.splitOn " ").filter (· ≠ ""))
  else none

/-- The names of the shell. -/
def shellNames : List String := ["sh", "bash", "dash"]

/-- The directories in which programs are looked for by name. -/
def programDirs : List String :=
  ["/usr/local/bin/", "/usr/bin/", "/bin/", "/usr/local/sbin/", "/usr/sbin/", "/sbin/"]

/-- The name of a tool in one of the directories of programs. -/
def systemName? (program : String) : Option String :=
  programDirs.findSome? fun dir =>
    if program.startsWith dir then some (program.drop dir.length).toString else none

/-- How a word is written in the report of a command. -/
def tracedWord (word : String) : String :=
  let plain := word.toList.all fun c => c.isAlphanum || "-_./:=,+@%".toList.contains c
  if plain && word ≠ "" then word else "'" ++ word ++ "'"

/-- What remains of a jump behind a loop, and whether the loop goes on. -/
def afterRound (sh : Shell) : Shell × Bool :=
  match sh.jump with
  | some (.leaveLoops n) =>
    ({ sh with jump := if 1 < n then some (.leaveLoops (n - 1)) else none }, false)
  | some (.nextRound n) =>
    if 1 < n then ({ sh with jump := some (.nextRound (n - 1)) }, false)
    else ({ sh with jump := none }, true)
  | some _ => (sh, false)
  | none => (sh, true)

/-- A strict shell ends when a command fails that is not tested. -/
def checked (sh : Shell) : Shell :=
  if sh.strict && !sh.tested && sh.status ≠ 0 && sh.jump.isNone then sh.finish sh.status else sh

/-- The shell behind a part of a script that ran in a copy of it. -/
def behindCopy (sh copy : Shell) : Shell :=
  let sh := { sh with
    buffers := copy.buffers, input := copy.input, status := copy.exitStatus.number }
  match copy.jump with
  | some (.killed signal) => { sh with jump := some (.killed signal) }
  | _ => sh

mutual

/-- The fields that parts of a word expand to. -/
def expandParts : Nat → Shell → Fields → List WordPart → Program (Fields × Shell)
  | 0, sh, f, _ => pure (f, sh)
  | _ + 1, sh, f, [] => pure (f, sh)
  | fuel + 1, sh, f, part :: rest => do
    match part with
    | .text s quoted => expandParts fuel sh (f.add quoted s) rest
    | .parameter "@" .value _ true => expandParts fuel sh (f.addAll (sh.arguments.drop 1)) rest
    | .parameter name use argument quoted =>
      let (f, sh) ← expandParameter fuel sh f name use argument quoted
      expandParts fuel sh f rest
    | .arithmetic text quoted =>
      let (text, sh) ← expandText fuel sh (Script.wholeWord text)
      let values ← (Arithmetic.names text).mapM fun name => do
        pure (name, ((← sh.parameter? name).bind String.toInt?).getD 0)
      match Arithmetic.value? (fun name => (Members.find? values name).getD 0) text with
      | some n => expandParts fuel sh (f.addValue quoted (toString n)) rest
      | none =>
        pure (f, ← sh.abort ("arithmetic expression: expecting primary: \"" ++ text ++ "\""))
    | .output script quoted =>
      let number := sh.buffers.length
      let copy ← runScript fuel
        { sh with out := .buffer number, buffers := sh.buffers ++ [""] } (Script.parse script)
      let text := trimLineEnds (copy.buffers.getD number "")
      let sh := behindCopy sh copy
      expandParts fuel { sh with buffers := copy.buffers.take number } (f.addValue quoted text) rest

/-- The fields that a parameter expands to. -/
def expandParameter : Nat → Shell → Fields → String → ParameterUse → String → Bool →
    Program (Fields × Shell)
  | 0, sh, f, _, _, _, _ => pure (f, sh)
  | fuel + 1, sh, f, name, use, argument, quoted => do
    let value ← sh.parameter? name
    let isSet (orEmpty : Bool) : Bool := value.any fun v => !orEmpty || v ≠ ""
    let here (v : Option String) : Fields :=
      match v with
      | some v => f.addValue quoted v
      | none => if quoted then f.add true "" else f
    match use with
    | .value =>
      if value.isNone && sh.wary && name ≠ "@" && name ≠ "*" then
        pure (f, ← sh.abort (name ++ ": parameter not set"))
      else pure (here value, sh)
    | .length => pure (f.addValue quoted (toString (value.getD "").length), sh)
    | .otherwise orEmpty =>
      if isSet orEmpty then pure (here value, sh)
      else
        let (text, sh) ← expandText fuel sh (Script.wholeWord argument)
        pure (f.addValue quoted text, sh)
    | .assigned orEmpty =>
      if isSet orEmpty then pure (here value, sh)
      else
        let (text, sh) ← expandText fuel sh (Script.wholeWord argument)
        pure (f.addValue quoted text, sh.set name text)
    | .instead orEmpty =>
      if isSet orEmpty then
        let (text, sh) ← expandText fuel sh (Script.wholeWord argument)
        pure (f.addValue quoted text, sh)
      else pure (here none, sh)
    | .required orEmpty =>
      if isSet orEmpty then pure (here value, sh)
      else
        let (text, sh) ← expandText fuel sh (Script.wholeWord argument)
        let unset := "parameter not set" ++ (if orEmpty then " or null" else "")
        let text := if text = "" then unset else text
        pure (f, ← sh.abort (name ++ ": " ++ text))
    | .withoutStart longest =>
      let (pattern, sh) ← expandPattern fuel sh argument
      let text := (Pattern.cutStart longest pattern (value.getD "").toList)
      pure (f.addValue quoted (String.ofList text), sh)
    | .withoutEnd longest =>
      let (pattern, sh) ← expandPattern fuel sh argument
      let text := (Pattern.cutEnd longest pattern (value.getD "").toList)
      pure (f.addValue quoted (String.ofList text), sh)

/-- The pattern that a text spells. -/
def expandPattern : Nat → Shell → String → Program (Pattern × Shell)
  | 0, sh, _ => pure ([], sh)
  | fuel + 1, sh, text => do
    let word := ((Script.readWord (2 * text.length + 2) .plain false [] text.toList).map (·.1)).getD
      (Script.wholeWord text)
    let (f, sh) ← expandParts fuel sh {} word.parts
    pure (Pattern.ofGlyphs 0 f.joined, sh)

/-- The text that a word expands to without being split. -/
def expandText : Nat → Shell → Word → Program (String × Shell)
  | 0, sh, _ => pure ("", sh)
  | fuel + 1, sh, word => do
    let (f, sh) ← expandParts fuel sh {} word.parts
    pure (textOfGlyphs f.joined, sh)

/-- The fields that words expand to. -/
def expandWords : Nat → Shell → List String → List Word → Program (List String × Shell)
  | 0, sh, fields, _ => pure (fields, sh)
  | _ + 1, sh, fields, [] => pure (fields, sh)
  | fuel + 1, sh, fields, word :: rest => do
    let (f, sh) ← expandParts fuel sh {} word.parts
    let found := f.close.completed
    let isArguments := word.parts.any fun
      | .parameter "@" .value _ true => true
      | _ => false
    let found := if found.isEmpty && word.quoted && !isArguments then [[]] else found
    let host ← askMachine .look
    expandWords fuel sh (fields ++ found.flatMap (namesOf host.files sh.cwd)) rest

/-- The shell with redirections in place; it is none if a file cannot be opened. -/
def redirect : Nat → Shell → List Redirect → Program (Option Shell × Shell)
  | 0, sh, _ => pure (some sh, sh)
  | _ + 1, sh, [] => pure (some sh, sh)
  | fuel + 1, sh, r :: rest => do
    let (name, sh) ← expandText fuel sh r.target
    let towards (outlet : Outlet) : Shell :=
      if r.fd = 2 then { sh with err := outlet }
      else if r.fd = 1 then { sh with out := outlet }
      else sh
    match r.kind with
    | .given => redirect fuel { sh with input := name } rest
    | .duplicate =>
      match name with
      | "0" => redirect fuel sh rest
      | "1" => redirect fuel (towards sh.out) rest
      | "2" => redirect fuel (towards sh.err) rest
      | "-" => redirect fuel (towards .discard) rest
      | name => pure (none, ← sh.report 2 (name ++ ": Bad file descriptor"))
    | .read =>
      let host ← askMachine .look
      match if name = "/dev/null" then .ok ByteArray.empty else host.files.read sh.cwd name with
      | .ok content => redirect fuel { sh with input := (String.fromUTF8? content).getD "" } rest
      | .error _ => pure (none, ← sh.report 2 ("cannot open " ++ name ++ ": No such file"))
    | kind =>
      if name = "/dev/null" then redirect fuel (towards .discard) rest
      else if name = starterDiagnostics then redirect fuel (towards .starter) rest
      else
        let failure ← changeFiles fun files =>
          if kind = .replace then files.write sh.cwd name ByteArray.empty
          else files.append sh.cwd name ByteArray.empty
        match failure with
        | some fault =>
          let reason := if fault = .notFound then "Directory nonexistent" else fault.reason
          pure (none, ← sh.report 2 ("cannot create " ++ name ++ ": " ++ reason))
        | none => redirect fuel (towards (.file (joinNames sh.directory name))) rest

/-- Runs a command with its arguments. -/
def runCommand : Nat → Shell → List String → Program Shell
  | 0, sh, _ => pure sh
  | _ + 1, sh, [] => pure sh
  | fuel + 1, sh, name :: arguments => do
    match name with
    | "exec" =>
      if arguments.isEmpty then pure (sh.leave 0)
      else
        -- The program takes the place of the shell, so who started the shell has started it.
        match ← runProgram fuel { sh with number := sh.parent } (arguments.headD "")
          (arguments.drop 1) with
        | (.ok (.code n), sh) => pure (sh.finish n)
        | (.ok (.signal n), sh) => pure { sh with jump := some (.killed n) }
        | (.error fault, sh) =>
          let missing := fault = .notFound
          let after ← sh.report (if missing then 127 else 126) ("exec: " ++ arguments.headD "" ++
            (if missing then ": not found" else ": " ++ fault.reason))
          pure (after.finish after.status)
    | "eval" => runScript fuel sh (Script.parse (" ".intercalate arguments))
    | "." =>
      let host ← askMachine .look
      match if arguments.head? = some "/dev/null" then .ok ""
        else host.files.readText sh.cwd (arguments.headD "") with
      | .ok text =>
        let after ← runScript fuel sh (Script.parse text)
        pure (if after.jump = some .leaveFunction then { after with jump := none } else after)
      | .error _ => sh.abort (name ++ ": cannot open " ++ arguments.headD "" ++ ": No such file")
    | "command" =>
      if arguments.head? = some "-v" then
        let wanted := arguments.getD 1 ""
        if shellNames.contains wanted || (Tool.find? sh wanted []).isSome then
          (sh.leave 0).print ("/usr/bin/" ++ wanted ++ "\n")
        else if (Builtin.find? sh wanted []).isSome then (sh.leave 0).print (wanted ++ "\n")
        else pure (sh.leave 127)
      else runCommand fuel sh arguments
    | "wait" => runLater fuel { (sh.leave 0) with later := [] } sh.later
    | _ =>
      match sh.functions.find? name with
      | some body =>
        let after ← runScript fuel { sh with arguments := sh.arguments.take 1 ++ arguments } body
        let jump := if after.jump = some .leaveFunction then none else after.jump
        pure { after with arguments := sh.arguments, jump }
      | none =>
        match Builtin.find? sh name arguments with
        | some program =>
          match ← program with
          | .done sh => pure sh
          | .act sh action => runScript fuel sh (Script.parse action)
        | none =>
          match ← runProgram fuel sh name arguments with
          | (.ok status, sh) => pure (sh.leave status.number)
          | (.error fault, sh) =>
            let missing := fault = .notFound
            sh.report (if missing then 127 else 126)
              (name ++ (if missing then ": not found" else ": Permission denied"))

/-- Runs what was put into the background. -/
def runLater : Nat → Shell → List Script → Program Shell
  | 0, sh, _ => pure sh
  | _ + 1, sh, [] => pure sh
  | fuel + 1, sh, script :: rest => do
    let copy ← runScript fuel sh script
    runLater fuel { sh with buffers := copy.buffers } rest

/-- Runs a program that is not part of the shell, with the inputs and outputs of a shell. -/
def runProgram : Nat → Shell → String → List String → Program (Except Fault ExitStatus × Shell)
  | 0, sh, _, _ => pure (.ok (.code 0), sh)
  | fuel + 1, sh, program, arguments => do
    let name := (systemName? program).getD program
    if program.contains '/' && (systemName? program).isNone then
      let host ← askMachine .look
      match host.files.lookup sh.cwd program with
      | .error fault => pure (.error fault, sh)
      | .ok .directory => pure (.error .permissionDenied, sh)
      | .ok (.file content executable) =>
        let text := (String.fromUTF8? content).getD ""
        if !executable then pure (.error .permissionDenied, sh)
        else
          match interpreter? text with
          | some (interpreter :: options) =>
            runProgram fuel sh interpreter (options ++ program :: arguments)
          | some [] => pure (.error .notFound, sh)
          | none => pure (.error .badFormat, sh)
    else if shellNames.contains name then
      match arguments with
      | "-c" :: script :: rest => runFile fuel sh script (if rest.isEmpty then [name] else rest)
      | [] => runFile fuel sh sh.input [name]
      | first :: rest =>
        if first.startsWith "--" then
          pure (.ok (.code 2), ← sh.complain (name ++ ": 0: Illegal option --\n"))
        else if first.startsWith "-" then
          runProgram fuel (Builtin.setOptions sh [first]) name rest
        else
          let host ← askMachine .look
          match host.files.readText sh.cwd first with
          | .ok text => runFile fuel sh text arguments
          | .error _ =>
            pure (.ok (.code 2),
              ← sh.complain (name ++ ": 0: cannot open " ++ first ++ ": No such file\n"))
    else if name = "env" && (Tool.longOption? (arguments.take 1)).isNone then
      let given := arguments.takeWhile fun a => (a.splitOn "=").length > 1
      let inner := Builtin.export_ sh given
      match arguments.drop given.length with
      | [] => pure (.ok (.code 0), ← sh.print (Tool.unlines given))
      | program :: rest =>
        let (result, after) ← runProgram fuel inner program rest
        pure (result, { sh with buffers := after.buffers, input := after.input })
    else
      match Tool.find? sh name arguments with
      | some tool =>
        let after ← tool
        pure (.ok (.code after.status), { sh with buffers := after.buffers, input := after.input })
      | none => pure (.error .notFound, sh)

/-- Runs a script in a shell of its own. -/
def runFile : Nat → Shell → String → List String → Program (Except Fault ExitStatus × Shell)
  | 0, sh, _, _ => pure (.ok (.code 0), sh)
  | fuel + 1, sh, text, arguments => do
    let inner : Shell :=
      { parent := sh.number, arguments, assigned := sh.handedOver, exported := sh.exported,
        cwd := sh.cwd, out := sh.out, err := sh.err, input := sh.input, buffers := sh.buffers,
        strict := sh.strict, traced := sh.traced, wary := sh.wary }
    let inner ← runScript fuel inner (Script.parse text)
    let inner ← runExitTrap fuel inner
    untilPause (runLater fuel inner inner.later)
    pure (.ok inner.exitStatus, { sh with buffers := inner.buffers, input := inner.input })

/-- Runs the action that was kept for the end of a shell. -/
def runExitTrap : Nat → Shell → Program Shell
  | 0, sh => pure sh
  | fuel + 1, sh => do
    match sh.traps.find? "0", sh.jump with
    | none, _ | _, some (.killed _) => pure sh
    | some action, jump =>
      let status := sh.exitStatus.number
      let after ← runScript fuel { sh with jump := none, traps := [], status } (Script.parse action)
      pure (if after.jump.isSome then after
        else { after with status, jump := jump.orElse fun _ => some (.ended status) })

/-- Runs a script; nothing more is run behind a jump. -/
def runScript : Nat → Shell → Script → Program Shell
  | 0, sh, _ => pure sh
  | fuel + 1, sh, script => do
    if sh.jump.isSome then return sh
    match script with
    | .nothing => pure sh
    | .broken line message => (sh.atLine line).abort message
    | .define name body => pure { (sh.leave 0) with functions := sh.functions.insert name body }
    | .background body => pure { (sh.leave 0) with later := sh.later ++ [body] }
    | .both first second =>
      let sh ← runScript fuel sh first
      runScript fuel sh second
    | .onSuccess first second =>
      let sh ← runTested fuel sh first
      if sh.status = 0 then runScript fuel sh second else pure sh
    | .onFailure first second =>
      let sh ← runTested fuel sh first
      if sh.status = 0 then pure sh else runScript fuel sh second
    | .negated body =>
      let sh ← runTested fuel sh body
      pure (if sh.jump.isSome then sh else sh.leave (if sh.status = 0 then 1 else 0))
    | .pipe first second =>
      let number := sh.buffers.length
      let copy ← runScript fuel
        { sh with out := .buffer number, buffers := sh.buffers ++ [""] } first
      let text := copy.buffers.getD number ""
      let after ← runScript fuel
        { sh with input := text, buffers := copy.buffers.take number } second
      pure (checked { behindCopy sh after with input := copy.input })
    | .subshell body =>
      let copy ← runScript fuel { sh with traps := [] } body
      pure (checked (behindCopy sh copy))
    | .redirected body redirects =>
      match ← redirect fuel sh redirects with
      | (none, failed) =>
        pure (checked { sh with status := failed.status, buffers := failed.buffers })
      | (some redirected, _) =>
        let after ← runScript fuel redirected body
        pure { after with input := sh.input, out := sh.out, err := sh.err }
    | .conditional condition onTrue onFalse =>
      let sh ← runTested fuel sh condition
      if sh.jump.isSome then pure sh
      else if sh.status = 0 then runScript fuel sh onTrue
      else runScript fuel (sh.leave 0) onFalse
    | .loop untilTrue condition body =>
      let sh ← runTested fuel sh condition
      if sh.jump.isSome then pure (afterRound sh).1
      else if (sh.status = 0) != untilTrue then
        let sh ← runScript fuel sh body
        let (sh, goesOn) := afterRound sh
        if goesOn then runScript fuel sh script else pure sh
      else pure (sh.leave 0)
    | .forIn name words body =>
      let (values, sh) ← expandWords fuel sh [] words
      runFor fuel sh name body values
    | .choice subject patterns body rest =>
      let (text, sh) ← expandText fuel sh subject
      if ← matchesAny fuel sh text patterns then runScript fuel (sh.leave 0) body
      else runScript fuel (sh.leave 0) rest
    | .simple line words redirects =>
      return checked (← runSimple fuel (sh.atLine line) words redirects)

/-- Runs a script whose failure decides what runs next. -/
def runTested : Nat → Shell → Script → Program Shell
  | 0, sh, _ => pure sh
  | fuel + 1, sh, script => do
    let after ← runScript fuel { sh with tested := true } script
    pure { after with tested := sh.tested }

/-- Whether one of some patterns describes a text. -/
def matchesAny : Nat → Shell → String → List Word → Program Bool
  | 0, _, _, _ => pure false
  | _ + 1, _, _, [] => pure false
  | fuel + 1, sh, text, word :: rest => do
    let (f, sh) ← expandParts fuel sh {} word.parts
    if (Pattern.ofGlyphs 0 f.joined).accepts text.toList then pure true
    else matchesAny fuel sh text rest

/-- Runs a simple command. -/
def runSimple : Nat → Shell → List Word → List Redirect → Program Shell
  | 0, sh, _, _ => pure sh
  | fuel + 1, sh, words, redirects => do
    let assigned := words.takeWhile fun w => (assignment? w).isSome
    let (fields, sh) ← expandWords fuel sh [] (words.drop assigned.length)
    if sh.jump.isSome then return sh
    match ← redirect fuel sh redirects with
    | (none, failed) => pure { sh with status := failed.status, buffers := failed.buffers }
    | (some redirected, _) =>
      let settled := assigned.filterMap assignment?
      if fields.isEmpty then
        let after ← assign fuel (redirected.leave 0) settled
        pure { after with input := sh.input, out := sh.out, err := sh.err }
      else
        let prepared ← assign fuel redirected settled
        let prepared : Shell := { prepared with exported := settled.map (·.1) ++ sh.exported }
        let prepared ← if sh.traced then
            prepared.complain ("+ " ++ " ".intercalate (fields.map tracedWord) ++ "\n")
          else pure prepared
        let after ← runCommand fuel prepared fields
        let reads := redirects.any fun r => r.fd = 0
        let after := { after with input := if reads then sh.input else after.input }
        let after := if settled.isEmpty then after
          else { after with assigned := sh.assigned, exported := sh.exported }
        pure (if fields = ["exec"] then after else { after with out := sh.out, err := sh.err })

/-- Sets variables. -/
def assign : Nat → Shell → List (String × Word) → Program Shell
  | 0, sh, _ => pure sh
  | _ + 1, sh, [] => pure sh
  | fuel + 1, sh, (name, word) :: rest => do
    let (f, sh) ← expandParts fuel sh {} (word.parts.map asQuoted)
    assign fuel (sh.set name (textOfGlyphs f.joined)) rest

/-- Runs the body of a loop for every value. -/
def runFor : Nat → Shell → String → Script → List String → Program Shell
  | 0, sh, _, _, _ => pure sh
  | _ + 1, sh, _, _, [] => pure sh
  | fuel + 1, sh, name, body, value :: rest => do
    let sh ← runScript fuel (sh.set name value) body
    let (sh, goesOn) := afterRound sh
    if goesOn then runFor fuel sh name body rest else pure sh

end

end BenchQueue.Machine.Shell
