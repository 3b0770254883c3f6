import BenchQueue.Machine.Shell.Tool
/-!
# Commands of the shell itself

The commands that change the shell: its variables, its directory, its input, its options and how it
goes on. A failure of some of them ends the shell.
-/

namespace BenchQueue.Machine.Builtin

open Shell

/-- The number of a signal by its name or number. -/
def signalNumber? (text : String) : Option Nat :=
  let name := if text.startsWith "SIG" then (text.drop 3).toString else text
  match name with
  | "EXIT" => some 0
  | "HUP" => some 1
  | "INT" => some 2
  | "QUIT" => some 3
  | "ILL" => some 4
  | "ABRT" => some 6
  | "FPE" => some 8
  | "KILL" => some 9
  | "USR1" => some 10
  | "SEGV" => some 11
  | "USR2" => some 12
  | "PIPE" => some 13
  | "ALRM" => some 14
  | "TERM" => some 15
  | "CHLD" => some 17
  | "CONT" => some 18
  | "STOP" => some 19
  | name => name.toNat?

/-- The name under which an action for a signal is kept. -/
def trapName (signal : String) : String := toString ((signalNumber? signal).getD 0)

/-- The signal and the targets among the arguments of a kill. -/
def killTarget : List String → Nat × List String
  | "-s" :: name :: rest => ((signalNumber? name).getD 15, rest)
  | "--" :: rest => (15, rest)
  | option :: rest =>
    if option.startsWith "-" then ((signalNumber? (option.drop 1).toString).getD 15, rest)
    else (15, option :: rest)
  | [] => (15, [])

/-- Whether a signal ends a program that does not handle it. -/
def isFatal (signal : Nat) : Bool := signal ≠ 0 && signal ≠ 17 && signal ≠ 18

/-- What a shell does next: it is done with the command, or runs the action for a signal first. -/
inductive Next
  | done (sh : Shell)
  | act (sh : Shell) (script : String)

/-- Sends a signal to the shell itself or to what it runs in the background. -/
def kill (sh : Shell) (arguments : List String) : Next :=
  let (signal, targets) := killTarget arguments
  if targets.contains ownNumber then
    match sh.traps.find? (toString signal) with
    | some action =>
      if signal = 9 then .done { sh with jump := some (.killed 9) } else .act sh action
    | none =>
      if isFatal signal then .done { sh with jump := some (.killed signal) } else .done (sh.leave 0)
  else if targets.contains laterNumber then
    .done { (sh.leave 0) with later := if isFatal signal then [] else sh.later }
  else .done (sh.leave 1)

/-- Sets a status from a number. -/
def statusFrom (sh : Shell) (name : String) (arguments : List String) (next : Nat → Shell) :
    Program Shell :=
  match arguments.head? with
  | none => pure (next sh.status)
  | some text =>
    match text.toNat? with
    | some n => pure (next (n % 256))
    | none => sh.abort (name ++ ": Illegal number: " ++ text)

/-- How many loops are meant. -/
def loopCount (arguments : List String) : Nat := (arguments.head?.bind String.toNat?).getD 1

/-- Changes the directory. -/
def changeDirectory (sh : Shell) (arguments : List String) : Program Shell := do
  let host ← askMachine .look
  let home ← sh.parameter? "HOME"
  let target := arguments.headD (home.getD "/")
  match host.files.resolve sh.cwd target, host.files.isDirectory sh.cwd target with
  | .ok path, true => pure { sh with cwd := path, status := 0 }
  | _, _ => sh.report 2 ("cd: can't cd to " ++ target)

/-- Gives variables to programs that the shell starts, with new values where there are any. -/
def export_ (sh : Shell) (arguments : List String) : Shell :=
  arguments.foldl (fun sh text =>
    match text.splitOn "=" with
    | name :: value :: rest =>
      { sh.set name ("=".intercalate (value :: rest)) with exported := name :: sh.exported }
    | _ => { sh with exported := text :: sh.exported }) (sh.leave 0)

/-- Forgets variables and functions. -/
def unset (sh : Shell) (names : List String) : Shell :=
  { (sh.leave 0) with
    assigned := sh.assigned.filter fun (name, _) => !names.contains name
    functions := sh.functions.filter fun (name, _) => !names.contains name }

/-- Sets the options of the shell and the arguments. -/
def setOptions (sh : Shell) (arguments : List String) : Shell :=
  let options := arguments.takeWhile fun a => (a.startsWith "-" || a.startsWith "+") && a ≠ "--"
  let sh := options.foldl (fun sh option =>
    let on := option.startsWith "-"
    { sh with
      strict := if option.contains 'e' then on else sh.strict
      wary := if option.contains 'u' then on else sh.wary
      traced := if option.contains 'x' then on else sh.traced }) (sh.leave 0)
  match arguments.drop options.length with
  | [] => sh
  | behind =>
    let behind := if behind.head? = some "--" then behind.drop 1 else behind
    { sh with arguments := sh.arguments.take 1 ++ behind }

/-- The words of a line for some variables; the last one takes what is left. -/
def splitLine : List String → List Char → List (String × String)
  | [], _ => []
  | [name], text =>
    let trimmed := ((text.dropWhile Char.isWhitespace).reverse.dropWhile Char.isWhitespace).reverse
    [(name, String.ofList trimmed)]
  | name :: names, text =>
    let text := text.dropWhile Char.isWhitespace
    let word := text.takeWhile fun c => !c.isWhitespace
    (name, String.ofList word) :: splitLine names (text.drop word.length)

/-- Reads a line of the input into variables. -/
def readInput (sh : Shell) (arguments : List String) : Shell :=
  let names := arguments.filter fun a => !a.startsWith "-"
  let text := sh.input.toList
  let line := text.takeWhile (· != '\n')
  let whole := line.length < text.length
  let sh := (splitLine names line).foldl (fun sh (name, value) => sh.set name value) sh
  { sh with
    status := if whole then 0 else 1
    input := String.ofList (text.drop (line.length + 1)) }

/-- Keeps actions for signals. -/
def trap (sh : Shell) (arguments : List String) : Shell :=
  match arguments.filter (· ≠ "--") with
  | action :: signals =>
    let keys := signals.map trapName
    let others := sh.traps.filter fun (key, _) => !keys.contains key
    { (sh.leave 0) with
      traps := if action = "-" then others else others ++ keys.map fun key => (key, action) }
  | [] => sh.leave 0

/-- The commands of the shell itself; there is none for another name. -/
def find? (sh : Shell) (name : String) (arguments : List String) : Option (Program Next) :=
  let done (sh : Program Shell) : Option (Program Next) := some (Next.done <$> sh)
  match name with
  | ":" | "true" | "umask" | "ulimit" | "hash" => done (pure (sh.leave 0))
  | "false" => done (pure (sh.leave 1))
  | "echo" =>
    let newline := arguments.head? ≠ some "-n"
    done ((sh.leave 0).writeBytes sh.out
      (Format.echoed newline (if newline then arguments else arguments.drop 1)))
  | "printf" =>
    if arguments.isEmpty then done (sh.report 2 "printf: usage: printf format [arg ...]")
    else none
  | "exit" => done (statusFrom sh "exit" arguments sh.finish)
  | "return" => done (statusFrom sh "return" arguments fun n =>
      { sh with status := n, jump := some .leaveFunction })
  | "break" => done (pure { sh with status := 0, jump := some (.leaveLoops (loopCount arguments)) })
  | "continue" =>
    done (pure { sh with status := 0, jump := some (.nextRound (loopCount arguments)) })
  | "cd" => done (changeDirectory sh arguments)
  | "export" | "readonly" | "local" => done (pure (export_ sh arguments))
  | "unset" => done (pure (unset sh (arguments.filter fun a => !a.startsWith "-")))
  | "set" => done (pure (setOptions sh arguments))
  | "shift" =>
    let count := loopCount arguments
    if sh.arguments.length ≤ count then done (sh.abort "shift: can't shift that many")
    else done (pure
      { (sh.leave 0) with arguments := sh.arguments.take 1 ++ sh.arguments.drop (count + 1) })
  | "read" => done (pure (readInput sh arguments))
  | "trap" => done (pure (trap sh arguments))
  | "kill" => some (pure (kill sh arguments))
  | "type" => done (if (Tool.find? sh (arguments.headD "") []).isSome then pure (sh.leave 0)
      else (sh.leave 127).print (arguments.headD "" ++ ": not found\n"))
  | _ => none

end BenchQueue.Machine.Builtin
