import BenchQueue.Flow
import BenchQueue.Machine.Command
import BenchQueue.Machine.Git
import BenchQueue.Machine.Script
import BenchQueue.Members
import BenchQueue.Number.Reader
import BenchQueue.Time.Duration
/-!
# Running programs

A machine runs shell scripts, a few tools and git. A program reads and changes the files of the
machine, may pause, and may write to the standard error of the program that started it; whoever runs
it decides what a pause is and may drop the program in one. A shell is the state of a script that
runs, and also what a tool works with.
-/

namespace BenchQueue.Machine

/-- What a running program asks of its machine. -/
inductive ProgramRequest
  | pause (d : Duration)
  | look
  | change (host : Git.Host)
  | variable (name : String)
  | diagnose (text : String)

/-- The kind of answer to a request of a program. -/
@[reducible] def ProgramRequest.Answer : ProgramRequest → Type
  | .pause _ => Unit
  | .look => Git.Host
  | .change _ => Unit
  | .variable _ => Option String
  | .diagnose _ => Unit

/-- The signature of running programs. -/
@[reducible] def Programs : Signature := ⟨ProgramRequest, ProgramRequest.Answer⟩

/-- A running program. -/
abbrev Program (α : Type) := Flow Programs α

/-- Makes one request of the machine. -/
def askMachine (r : ProgramRequest) : Program r.Answer := Flow.ask r Flow.done

/-- Runs a program up to its first pause. -/
def untilPause {α : Type} : Flow Programs α → Program Unit
  | .done _ => .done ()
  | .ask (.pause _) _ => .done ()
  | .ask r next => .ask r fun answer => untilPause (next answer)

/-- Changes the files of the machine, if the change is possible. -/
def changeFiles (change : Files → Except Fault Files) : Program (Option Fault) := do
  let host ← askMachine .look
  match change host.files with
  | .ok files =>
    askMachine (.change { host with files })
    pure none
  | .error fault => pure (some fault)

/-- The text of a failure without the number of the system. -/
def Fault.reason (fault : Fault) : String := (fault.text.splitOn " (os error").headD ""

/-- Where the output of a program ends up; `starter` is the standard error of the program that
started it from outside of every script. -/
inductive Outlet
  | discard
  | starter
  | file (path : String)
  | buffer (number : Nat)
  deriving DecidableEq, Repr

/-- Why a shell does not go on to the next command: it leaves loops, goes on with the next round of
one, leaves a function, has ended, or has killed itself. -/
inductive Jump
  | leaveLoops (count : Nat)
  | nextRound (count : Nat)
  | leaveFunction
  | ended (status : Nat)
  | killed (signal : Nat)
  deriving DecidableEq, Repr

/-- The number that stands for the program that starts a script from outside of every script. -/
def Shell.starterNumber : String := "4241"

/-- The number that stands for the shell itself. -/
def Shell.ownNumber : String := "4242"

/-- The number that stands for what the shell runs in the background. -/
def Shell.laterNumber : String := "4243"

/-- A shell that runs a script. `number` stands for the shell where it starts programs, `parent` for
who started it, `buffers` holds output that is kept, `later` what runs in the background. A shell that is `strict` ends when a command fails, unless the command is tested; one
that is `wary` ends when a parameter is not set; one that is `traced` reports its commands. -/
structure Shell where
  number : String := Shell.ownNumber
  parent : String := Shell.starterNumber
  arguments : List String := []
  assigned : Members String := []
  exported : List String := []
  functions : Members Script := []
  traps : Members String := []
  status : Nat := 0
  line : Nat := 0
  cwd : Path := []
  input : String := ""
  out : Outlet := .discard
  err : Outlet := .discard
  buffers : List String := []
  later : List Script := []
  jump : Option Jump := none
  strict : Bool := false
  tested : Bool := false
  wary : Bool := false
  traced : Bool := false
  deriving Inhabited

namespace Shell

/-- The file that stands for the standard error of the program that starts a script. -/
def starterDiagnostics : String := "/proc/" ++ starterNumber ++ "/fd/2"

/-- Writes bytes to an output. -/
def writeBytes (sh : Shell) (outlet : Outlet) (bytes : ByteArray) : Program Shell :=
  match outlet with
  | .discard => pure sh
  | .starter => do
    askMachine (.diagnose ((String.fromUTF8? bytes).getD ""))
    pure sh
  | .file path => do
    let _ ← changeFiles (·.append sh.cwd path bytes)
    pure sh
  | .buffer n =>
    let text := (String.fromUTF8? bytes).getD ""
    pure { sh with buffers := sh.buffers.zipIdx.map fun (b, i) => if i = n then b ++ text else b }

/-- Writes to the standard output. -/
def print (sh : Shell) (text : String) : Program Shell := sh.writeBytes sh.out text.toUTF8

/-- Writes to the standard error. -/
def complain (sh : Shell) (text : String) : Program Shell := sh.writeBytes sh.err text.toUTF8

/-- The shell after a command with a status. -/
def leave (sh : Shell) (status : Nat) : Shell := { sh with status }

/-- Reports a failure, with the script and the line that it is in. -/
def report (sh : Shell) (status : Nat) (text : String) : Program Shell :=
  (sh.leave status).complain <| (match sh.arguments with
    | script :: _ => script ++ ": " ++ toString sh.line ++ ": "
    | [] => "") ++ text ++ "\n"

/-- Ends the shell. -/
def finish (sh : Shell) (status : Nat) : Shell := { sh with status, jump := some (.ended status) }

/-- Reports a failure that ends the shell. -/
def abort (sh : Shell) (text : String) : Program Shell :=
  return (← sh.report 2 text).finish 2

/-- The directory as a name. -/
def directory (sh : Shell) : String := sh.cwd.text

/-- Gives a variable a value. -/
def set (sh : Shell) (name value : String) : Shell :=
  { sh with assigned := sh.assigned.insert name value }

/-- The value of a parameter, if it is set. -/
def parameter? (sh : Shell) (name : String) : Program (Option String) :=
  match name with
  | "?" => pure (some (toString sh.status))
  | "#" => pure (some (toString (sh.arguments.length - 1)))
  | "$" => pure (some ownNumber)
  | "!" => pure (some laterNumber)
  | "PPID" => pure (some sh.parent)
  | "-" => pure (some "")
  | "@" | "*" => pure (some (" ".intercalate (sh.arguments.drop 1)))
  | "PWD" => pure (some sh.directory)
  | name =>
    match parseWord? name with
    | some n => pure sh.arguments[n.toNat]?
    | none =>
      match sh.assigned.find? name with
      | some value => pure (some value)
      | none => askMachine (.variable name)

/-- The variables that a program is given that the shell starts. -/
def handedOver (sh : Shell) : Members String :=
  sh.assigned.filter fun (name, _) => sh.exported.contains name

/-- How a shell that has run its script has ended. -/
def exitStatus (sh : Shell) : ExitStatus :=
  match sh.jump with
  | some (.killed signal) => .signal signal
  | some (.ended status) => .code status
  | _ => .code sh.status

end Shell

/-- The status that a shell sees of a command that ended. -/
def ExitStatus.number : ExitStatus → Nat
  | .code n => n
  | .signal n => 128 + n

end BenchQueue.Machine
