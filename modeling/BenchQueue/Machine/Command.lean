/-!
# Commands

A program to be started on a machine with its arguments, and how it ended. A program that was
started ends with a code or by a signal.
-/

namespace BenchQueue.Machine

/-- Where the output of a program goes. -/
inductive Sink
  | inherited
  | file (path : String)
  | captured
  deriving DecidableEq, Repr

/-- A program to be started, with the directory to start it in. -/
structure Command where
  program : String
  arguments : List String
  workingDir : Option String := none
  stdout : Sink := .inherited
  stderr : Sink := .inherited
  deriving DecidableEq, Repr

/-- How a program ended. -/
inductive ExitStatus
  | code (n : Nat)
  | signal (n : Nat)
  deriving DecidableEq, Repr

/-- Whether a program ended without reporting a failure. -/
def ExitStatus.isSuccess : ExitStatus → Bool
  | .code 0 => true
  | _ => false

/-- The name of a signal behind its number. -/
def signalName : Nat → String
  | 1 => " (SIGHUP)"
  | 2 => " (SIGINT)"
  | 3 => " (SIGQUIT)"
  | 4 => " (SIGILL)"
  | 6 => " (SIGABRT)"
  | 8 => " (SIGFPE)"
  | 9 => " (SIGKILL)"
  | 10 => " (SIGUSR1)"
  | 11 => " (SIGSEGV)"
  | 12 => " (SIGUSR2)"
  | 13 => " (SIGPIPE)"
  | 14 => " (SIGALRM)"
  | 15 => " (SIGTERM)"
  | _ => ""

/-- The text about the end of a program. -/
def ExitStatus.text : ExitStatus → String
  | .code n => "exit status: " ++ toString n
  | .signal n => "signal: " ++ toString n ++ signalName n

/-- A program that has ended, with the output and the diagnostics that were captured. -/
structure Finished where
  status : ExitStatus
  output : String := ""
  diagnostics : String := ""
  deriving DecidableEq, Repr

end BenchQueue.Machine
