import BenchQueue.Run.Lifecycle
/-!
# Executing a run from its configuration file

An execution creates a run, prepares it, executes it under a deadline and cleans up. A failure is
reported with the name of the step it arose in; the failure of the execution outweighs that of the
clean up. Nothing is cleaned up unless the run got as far as being executed.
-/

namespace BenchQueue.Run

/-- The time that an execution may take unless another one is set. -/
def defaultDeadline : Duration := .ofSeconds 7200

/-- A failure with the name of the step it arose in. -/
def inStep (name : String) (result : Except Error Unit) : Except Error Unit :=
  result.mapError (.step name)

/-- The failure of an execution, or else the result of the clean up. -/
def firstFailure : Except Error Unit → Except Error Unit → Except Error Unit
  | .error e, _ => .error e
  | .ok (), cleaned => cleaned

/-- Takes a run that was created through its remaining steps. -/
def drive (deadline : Duration) (s : State) : Task (Except Error Unit) := do
  match ← s.prepare with
  | (.error e, _) => pure (.error (.step "prepare" e))
  | (.ok (), s) =>
    match ← s.openOutputs with
    | (.error e, _) => pure (.error (.step "prepare" e))
    | (.ok (), s) =>
      let (executed, s) ← s.execute deadline
      let cleaned ← s.cleanUp
      pure (firstFailure (inStep "execution" executed) (inStep "clean up" cleaned))

/-- Executes the run that a configuration file describes. That a run which was created is concluded at
the end is left out: this flushes its logs, and a failure of it is only logged. -/
def executeFile (deadline : Duration) (identifier : Identifier) (configPath : String) :
    Task (Except Error Unit) := do
  match ← create identifier configPath with
  | .error e => pure (.error (.step "create" e))
  | .ok s => drive deadline s

end BenchQueue.Run
